import ScriptBridge.SlotTable

/-! The slots that a signature gets: when a slot table is built, what it then consists of, and which type is named where
it is not. -/
namespace ScriptBridge
namespace SlotTable

section Parameters
variable {α : Type} (name : α → Nat → String) (kind : α → Kind) (type : α → Option HostType)

def parameterSlots (position : Nat) (params : List α) : List Slot :=
  (params.zipIdx position).map fun (p, i) => ⟨name p i, kind p, type p, .void⟩

variable {name kind type}

@[simp] theorem length_parameterSlots (position : Nat) (params : List α) :
    (parameterSlots name kind type position params).length = params.length := by
  simp [parameterSlots]

theorem getElem?_parameterSlots {position i : Nat} {params : List α} {p : α} (h : params[i]? = some p) :
    (parameterSlots name kind type position params)[i]? =
      some ⟨name p (position + i), kind p, type p, .void⟩ := by
  simp [parameterSlots, List.getElem?_zipIdx, h]

@[simp] theorem map_kind_parameterSlots (position : Nat) (params : List α) :
    (parameterSlots name kind type position params).map Slot.kind = params.map kind := by
  calc
    _ = ((params.zipIdx position).map Prod.fst).map kind := by
      rw [parameterSlots, List.map_map, List.map_map]
      rfl
    _ = _ := congrArg (List.map kind) (List.zipIdx_map_fst position params)

theorem mem_parameterSlots {position : Nat} {params : List α} {s : Slot}
    (h : s ∈ parameterSlots name kind type position params) :
    s.value = .void ∧ ∃ p ∈ params, s.kind = kind p := by
  obtain ⟨⟨p, i⟩, hp, rfl⟩ := List.mem_map.mp h
  exact ⟨rfl, p, List.fst_mem_of_mem_zipIdx hp, rfl⟩

/-- Either every parameter gets its slot, or the least one that cannot have a slot is named with its position. -/
theorem forParameters_spec (name : α → Nat → String) (kind : α → Kind) (type : α → Option HostType) (position : Nat)
    (params : List α) :
    ((∀ p ∈ params, (kind p).isParameter = true) ∧
      (params.zipIdx position).mapM (fun (p, i) => Slot.forParameter (name p i) (kind p) (type p) i) =
        .ok (parameterSlots name kind type position params)) ∨
    ∃ i p, params[i]? = some p ∧ (kind p).isParameter = false ∧
      (∀ j < i, ∀ q, params[j]? = some q → (kind q).isParameter = true) ∧
      (params.zipIdx position).mapM (fun (p, i) => Slot.forParameter (name p i) (kind p) (type p) i) =
        .error (.unrecognizedType (((type p).map HostType.label).getD (kind p).text) (position + i)) := by
  induction params generalizing position with
  | nil => exact .inl ⟨List.forall_mem_nil _, rfl⟩
  | cons p rest ih =>
    rw [List.zipIdx_cons, List.mapM_cons]
    cases hp : (kind p).isParameter with
    | false =>
      refine .inr ⟨0, p, rfl, hp, fun j hj => absurd hj (Nat.not_lt_zero j), ?_⟩
      simp only [Slot.forParameter, hp]
      rfl
    | true =>
      have first : Slot.forParameter (name p position) (kind p) (type p) position =
          .ok ⟨name p position, kind p, type p, .void⟩ := if_pos hp
      dsimp only
      rw [first]
      obtain ⟨fit, hr⟩ | ⟨i, q, hq, bad, least, hr⟩ := ih (position + 1)
      · refine .inl ⟨?_, ?_⟩
        · rintro q (_ | ⟨_, hq⟩)
          · exact hp
          · exact fit q hq
        · rw [hr]
          rfl
      · refine .inr ⟨i + 1, q, hq, bad, ?_, ?_⟩
        · intro j hj q' hq'
          cases j with
          | zero =>
            cases hq'
            exact hp
          | succ j => exact least j (Nat.lt_of_succ_lt_succ hj) q' hq'
        · rw [hr, Nat.add_assoc, Nat.add_comm 1 i]
          rfl

def layout (name : α → Nat → String) (kind : α → Kind) (type : α → Option HostType) (result : Kind)
    (resultType : Option HostType) (params : List α) : SlotTable :=
  ⟨⟨"__return", result, resultType, .void⟩, parameterSlots name kind type 1 params⟩

def declare (name : α → Nat → String) (kind : α → Kind) (type : α → Option HostType) (result : Kind)
    (resultType : Option HostType) (params : List α) : Except BindError SlotTable := do
  let result ← Slot.forResult result resultType
  let params ← (params.zipIdx 1).mapM fun (p, i) => Slot.forParameter (name p i) (kind p) (type p) i
  return { result, params }

variable {result : Kind} {resultType : Option HostType} {params : List α}

/-- The three ways in which building a table ends. -/
theorem declare_spec (name : α → Nat → String) (kind : α → Kind) (type : α → Option HostType) (result : Kind)
    (resultType : Option HostType) (params : List α) :
    (result.isRegistered = true ∧ (∀ p ∈ params, (kind p).isParameter = true) ∧
      declare name kind type result resultType params = .ok (layout name kind type result resultType params)) ∨
    (result.isRegistered = false ∧ declare name kind type result resultType params =
      .error (.unrecognizedType ((resultType.map HostType.label).getD result.text) 0)) ∨
    (result.isRegistered = true ∧ ∃ i p, params[i]? = some p ∧ (kind p).isParameter = false ∧
      (∀ j < i, ∀ q, params[j]? = some q → (kind q).isParameter = true) ∧
      declare name kind type result resultType params =
        .error (.unrecognizedType (((type p).map HostType.label).getD (kind p).text) (1 + i))) := by
  unfold declare Slot.forResult
  cases hr : result.isRegistered with
  | false => exact .inr (.inl ⟨rfl, rfl⟩)
  | true =>
    obtain ⟨fit, hp⟩ | ⟨i, p, hi, bad, least, hp⟩ := forParameters_spec name kind type 1 params
    · rw [hp]
      exact .inl ⟨rfl, fit, rfl⟩
    · rw [hp]
      exact .inr (.inr ⟨rfl, i, p, hi, bad, least, rfl⟩)

/-- A table is built exactly if the result has a kind, and every parameter one other than void. -/
theorem declare_eq_ok_iff {t : SlotTable} :
    declare name kind type result resultType params = .ok t ↔
      result.isRegistered = true ∧ (∀ p ∈ params, (kind p).isParameter = true) ∧
        t = layout name kind type result resultType params := by
  obtain ⟨hr, fit, h⟩ | ⟨hr, h⟩ | ⟨hr, i, p, hi, bad, -, h⟩ := declare_spec name kind type result resultType params
  · rw [h]
    constructor
    · intro ht
      cases ht
      exact ⟨hr, fit, rfl⟩
    · rintro ⟨-, -, rfl⟩
      rfl
  · rw [h, hr]
    constructor
    · intro ht
      cases ht
    · rintro ⟨registered, -, -⟩
      cases registered
  · rw [h]
    constructor
    · intro ht
      cases ht
    · rintro ⟨-, fit, -⟩
      rw [fit p (List.mem_of_getElem? hi)] at bad
      cases bad

private theorem declare_error {e : BindError} (h : declare name kind type result resultType params = .error e) :
    ∃ typeName position, e = .unrecognizedType typeName position := by
  obtain ⟨-, -, ht⟩ | ⟨-, ht⟩ | ⟨-, i, p, -, -, -, ht⟩ := declare_spec name kind type result resultType params
  · rw [ht] at h
    cases h
  · rw [ht] at h
    cases h
    exact ⟨_, _, rfl⟩
  · rw [ht] at h
    cases h
    exact ⟨_, _, rfl⟩

/-- A result without a kind and a parameter without one, or of the void kind, stop the table from being built. -/
theorem declare_unfit (name : α → Nat → String) (type : α → Option HostType) (resultType : Option HostType)
    (unfit : result.isRegistered = false ∨ ∃ p ∈ params, (kind p).isParameter = false) :
    ∃ e, declare name kind type result resultType params = .error e := by
  cases h : declare name kind type result resultType params with
  | error e => exact ⟨e, rfl⟩
  | ok t =>
    obtain ⟨registered, fit, -⟩ := declare_eq_ok_iff.mp h
    rcases unfit with bad | ⟨p, hp, bad⟩
    · cases bad.symm.trans registered
    · cases bad.symm.trans (fit p hp)

@[simp] theorem arity_layout (name : α → Nat → String) (kind : α → Kind) (type : α → Option HostType)
    (result : Kind) (resultType : Option HostType) (params : List α) :
    (layout name kind type result resultType params).arity = params.length :=
  length_parameterSlots 1 params

end Parameters

/-- The slots of a native signature. Its parameters have names by position. -/
def nativeLayout (kinds : KindMap) (result : HostType) (params : List HostType) : SlotTable :=
  layout (fun _ i => parameterName i) kinds.kindOf some (kinds.kindOf result) (some result) params

def scriptLayout (result : Kind) (params : List (String × Kind)) : SlotTable :=
  layout (fun p _ => p.1) Prod.snd (fun _ => none) result none params

theorem ofSignature_eq (kinds : KindMap) (result : HostType) (params : List HostType) :
    ofSignature kinds result params =
      declare (fun _ i => parameterName i) kinds.kindOf some (kinds.kindOf result) (some result) params := rfl

theorem ofScript_eq (result : Kind) (params : List (String × Kind)) :
    ofScript result params = declare (fun p _ => p.1) Prod.snd (fun _ => none) result none params := rfl

theorem ofSignature_eq_ok_iff {kinds : KindMap} {result : HostType} {params : List HostType} {t : SlotTable} :
    ofSignature kinds result params = .ok t ↔
      (kinds.kindOf result).isRegistered = true ∧ (∀ p ∈ params, (kinds.kindOf p).isParameter = true) ∧
        t = nativeLayout kinds result params := by
  rw [ofSignature_eq]
  exact declare_eq_ok_iff

theorem ofSignature_error {kinds : KindMap} {result : HostType} {params : List HostType} {e : BindError}
    (h : ofSignature kinds result params = .error e) : ∃ typeName position, e = .unrecognizedType typeName position := by
  rw [ofSignature_eq] at h
  exact declare_error h

theorem ofSignature_unfit {kinds : KindMap} {result : HostType} {params : List HostType}
    (unfit : (kinds.kindOf result).isRegistered = false ∨ ∃ t ∈ params, (kinds.kindOf t).isParameter = false) :
    ∃ e, ofSignature kinds result params = .error e := by
  rw [ofSignature_eq]
  exact declare_unfit _ _ _ unfit

theorem ofScript_eq_ok_iff {result : Kind} {params : List (String × Kind)} {t : SlotTable} :
    ofScript result params = .ok t ↔
      result.isRegistered = true ∧ (∀ p ∈ params, p.2.isParameter = true) ∧ t = scriptLayout result params := by
  rw [ofScript_eq]
  exact declare_eq_ok_iff

theorem ofScript_error {result : Kind} {params : List (String × Kind)} {e : BindError}
    (h : ofScript result params = .error e) : ∃ typeName position, e = .unrecognizedType typeName position := by
  rw [ofScript_eq] at h
  exact declare_error h

theorem ofScript_unfit {result : Kind} {params : List (String × Kind)}
    (unfit : result.isRegistered = false ∨ ∃ p ∈ params, p.2.isParameter = false) :
    ∃ e, ofScript result params = .error e := by
  rw [ofScript_eq]
  exact declare_unfit _ _ _ unfit

theorem map_kind_nativeLayout (kinds : KindMap) (result : HostType) (params : List HostType) :
    (nativeLayout kinds result params).params.map Slot.kind = params.map kinds.kindOf :=
  @map_kind_parameterSlots _ (fun _ i => parameterName i) kinds.kindOf some 1 params

theorem arity_nativeLayout (kinds : KindMap) (result : HostType) (params : List HostType) :
    (nativeLayout kinds result params).arity = params.length := arity_layout ..

theorem arity_scriptLayout (result : Kind) (params : List (String × Kind)) :
    (scriptLayout result params).arity = params.length := arity_layout ..

theorem arity_of_ofSignature {kinds : KindMap} {result : HostType} {params : List HostType} {t : SlotTable}
    (h : ofSignature kinds result params = .ok t) : t.arity = params.length := by
  obtain ⟨-, -, rfl⟩ := ofSignature_eq_ok_iff.mp h
  exact arity_nativeLayout kinds result params

theorem arity_of_ofScript {result : Kind} {params : List (String × Kind)} {t : SlotTable}
    (h : ofScript result params = .ok t) : t.arity = params.length := by
  obtain ⟨-, -, rfl⟩ := ofScript_eq_ok_iff.mp h
  exact arity_scriptLayout result params

end SlotTable
end ScriptBridge
