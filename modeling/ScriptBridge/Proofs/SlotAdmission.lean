import ScriptBridge.Proofs.SlotLayout

/-! Which slot tables are built. Every position has a slot that is wanted there; either all of them come to stand in the
table, or the first whose kind is not admissible at its position is named. -/
namespace ScriptBridge

/-- The type of a slot as errors name it: the native type if there is one, and else the kind. -/
def Slot.typeName (s : Slot) : String := (s.hostType.map HostType.label).getD s.kind.text

namespace SlotTable

/-- A kind that the slot at a position may have: a known one, and for a parameter not that of an absent result. -/
def Admissible : Nat → Kind → Prop
  | 0, k => k ≠ .unregistered
  | _ + 1, k => k ≠ .unregistered ∧ k ≠ .void

/-- A table is built with the slot that is wanted at each position and no others, or else the type at the first position
whose kind is not admissible is named. -/
structure BuiltWhole (wanted : Nat → Option Slot) (outcome : Except BindError SlotTable) : Prop where
  whole : ∀ t, outcome = .ok t ↔ (∀ i s, wanted i = some s → Admissible i s.kind) ∧ ∀ i, t.slot? i = wanted i
  first : ∀ e, outcome = .error e ↔ ∃ i s, wanted i = some s ∧ ¬ Admissible i s.kind ∧
    (∀ j < i, ∀ s', wanted j = some s' → Admissible j s'.kind) ∧ e = .unrecognizedType s.typeName i

private theorem eq_of_slot? {t t' : SlotTable} (h : ∀ i, t.slot? i = t'.slot? i) : t = t' := by
  obtain ⟨result, params⟩ := t
  obtain ⟨result', params'⟩ := t'
  obtain ⟨rfl, rfl⟩ := List.cons.inj (List.ext_getElem? h)
  rfl

private theorem admissible_zero_iff {k : Kind} : Admissible 0 k ↔ k.isRegistered = true := by
  rw [Admissible, Kind.isRegistered, bne_iff_ne]

private theorem admissible_succ_iff {i : Nat} {k : Kind} : Admissible (i + 1) k ↔ k.isParameter = true := by
  rw [Admissible, Kind.isParameter, Kind.isRegistered, Bool.and_eq_true, bne_iff_ne, bne_iff_ne]

section Declared
variable {α : Type} (name : α → Nat → String) (kind : α → Kind) (type : α → Option HostType) (result : Kind)
  (resultType : Option HostType) (params : List α)

def wantedSlot : Nat → Option Slot
  | 0 => some ⟨"__return", result, resultType, .void⟩
  | i + 1 => params[i]?.map fun p => ⟨name p (i + 1), kind p, type p, .void⟩

variable {name kind type result resultType params}

private theorem slot?_layout (i : Nat) :
    (layout name kind type result resultType params).slot? i =
      wantedSlot name kind type result resultType params i := by
  cases i with
  | zero => rfl
  | succ i =>
    rw [wantedSlot]
    cases hp : params[i]? with
    | some p =>
      refine (getElem?_parameterSlots hp).trans ?_
      rw [Nat.add_comm 1 i]
      rfl
    | none =>
      refine List.getElem?_eq_none_iff.mpr ?_
      rw [slots, List.length_cons, layout, length_parameterSlots]
      exact Nat.succ_le_succ (List.getElem?_eq_none_iff.mp hp)

/-- All wanted slots are admissible exactly if the result and every parameter have a kind fit for them. -/
theorem forall_wantedSlot_iff :
    (∀ i s, wantedSlot name kind type result resultType params i = some s → Admissible i s.kind) ↔
      result.isRegistered = true ∧ ∀ p ∈ params, (kind p).isParameter = true := by
  constructor
  · intro h
    refine ⟨admissible_zero_iff.mp (h 0 _ rfl), fun p hp => ?_⟩
    obtain ⟨i, hi⟩ := List.mem_iff_getElem?.mp hp
    exact admissible_succ_iff.mp (h (i + 1) _ (congrArg (Option.map _) hi))
  · rintro ⟨registered, fit⟩ i s hs
    cases i with
    | zero =>
      cases hs
      exact admissible_zero_iff.mpr registered
    | succ i =>
      obtain ⟨p, hp, rfl⟩ := Option.map_eq_some_iff.mp hs
      exact admissible_succ_iff.mpr (fit p (List.mem_of_getElem? hp))

/-- Two positions at which building would stop are one. -/
theorem first_unique {wanted : Nat → Option Slot} {i j : Nat} {s s' : Slot}
    (hi : wanted i = some s) (bad : ¬ Admissible i s.kind)
    (least : ∀ k < i, ∀ u, wanted k = some u → Admissible k u.kind)
    (hj : wanted j = some s') (bad' : ¬ Admissible j s'.kind)
    (least' : ∀ k < j, ∀ u, wanted k = some u → Admissible k u.kind) : i = j := by
  rcases Nat.lt_trichotomy i j with hlt | heq | hgt
  · exact absurd (least' i hlt s hi) bad
  · exact heq
  · exact absurd (least j hgt s' hj) bad'

/-- Where building stops at a position, no table is built and that position is the one named. -/
theorem builtWhole_of_first {wanted : Nat → Option Slot} {i : Nat} {s : Slot}
    (hi : wanted i = some s) (bad : ¬ Admissible i s.kind)
    (least : ∀ k < i, ∀ u, wanted k = some u → Admissible k u.kind) :
    BuiltWhole wanted (.error (.unrecognizedType s.typeName i)) where
  whole t := by
    constructor
    · rintro ⟨⟩
    · rintro ⟨fit, -⟩
      exact absurd (fit i s hi) bad
  first e := by
    constructor
    · rintro ⟨⟩
      exact ⟨i, s, hi, bad, least, rfl⟩
    · rintro ⟨j, s', hj, bad', least', rfl⟩
      obtain rfl := first_unique hi bad least hj bad' least'
      obtain rfl := Option.some.inj (hi.symm.trans hj)
      rfl

private theorem declare_builtWhole : BuiltWhole (wantedSlot name kind type result resultType params)
    (declare name kind type result resultType params) := by
  obtain ⟨registered, fit, h⟩ | ⟨unknown, h⟩ | ⟨registered, i, p, hp, bad, least, h⟩ :=
    declare_spec name kind type result resultType params
  · have admissible : ∀ i s, wantedSlot name kind type result resultType params i = some s → Admissible i s.kind :=
      forall_wantedSlot_iff.mpr ⟨registered, fit⟩
    rw [h]
    constructor
    · intro t
      constructor
      · rintro ⟨⟩
        exact ⟨admissible, slot?_layout⟩
      · rintro ⟨-, same⟩
        exact congrArg _ (eq_of_slot? fun i => (slot?_layout i).trans (same i).symm)
    · intro e
      constructor
      · rintro ⟨⟩
      · rintro ⟨i, s, hi, bad, -⟩
        exact absurd (admissible i s hi) bad
  · rw [h]
    refine builtWhole_of_first (s := ⟨"__return", result, resultType, .void⟩) rfl ?_ fun k hk =>
      absurd hk (Nat.not_lt_zero k)
    rw [admissible_zero_iff, unknown]
    exact Bool.false_ne_true
  · rw [h, Nat.add_comm 1 i]
    refine builtWhole_of_first (s := ⟨name p (i + 1), kind p, type p, .void⟩) (congrArg (Option.map _) hp) ?_ ?_
    · rw [admissible_succ_iff, bad]
      exact Bool.false_ne_true
    · intro k hk u hu
      cases k with
      | zero =>
        cases hu
        exact admissible_zero_iff.mpr registered
      | succ k =>
        obtain ⟨q, hq, rfl⟩ := Option.map_eq_some_iff.mp hu
        exact admissible_succ_iff.mpr (least k (Nat.lt_of_succ_lt_succ hk) q hq)

end Declared

def nativeSlot (kinds : KindMap) (result : HostType) (params : List HostType) : Nat → Option Slot
  | 0 => some ⟨"__return", kinds.kindOf result, some result, .void⟩
  | i + 1 => params[i]?.map fun t => ⟨"_p" ++ toString (i + 1), kinds.kindOf t, some t, .void⟩

def scriptSlot (result : Kind) (params : List (String × Kind)) : Nat → Option Slot
  | 0 => some ⟨"__return", result, none, .void⟩
  | i + 1 => params[i]?.map fun p => ⟨p.1, p.2, none, .void⟩

/-- Whatever the types are mapped to, the table of a signature is built whole or the first type without a fitting kind
is named, that of the result first. The table of a function that a script declares obeys the same law. -/
theorem tables_built_whole :
    (∀ kinds result params, BuiltWhole (nativeSlot kinds result params) (ofSignature kinds result params)) ∧
      ∀ result params, BuiltWhole (scriptSlot result params) (ofScript result params) := by
  constructor
  · intro kinds result params
    have same : nativeSlot kinds result params =
        wantedSlot (fun _ i => parameterName i) kinds.kindOf some (kinds.kindOf result) (some result) params := by
      funext i
      cases i <;> rfl
    rw [same, ofSignature_eq]
    exact declare_builtWhole
  · intro result params
    have same : scriptSlot result params = wantedSlot (fun p _ => p.1) Prod.snd (fun _ => none) result none params := by
      funext i
      cases i <;> rfl
    rw [same, ofScript_eq]
    exact declare_builtWhole

/-- With the unit type taken away a function without a result has no table, whatever its parameters are. -/
example : ofSignature (KindMap.builtIn.register .unit .unregistered) .unit [.foreign "u64"] =
    .error (.unrecognizedType "()" 0) := rfl

end SlotTable
end ScriptBridge
