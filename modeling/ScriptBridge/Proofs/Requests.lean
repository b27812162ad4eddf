import ScriptBridge.Proofs.Registration
import ScriptBridge.Proofs.SlotLayout

/-! The registration phase request by request. Every operation is a row of single requests, and a request either fails and
leaves the builder alone, or publishes one entry, or attaches one default record, or maps a type. -/
namespace ScriptBridge

def BindError.IsUnfit : BindError → Prop
  | .tooManyParameters .. | .unrecognizedType .. | .defaultsMismatch .. => True
  | _ => False

namespace DefaultRecord

theorem checkKinds_error {function : String} {position : Nat} {params : List (String × SlotValue)}
    {slots : List Slot} {e : BindError} (h : checkKinds function position params slots = .error e) : e.IsUnfit := by
  induction params generalizing position slots with
  | nil => cases h
  | cons p rest ih =>
    cases slots with
    | nil => cases h
    | cons s slots =>
      rw [checkKinds] at h
      split at h
      · exact ih h
      · cases h
        trivial

theorem validate_error {r : DefaultRecord} {function : String} {table : SlotTable} {kinds : Bool} {e : BindError}
    (h : r.validate function table kinds = .error e) : e.IsUnfit := by
  simp only [validate] at h
  split at h
  · cases h
    trivial
  · split at h
    · exact checkKinds_error h
    · cases h

end DefaultRecord

namespace Builder
variable {P : Type}

inductive Request (P : Type) where
  | mapKind (t : HostType) (k : Kind)
  | register (binding : Binding P)
  | declareScript (scope name : String) (result : Kind) (params : List (String × Kind)) (body : Option P)
  | attachDefaults (key : EntryKey) (record : DefaultRecord)

def Operation.requests : Operation P → List (Request P)
  | .mapKind t k => [.mapKind t k]
  | .register binding => [.register binding]
  | .install bindings => bindings.map .register
  | .declareScript scope name result params body => [.declareScript scope name result params body]
  | .attachDefaults key record => [.attachDefaults key record]

def Outcome.map {α β : Type} (f : α → β) (o : Outcome P α) : Outcome P β := ⟨o.result.map f, o.reports, o.builder⟩

theorem Outcome.map_ok {α β : Type} {f : α → β} {o : Outcome P α} {a : α} (h : o.result = .ok a) :
    (o.map f).result = .ok (f a) := by
  rw [map, h]
  rfl

theorem Outcome.map_error {α β : Type} {f : α → β} {o : Outcome P α} {e : BindError} :
    (o.map f).result = .error e ↔ o.result = .error e := by
  obtain ⟨result, reports, builder⟩ := o
  cases result <;> simp [map, Except.map]

def serve (b : Builder P) : Request P → Outcome P (Option EntryKey)
  | .mapKind t k => ⟨.ok none, [], b.mapKind t k⟩
  | .register binding => (b.register binding).map some
  | .declareScript scope name result params body => (b.declareScript scope name result params body).map some
  | .attachDefaults key record => (b.attachDefaults key record).map fun _ => none

def serveAll (b : Builder P) (requests : List (Request P)) : Builder P :=
  requests.foldl (fun b r => (b.serve r).builder) b

theorem install_builder (b : Builder P) (bindings : List (Binding P)) :
    (b.install bindings).2.2 = b.serveAll (bindings.map .register) := by
  induction bindings generalizing b with
  | nil => rfl
  | cons binding rest ih => exact ih (b.register binding).builder

theorem apply_eq_serveAll (b : Builder P) (o : Operation P) : b.apply o = b.serveAll o.requests := by
  cases o with
  | install bindings => exact b.install_builder bindings
  | _ => rfl

/-- A history is the row of all its requests. -/
theorem after_eq_serveAll (b : Builder P) (history : List (Operation P)) :
    b.after history = b.serveAll (history.flatMap Operation.requests) := by
  induction history generalizing b with
  | nil => rfl
  | cons o history ih =>
    have ho : b.after (o :: history) = (b.apply o).after history := rfl
    rw [ho, ih, apply_eq_serveAll, List.flatMap_cons, serveAll, serveAll, serveAll, List.foldl_append]

def Request.asked? (kinds : KindMap) : Request P → Option (Entry P)
  | .register binding =>
    (SlotTable.ofSignature kinds binding.returnType binding.params).toOption.map fun table =>
      { Entry.make binding.scope binding.name (.native binding.adapter) table with defaults := binding.defaults }
  | .declareScript scope name result params body =>
    (SlotTable.ofScript result params).toOption.map fun table => Entry.make scope name (.script body) table
  | .mapKind .. | .attachDefaults .. => none

def Request.label? : Request P → Option (String × String)
  | .register binding => some (binding.scope, binding.name)
  | .declareScript scope name .. => some (scope, name)
  | .mapKind .. | .attachDefaults .. => none

theorem Request.label?_of_asked {kinds : KindMap} {r : Request P} {entry : Entry P}
    (h : r.asked? kinds = some entry) : r.label? = some (entry.scope, entry.name) := by
  cases r with
  | mapKind | attachDefaults => cases h
  | register | declareScript =>
    obtain ⟨table, -, rfl⟩ := Option.map_eq_some_iff.mp h
    rfl

/-- What a registration asks for declares the shape of its slot table. -/
theorem Request.coherent_of_asked {kinds : KindMap} {r : Request P} {entry : Entry P}
    (h : r.asked? kinds = some entry) : entry.Coherent := by
  cases r with
  | mapKind | attachDefaults => cases h
  | register | declareScript =>
    obtain ⟨table, -, rfl⟩ := Option.map_eq_some_iff.mp h
    rfl

def Suits (b : Builder P) (entry : Entry P) (record : DefaultRecord) : Prop :=
  record.validate entry.qualified entry.table b.config.validateDefaults = .ok ()

/-- A registration asks for an entry that passes every check but the one for duplicates. -/
structure Fits (b : Builder P) (r : Request P) (entry : Entry P) : Prop where
  asked : r.asked? b.kinds = some entry
  limit : entry.arity ≤ b.config.maxParameters
  suits : ∀ record ∈ entry.defaults, b.Suits entry record

inductive Served (b : Builder P) : Request P → Outcome P (Option EntryKey) → Prop where
  | mapped (t : HostType) (k : Kind) : Served b (.mapKind t k) ⟨.ok none, [], b.mapKind t k⟩
  | unfit {r e} (registers : r.label?.isSome = true) (refused : ∀ entry, ¬ b.Fits r entry) (check : e.IsUnfit) :
      Served b r (b.fail e)
  | conflict {r entry existing} (fits : b.Fits r entry) (taken : b.entries.find? entry.key = some existing)
      (policy : b.config.duplicatePolicy = .reject) :
      Served b r (b.fail (.registrationConflict existing.scope existing.name))
  /-- An entry is published, and with a warning if it takes the place of another. -/
  | published {r entry} (fits : b.Fits r entry)
      (free : b.config.duplicatePolicy = .reject → b.entries.find? entry.key = none) :
      Served b r ⟨.ok (some entry.key), (b.entries.find? entry.key).toList.map fun _ =>
          ⟨.warning, s!"'{entry.qualified}' registered twice, replacing the earlier entry"⟩,
        { b with entries := b.entries.insert entry.key entry }⟩
  | missing {key record} (absent : b.entries.find? key = none) :
      Served b (.attachDefaults key record) (b.fail (.targetNotFound s!"no entry for key {key.text}"))
  | documented {key record entry} (found : b.entries.find? key = some entry) (has : entry.defaults.isSome = true) :
      Served b (.attachDefaults key record) (b.fail (.defaultsAlreadyAttached entry.qualified))
  | unsuited {key record entry e} (found : b.entries.find? key = some entry) (none : entry.defaults = none)
      (refused : record.validate entry.qualified entry.table b.config.validateDefaults = .error e) :
      Served b (.attachDefaults key record) (b.fail e)
  | attached {key record entry} (found : b.entries.find? key = some entry) (none : entry.defaults = none)
      (suits : b.Suits entry record) :
      Served b (.attachDefaults key record) ⟨.ok .none, [], { b with
        entries := b.entries.modify key fun e => { e with defaults := some record } }⟩

section Serve
variable {b : Builder P}

private theorem checkArity_eq_ok_iff {scope name : String} {arity : Nat} :
    b.checkArity scope name arity = .ok () ↔ arity ≤ b.config.maxParameters := by
  unfold checkArity
  split
  · rename_i h
    exact ⟨fun hk => (nomatch hk), fun hk => absurd hk (Nat.not_le_of_lt h)⟩
  · rename_i h
    exact ⟨fun _ => Nat.le_of_not_lt h, fun _ => rfl⟩

private theorem checkArity_error {scope name : String} {arity : Nat} {e : BindError}
    (h : b.checkArity scope name arity = .error e) : e.IsUnfit := by
  unfold checkArity at h
  split at h <;> cases h
  trivial

private theorem arity_make {scope name : String} {behaviour : Behaviour P} {table : SlotTable} :
    (Entry.make scope name behaviour table).arity = table.arity :=
  List.length_map Slot.kind

/-- The checks of a binding give exactly the entry that it asks for, if that fits. -/
theorem nativeEntry_eq_ok_iff {binding : Binding P} {entry : Entry P} :
    b.nativeEntry binding = .ok entry ↔ b.Fits (.register binding) entry := by
  constructor
  · intro h
    obtain ⟨⟨⟩, ha, h⟩ := bind_eq_ok h
    obtain ⟨table, ht, h⟩ := bind_eq_ok h
    obtain ⟨suits, rfl⟩ : (∀ record ∈ binding.defaults,
        record.validate binding.label table b.config.validateDefaults = .ok ()) ∧
        { Entry.make binding.scope binding.name (.native binding.adapter) table with
          defaults := binding.defaults } = entry := by
      cases hd : binding.defaults with
      | none =>
        rw [hd] at h
        cases h
        exact ⟨fun record hr => (nomatch hr), rfl⟩
      | some record =>
        simp only [hd] at h
        obtain ⟨⟨⟩, hv, h⟩ := bind_eq_ok h
        cases h
        refine ⟨fun record' hr => ?_, rfl⟩
        obtain rfl : record = record' := Option.some.inj hr
        exact hv
    constructor
    · simp only [Request.asked?, ht]
      rfl
    · show (Entry.make binding.scope binding.name (.native binding.adapter) table).arity ≤ _
      rw [arity_make, SlotTable.arity_of_ofSignature ht]
      exact checkArity_eq_ok_iff.mp ha
    · exact suits
  · rintro ⟨asked, limit, suits⟩
    obtain ⟨table, ht, rfl⟩ := Option.map_eq_some_iff.mp asked
    have ht := toOption_eq_some ht
    have ha : b.checkArity binding.scope binding.name binding.params.length = .ok () := by
      change (Entry.make binding.scope binding.name (.native binding.adapter) table).arity ≤ _ at limit
      rw [arity_make, SlotTable.arity_of_ofSignature ht] at limit
      exact checkArity_eq_ok_iff.mpr limit
    simp only [nativeEntry, ha, ht]
    cases hd : binding.defaults with
    | none => rfl
    | some record =>
      have hv : record.validate binding.label table b.config.validateDefaults = .ok () := suits record hd
      simp only [Bind.bind, Except.bind, hv]
      rfl

private theorem nativeEntry_error {binding : Binding P} {e : BindError} (h : b.nativeEntry binding = .error e) :
    e.IsUnfit := by
  rcases bind_eq_error h with ha | ⟨-, -, h⟩
  · exact checkArity_error ha
  rcases bind_eq_error h with ht | ⟨table, -, h⟩
  · obtain ⟨typeName, position, rfl⟩ := SlotTable.ofSignature_error ht
    trivial
  cases hd : binding.defaults with
  | none =>
    rw [hd] at h
    cases h
  | some record =>
    simp only [hd] at h
    rcases bind_eq_error h with hv | ⟨-, -, h⟩
    · exact DefaultRecord.validate_error hv
    · cases h

/-- So do the checks of a declaration. -/
theorem declaration_eq_ok_iff {scope name : String} {result : Kind} {params : List (String × Kind)} {body : Option P}
    {entry : Entry P} :
    (∃ table, (do b.checkArity scope name params.length; SlotTable.ofScript result params) = .ok table ∧
        Entry.make scope name (.script body) table = entry) ↔
      b.Fits (.declareScript scope name result params body) entry := by
  constructor
  · rintro ⟨table, h, rfl⟩
    obtain ⟨⟨⟩, ha, ht⟩ := bind_eq_ok h
    constructor
    · simp only [Request.asked?, ht]
      rfl
    · rw [arity_make, SlotTable.arity_of_ofScript ht]
      exact checkArity_eq_ok_iff.mp ha
    · intro record hr
      cases hr
  · rintro ⟨asked, limit, -⟩
    obtain ⟨table, ht, rfl⟩ := Option.map_eq_some_iff.mp asked
    have ht := toOption_eq_some ht
    have ha : b.checkArity scope name params.length = .ok () := by
      rw [arity_make, SlotTable.arity_of_ofScript ht] at limit
      exact checkArity_eq_ok_iff.mpr limit
    refine ⟨table, ?_, rfl⟩
    rw [ha]
    exact ht

private theorem declaration_error {scope name : String} {result : Kind} {params : List (String × Kind)} {e : BindError}
    (h : (do b.checkArity scope name params.length; SlotTable.ofScript result params) = .error e) : e.IsUnfit := by
  rcases bind_eq_error h with ha | ⟨-, -, ht⟩
  · exact checkArity_error ha
  · obtain ⟨typeName, position, rfl⟩ := SlotTable.ofScript_error ht
    trivial

/-- What fits is published, unless it is a duplicate that is refused. -/
private theorem served_publish {r : Request P} {entry : Entry P} (fits : b.Fits r entry) :
    Served b r ((b.publish entry).map some) := by
  cases hf : b.entries.find? entry.key with
  | none =>
    have done := Served.published fits fun _ => hf
    simp only [publish, hf] at done ⊢
    exact done
  | some existing =>
    cases hp : b.config.duplicatePolicy with
    | reject =>
      simp only [publish, hf, hp]
      exact .conflict fits hf hp
    | lastWins =>
      have done := Served.published fits fun h => by rw [hp] at h; cases h
      simp only [publish, hf, hp] at done ⊢
      exact done

/-- What serving a request comes to, for every request. -/
theorem served (b : Builder P) (r : Request P) : Served b r (b.serve r) := by
  cases r with
  | mapKind t k => exact .mapped t k
  | register binding =>
    cases he : b.nativeEntry binding with
    | error e =>
      have refused : ∀ entry, ¬ b.Fits (.register binding) entry := by
        intro entry fits
        cases he.symm.trans (nativeEntry_eq_ok_iff.mpr fits)
      simp only [serve, register, he]
      exact .unfit rfl refused (nativeEntry_error he)
    | ok entry =>
      simp only [serve, register, he]
      exact served_publish (nativeEntry_eq_ok_iff.mp he)
  | declareScript scope name result params body =>
    cases ht : (do b.checkArity scope name params.length; SlotTable.ofScript result params) with
    | error e =>
      have refused : ∀ entry, ¬ b.Fits (.declareScript scope name result params body) entry := by
        intro entry fits
        obtain ⟨table, hk, -⟩ := declaration_eq_ok_iff.mpr fits
        cases ht.symm.trans hk
      simp only [serve, declareScript, ht]
      exact .unfit rfl refused (declaration_error ht)
    | ok table =>
      simp only [serve, declareScript, ht]
      exact served_publish (declaration_eq_ok_iff.mp ⟨table, ht, rfl⟩)
  | attachDefaults key record =>
    cases found : b.entries.find? key with
    | none =>
      simp only [serve, attachDefaults, found]
      exact .missing found
    | some entry =>
      cases hd : entry.defaults with
      | some earlier =>
        have has : entry.defaults.isSome = true := by rw [hd]; rfl
        simp only [serve, attachDefaults, found, has, if_true]
        exact .documented found has
      | none =>
        have has : entry.defaults.isSome = false := by rw [hd]; rfl
        cases hv : record.validate entry.qualified entry.table b.config.validateDefaults with
        | error e =>
          simp only [serve, attachDefaults, found, has, Bool.false_eq_true, if_false, hv]
          exact .unsuited found hd hv
        | ok u =>
          simp only [serve, attachDefaults, found, has, Bool.false_eq_true, if_false, hv]
          exact .attached found hd hv

end Serve
end Builder
end ScriptBridge
