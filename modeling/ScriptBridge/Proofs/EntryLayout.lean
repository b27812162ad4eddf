import ScriptBridge.ConfigText
import ScriptBridge.Proofs.Publication

/-! What every published entry looks like: its key, its slots as its registration declared them, and the shape that it
shows without its slot table. -/
namespace ScriptBridge

private theorem Kind.isParameter_iff {k : Kind} : k.isParameter = true ↔ k.isRegistered = true ∧ k ≠ .void := by
  cases k <;> decide

structure SlotTable.New (t : SlotTable) : Prop where
  empty : ∀ s ∈ t.slots, s.value = .void
  result : t.result.name = "__return" ∧ t.result.kind.isRegistered = true
  params : ∀ s ∈ t.params, s.kind.isParameter = true

private theorem SlotTable.new_layout {α : Type} {name : α → Nat → String} {kind : α → Kind} {type : α → Option HostType}
    {result : Kind} {resultType : Option HostType} {params : List α} (registered : result.isRegistered = true)
    (fit : ∀ p ∈ params, (kind p).isParameter = true) : (layout name kind type result resultType params).New := by
  refine ⟨fun s hs => ?_, ⟨rfl, registered⟩, fun s hs => ?_⟩
  · obtain rfl | hs := List.mem_cons.mp hs
    · rfl
    · exact (mem_parameterSlots hs).1
  · obtain ⟨-, p, hp, hk⟩ := mem_parameterSlots hs
    rw [hk]
    exact fit p hp

namespace Builder
variable {P : Type}

structure Native (kinds : KindMap) (binding : Binding P) (e : Entry P) : Prop where
  names : e.scope = binding.scope ∧ e.name = binding.name
  adapter : e.adapter? = some binding.adapter
  result : e.table.slot? 0 =
    some ⟨"__return", kinds.kindOf binding.returnType, some binding.returnType, .void⟩
  length : e.table.params.length = binding.params.length
  params : ∀ i t, binding.params[i]? = some t →
    e.table.slot? (i + 1) = some ⟨"_p" ++ toString (i + 1), kinds.kindOf t, some t, .void⟩

structure Scripted (scope name : String) (result : Kind) (params : List (String × Kind)) (e : Entry P) : Prop where
  names : e.scope = scope ∧ e.name = name
  result : e.table.slot? 0 = some ⟨"__return", result, none, .void⟩
  length : e.table.params.length = params.length
  params : ∀ i p, params[i]? = some p → e.table.slot? (i + 1) = some ⟨p.1, p.2, none, .void⟩

/-- What a registration asks for has a new slot table, with the slots that it declares. -/
theorem Request.asked?_cases {kinds : KindMap} {r : Request P} {entry : Entry P} (h : r.asked? kinds = some entry) :
    entry.table.New ∧
      ((∃ binding, r = .register binding ∧ entry.behaviour = .native binding.adapter ∧ Native kinds binding entry) ∨
        ∃ scope name result params body, r = .declareScript scope name result params body ∧
          entry.behaviour = .script body ∧ Scripted scope name result params entry) := by
  cases r with
  | mapKind | attachDefaults => cases h
  | register binding =>
    obtain ⟨table, ht, rfl⟩ := Option.map_eq_some_iff.mp h
    obtain ⟨registered, fit, rfl⟩ := SlotTable.ofSignature_eq_ok_iff.mp (toOption_eq_some ht)
    refine ⟨SlotTable.new_layout registered fit, .inl ⟨binding, rfl, rfl, ⟨rfl, rfl⟩, rfl, rfl, ?_, ?_⟩⟩
    · exact SlotTable.arity_nativeLayout kinds binding.returnType binding.params
    · intro i t hi
      have hs := @SlotTable.getElem?_parameterSlots _ (fun _ i => SlotTable.parameterName i) kinds.kindOf some 1 _ _ _ hi
      rwa [Nat.add_comm 1 i] at hs
  | declareScript scope name result params body =>
    obtain ⟨table, ht, rfl⟩ := Option.map_eq_some_iff.mp h
    obtain ⟨registered, fit, rfl⟩ := SlotTable.ofScript_eq_ok_iff.mp (toOption_eq_some ht)
    refine ⟨SlotTable.new_layout registered fit, .inr ⟨scope, name, result, params, body, rfl, rfl, ⟨rfl, rfl⟩, rfl,
      ?_, ?_⟩⟩
    · exact SlotTable.arity_scriptLayout result params
    · intro i p hi
      exact @SlotTable.getElem?_parameterSlots _ (fun p _ => p.1) Prod.snd (fun _ => none) 1 _ _ _ hi

end Builder

/-- The slots of an entry, its key and the shape that it shows fit each other, and its slots are empty. -/
structure Entry.WellFormed {P : Type} (limit : Nat) (e : Entry P) : Prop where
  key : e.key = ⟨nameHash e.scope, nameHash e.name⟩
  arity : e.arity ≤ limit
  length : e.table.slots.length = e.arity + 1
  slots : ∀ s ∈ e.table.slots, s.key = nameHash s.name ∧ s.value = .void
  result : ∃ s, e.table.slot? 0 = some s ∧ s.name = "__return" ∧ s.kind.isRegistered = true
  params : ∀ i s, e.table.slot? (i + 1) = some s → s.kind.isRegistered = true ∧ s.kind ≠ .void
  signature : e.signature = ⟨e.table.result.kind, e.table.params.map Slot.kind, e.table.params.map Slot.name⟩

private theorem Entry.Coherent.length_slots {P : Type} {e : Entry P} (h : e.Coherent) :
    e.table.slots.length = e.arity + 1 := by
  rw [Entry.arity, Signature.arity, h, Signature.ofTable, List.length_map]
  rfl

theorem Entry.wellFormed {P : Type} {limit : Nat} {e : Entry P} (new : e.table.New) (coherent : e.Coherent)
    (arity : e.arity ≤ limit) : e.WellFormed limit := by
  refine ⟨rfl, arity, coherent.length_slots, fun s hs => ⟨rfl, new.empty s hs⟩, ⟨e.table.result, rfl, new.result⟩,
    fun i s hs => ?_, coherent⟩
  exact Kind.isParameter_iff.mp (new.params s (List.mem_of_getElem? hs))

/-- A configuration from a text allows no more parameters than any text may. -/
theorem BindConfig.maxParameters_of_ofText {text : String} {config : BindConfig} (h : ofText text = .ok config) :
    config.maxParameters ≤ parameterLimit := by
  unfold ofText at h
  split at h
  · cases h
  · unfold validate at h
    split at h
    · rename_i hc
      cases h
      exact hc.2
    · cases h

namespace Builder
variable {P : Type}

/-- A registration that asks for no entry fails and leaves the builder alone. -/
theorem serve_of_asked?_eq_none {b : Builder P} {r : Request P} (registers : r.label?.isSome = true)
    (h : r.asked? b.kinds = none) : (∃ e, (b.serve r).result = .error e) ∧ (b.serve r).builder = b := by
  have hs := b.served r
  generalize b.serve r = o at hs ⊢
  cases hs with
  | mapped | missing | documented | unsuited | attached => cases registers
  | unfit => exact ⟨⟨_, rfl⟩, rfl⟩
  | conflict fits | published fits => cases h.symm.trans fits.asked

private theorem register_unfit {b : Builder P} {binding : Binding P}
    (unfit : (b.kinds.kindOf binding.returnType).isRegistered = false ∨
      ∃ t ∈ binding.params, (b.kinds.kindOf t).isParameter = false) :
    (∃ e, (b.register binding).result = .error e) ∧ (b.register binding).builder = b := by
  obtain ⟨e, ht⟩ := SlotTable.ofSignature_unfit unfit
  have none : (Request.register binding).asked? b.kinds = none := by
    rw [Request.asked?, ht]
    rfl
  obtain ⟨⟨e, he⟩, hb⟩ := serve_of_asked?_eq_none rfl none
  exact ⟨⟨e, Outcome.map_error.mp he⟩, hb⟩

private theorem declareScript_unfit {b : Builder P} {scope name : String} {result : Kind}
    {params : List (String × Kind)}
    {body : Option P} (unfit : result.isRegistered = false ∨ ∃ p ∈ params, p.2.isParameter = false) :
    (∃ e, (b.declareScript scope name result params body).result = .error e) ∧
      (b.declareScript scope name result params body).builder = b := by
  obtain ⟨e, ht⟩ := SlotTable.ofScript_unfit unfit
  have none : (Request.declareScript scope name result params body).asked? b.kinds = none := by
    rw [Request.asked?, ht]
    rfl
  obtain ⟨⟨e, he⟩, hb⟩ := serve_of_asked?_eq_none rfl none
  exact ⟨⟨e, Outcome.map_error.mp he⟩, hb⟩

structure Represented (config : BindConfig) (history : List (Operation P)) (key : EntryKey) (e : Entry P) : Prop where
  key : e.key = key
  wellFormed : e.WellFormed config.maxParameters
  /-- Native types have the kinds that they had when the entry was registered. -/
  native : ∀ adapter, e.behaviour = .native adapter → ∃ before binding after,
    history.flatMap Operation.requests = before ++ .register binding :: after ∧
      Native ((new config).serveAll before).kinds binding e
  script : ∀ body, e.behaviour = .script body → ∃ before scope name result params after,
    history.flatMap Operation.requests = before ++ .declareScript scope name result params body :: after ∧
      Scripted scope name result params e

structure EntriesRepresented (config : BindConfig) (history : List (Operation P)) : Prop where
  entries : ∀ key e, ((new config).after history).entries.find? key = some e → Represented config history key e
  registry : ∀ key e, ((new config).after history).build.find? key = some e → Represented config history key e
  /-- A configuration from a text leaves room for sixteen slots at most. -/
  sixteen : ∀ text, BindConfig.ofText text = .ok config →
    ∀ key e, ((new config).after history).build.find? key = some e → e.table.slots.length ≤ 16
  /-- A signature with a type that has no kind, or with a void parameter, is refused and changes nothing. -/
  native_refused : ∀ binding : Binding P,
    ((((new config).after history).kinds.kindOf binding.returnType).isRegistered = false ∨
      ∃ t ∈ binding.params, (((new config).after history).kinds.kindOf t).isParameter = false) →
    (∃ e, (((new config).after history).register binding).result = .error e) ∧
      (((new config).after history).register binding).builder = (new config).after history
  script_refused : ∀ scope name result params body,
    (result.isRegistered = false ∨ ∃ p ∈ params, p.2.isParameter = false) →
    (∃ e, (((new config).after history).declareScript scope name result params body).result = .error e) ∧
      (((new config).after history).declareScript scope name result params body).builder = (new config).after history

theorem represented {config : BindConfig} {history : List (Operation P)} {key : EntryKey} {e : Entry P}
    (found : ((new config).after history).entries.find? key = some e) : Represented config history key e := by
  obtain ⟨before, r, after, registered, hr, hk, origin⟩ := origin found
  obtain ⟨new, declared⟩ := Request.asked?_cases origin.fits.asked
  have coherent := Request.coherent_of_asked origin.fits.asked
  rw [origin.same]
  constructor
  · exact hk
  · exact Entry.wellFormed new coherent origin.limit
  · intro adapter hb
    obtain ⟨binding, rfl, -, slots⟩ | ⟨_, _, _, _, _, -, hb', -⟩ := declared
    · exact ⟨before, binding, after, hr, slots.names, slots.adapter, slots.result, slots.length, slots.params⟩
    · cases hb.symm.trans hb'
  · intro body hb
    obtain ⟨_, -, hb', -⟩ | ⟨scope, name, result, params, body', rfl, hb', slots⟩ := declared
    · cases hb.symm.trans hb'
    · obtain ⟨⟩ := Behaviour.script.inj (hb'.symm.trans hb)
      exact ⟨before, scope, name, result, params, after, hr, slots.names, slots.result, slots.length, slots.params⟩

/-- Every history of the registration phase leads to entries that are represented as they were declared. -/
theorem entries_represented (config : BindConfig) (history : List (Operation P)) :
    EntriesRepresented config history := by
  constructor
  · intro key e found
    exact represented found
  · intro key e found
    exact represented found
  · intro text ht key e found
    have formed := (represented found).wellFormed
    rw [formed.length]
    exact Nat.succ_le_succ (Nat.le_trans formed.arity (BindConfig.maxParameters_of_ofText ht))
  · intro binding unfit
    exact register_unfit unfit
  · intro scope name result params body unfit
    exact declareScript_unfit unfit

end Builder
end ScriptBridge
