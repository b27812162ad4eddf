import ScriptBridge.Proofs.EntryLayout
import ScriptBridge.Proofs.ProgramDiscipline

/-! What slots hold, and what of a registry never changes, however calls, direct calls and guards nest. A slot is empty
or holds a value of its own kind; all else about the entries stays as it was when the registry was sealed. -/
namespace ScriptBridge
variable {P H : Type}

def Slot.Typed (s : Slot) : Prop := s.value = .void ∨ s.value.kind = s.kind

def SlotTable.Typed (t : SlotTable) : Prop := ∀ s ∈ t.slots, s.Typed

def World.Typed (w : World P H) : Prop := ∀ key t, w.table? key = some t → t.Typed

def Slot.declaration (s : Slot) : String × UInt32 × Kind × Option HostType := (s.name, s.key, s.kind, s.hostType)

namespace SlotTable
variable {t t' : SlotTable}

theorem New.typed (h : t.New) : t.Typed := fun s hs => .inl (h.empty s hs)

private theorem typed_clear (t : SlotTable) : t.clear.Typed := by
  intro s hs
  obtain rfl | hs := List.mem_cons.mp hs
  · exact .inl rfl
  · obtain ⟨s, -, rfl⟩ := List.mem_map.mp hs
    exact .inl rfl

/-- A write that is accepted gives the slot a value of its kind. -/
theorem Typed.set {i : Nat} {v : SlotValue} (ht : t.Typed) (h : t.set i v = .ok t') : t'.Typed := by
  obtain ⟨rfl, s, hs, hk⟩ := set_eq_ok h
  intro u hu
  obtain ⟨j, hj⟩ := List.mem_iff_getElem?.mp hu
  obtain ⟨old, hold, rfl⟩ := Option.map_eq_some_iff.mp ((t.slot?_put v i j).symm.trans hj)
  by_cases hij : i = j
  · subst hij
    obtain rfl : s = old := Option.some.inj (hs.symm.trans hold)
    rw [if_pos rfl]
    exact .inr hk
  · rw [if_neg hij]
    exact ht old (List.mem_of_getElem? hold)

/-- Values that do not fit stop the row of writes, and the others fit. -/
theorem Typed.fill (ht : t.Typed) (position : Nat) (values : List SlotValue) : (t.fill position values).2.Typed := by
  induction values generalizing t position with
  | nil => exact ht
  | cons v values ih =>
    rw [SlotTable.fill]
    split
    · rename_i t' h
      exact ih (ht.set h) (position + 1)
    · exact ht

private theorem map_declaration_clear (t : SlotTable) :
    t.clear.slots.map Slot.declaration = t.slots.map Slot.declaration := by
  simp [clear, slots, Slot.declaration, Slot.key, Function.comp_def]

end SlotTable

namespace World
variable {w : World P H}

theorem Typed.putTable (hw : w.Typed) (key : EntryKey) {t : SlotTable} (ht : t.Typed) : (w.putTable key t).Typed := by
  intro l u hu
  rw [table?_putTable] at hu
  split at hu
  · obtain ⟨-, -, rfl⟩ := Option.map_eq_some_iff.mp hu
    exact ht
  · exact hw l u hu

theorem Typed.enter (hw : w.Typed) (key : EntryKey) (values : List SlotValue) : (w.enter key values).Typed := by
  intro l u hu
  rw [enter_table?] at hu
  split at hu
  · obtain ⟨t, ht, rfl⟩ := Option.map_eq_some_iff.mp hu
    exact (hw l t ht).fill 1 values
  · exact hw l u hu

end World

/-- Every move keeps all slots typed. -/
theorem Move.typed {s s' : List Activation} {w w' : World P H} (step : Move s w s' w') (hw : w.Typed) : w'.Typed := by
  cases step with
  | write index value reached table accepted => exact hw.putTable _ ((hw _ _ table).set accepted)
  | clear reached table => exact hw.putTable _ (SlotTable.typed_clear _)
  | call c target arguments result ready free => exact hw.enter _ _
  | invoke arguments found accepted free => exact hw.enter _ _
  | elsewhere | guard | leave | drop => exact hw

theorem During.typed {base s : List Activation} {w₀ w : World P H} (run : During base w₀ s w) (hw : w₀.Typed) :
    w.Typed := by
  induction run with
  | start => exact hw
  | move _ step _ ih => exact step.typed ih

/-- The slots of a registry are empty when it is sealed, and so typed ever after. -/
theorem Reachable.typed {config : BindConfig} {history : List (Builder.Operation P)} {s : List Activation}
    {w : World P H} (h : Reachable ((Builder.new config).after history).build s w) : w.Typed := by
  obtain ⟨w₀, hr, -, run⟩ := h
  refine run.typed fun key t ht => ?_
  obtain ⟨e, found, rfl⟩ := Option.map_eq_some_iff.mp ht
  rw [hr] at found
  intro s hs
  exact .inl ((Builder.represented found).wellFormed.slots s hs).2

structure Entry.SameShape (e e' : Entry P) : Prop where
  scope : e'.scope = e.scope
  name : e'.name = e.name
  signature : e'.signature = e.signature
  behaviour : e'.behaviour = e.behaviour
  defaults : e'.defaults = e.defaults
  slots : e'.table.slots.map Slot.declaration = e.table.slots.map Slot.declaration

private theorem Entry.sameShape_of_blank {e e' : Entry P} (h : e'.blank = e.blank) : e.SameShape e' := by
  refine ⟨(congrArg Entry.scope h :), (congrArg Entry.name h :), signature_of_blank h, behaviour_of_blank h,
    (congrArg Entry.defaults h :), ?_⟩
  rw [← SlotTable.map_declaration_clear e'.table, clear_of_blank h, SlotTable.map_declaration_clear]

/-- The entries of a registry, as they are later on: all of them and no others, of the same shape, and with slots that
are empty or hold a value of their kind. -/
structure Intact (r : Registry P) (w : World P H) : Prop where
  typed : ∀ key e, w.registry.find? key = some e → ∀ s ∈ e.table.slots, s.value = .void ∨ s.value.kind = s.kind
  present : ∀ key, (w.registry.find? key).isSome = (r.find? key).isSome
  shape : ∀ key e e', r.find? key = some e → w.registry.find? key = some e' → e.SameShape e'

private theorem Reachable.intact {config : BindConfig} {history : List (Builder.Operation P)} {s : List Activation}
    {w : World P H} (h : Reachable ((Builder.new config).after history).build s w) :
    Intact ((Builder.new config).after history).build w := by
  have same := h.alike.entries
  refine ⟨fun key e found => ?_, fun key => ?_, fun key e e' found found' => ?_⟩
  · exact h.typed key e.table (congrArg (Option.map Entry.table) found)
  · rw [← Option.isSome_map, same key, Option.isSome_map]
  · have hk := same key
    rw [found, found'] at hk
    exact Entry.sameShape_of_blank (Option.some.inj hk)

structure StaysIntact (r : Registry P) (s : List Activation) (w : World P H) : Prop where
  now : Intact r w
  /-- All along every run of moves. -/
  run : ∀ s' w', During s w s' w' → Intact r w'
  /-- After a call, whether it succeeds or fails, with an executor that keeps to the setters of the tables. -/
  call : ∀ (fit : H → Prop) (c : Caller P H), fit w.host → c.executor.Disciplined fit →
    ∀ target arguments result, Intact r (c.call target arguments result w).2
  invoke : ∀ (fit : H → Prop) (run : Runner P H), fit w.host → run.Disciplined fit →
    ∀ key e receiver arguments, w.registry.find? key = some e → Intact r (w.invoke run e receiver arguments).2
  /-- After code has run on a table that is in use: an adapter, native code under some key, or a script body. -/
  code : ∀ (fit : H → Prop) (run : Runner P H), fit w.host → run.Disciplined fit → ∀ a rest, s = a :: rest →
    (∀ adapter receiver, Intact r (w.dispatch run adapter a.key receiver).2) ∧
    (∀ object key, Intact r (w.executeNative run object key a.key).2) ∧
    ∀ object key, Intact r (w.execute run object key a.key).2
  /-- After a guard under which code has made moves and ended what it began. -/
  guard : ∀ (α : Type) key e (body : World P H → Except BindError α × World P H),
    w.registry.find? key = some e →
    During (⟨.guard, e.key⟩ :: s) (w.hold e.key) (⟨.guard, e.key⟩ :: s) (body (w.hold e.key)).2 →
      Intact r (w.locking e body).2
  /-- A value of another kind is refused, and so is any value where there is no slot. -/
  refused : ∀ key t, w.table? key = some t → ∀ index value,
    (∀ slot, t.slot? index = some slot → value.kind ≠ slot.kind) → ∃ e, t.set index value = .error e

/-- A slot takes the values of its kind and no others. -/
theorem SlotTable.set_refused {t : SlotTable} {index : Nat} {value : SlotValue}
    (h : ∀ slot, t.slot? index = some slot → value.kind ≠ slot.kind) : ∃ e, t.set index value = .error e := by
  unfold set
  split
  · exact ⟨_, rfl⟩
  · rename_i slot hs
    rw [if_neg (h slot hs)]
    exact ⟨_, rfl⟩

/-- In every reachable state all slots are typed and the shape of the registry is that of the sealed one, and this
stays so. -/
theorem registry_stays_intact {config : BindConfig} {history : List (Builder.Operation P)} {s : List Activation}
    {w : World P H} (hw : Reachable ((Builder.new config).after history).build s w) :
    StaysIntact ((Builder.new config).after history).build s w := by
  have coherent := hw.coherent
  constructor
  · exact hw.intact
  · intro s' w' run
    exact (hw.during run).intact
  · intro fit c hf hc target arguments result
    have keeps := Caller.call_keeps (s := s) hc ⟨coherent, hf⟩ target arguments result
    exact (hw.during keeps.run).intact
  · intro fit run hf hr key e receiver arguments found
    have keeps := World.invoke_keeps (s := s) hr ⟨coherent, hf⟩ found receiver arguments
    exact (hw.during keeps.run).intact
  · rintro fit run hf hr a rest rfl
    refine ⟨?_, ?_, ?_⟩
    · intro adapter receiver
      have keeps := World.dispatch_keeps hr adapter receiver ⟨coherent, hf⟩ a rest
      exact (hw.during keeps.run).intact
    · intro object key
      have keeps := World.executeNative_disciplined hr object key w a rest ⟨coherent, hf⟩
      exact (hw.during keeps.run).intact
    · intro object key
      have keeps := World.execute_disciplined hr object key w a rest ⟨coherent, hf⟩
      exact (hw.during keeps.run).intact
  · intro α key e body found run
    have keeps : Keeps (fun _ => True) s w (w.locking e body).2 :=
      World.guard_keeps ⟨coherent, trivial⟩ found ⟨run, trivial⟩
    exact (hw.during keeps.run).intact
  · intro key t ht index value h
    exact SlotTable.set_refused h

section Sessions
open Session

private def careless : State :=
  .fresh ((Builder.new .standard).after
    [.register ⟨"", "Try", .int, [.int], .program [.set 1 (.string "one")], none⟩]).build
    ⟨.memory, none, [], none, []⟩

private abbrev tryKey : EntryKey := .ofNames "" "Try"

private abbrev tried : State :=
  (runSteps runProgram [.call (.function "Try") none [.value (.int 7)] .int, .slots tryKey (.write 2 (.int 2))]
    careless).2

/-- Neither write is accepted, and the slots hold what the call gave them. -/
theorem registry_stays_intact_try : Intact careless.registry tried ∧
    (tried.table? tryKey).map (·.slots.map (·.value)) = some [.void, .int 7] := by
  have hw : Reachable careless.registry [] careless := .fresh _ _
  have keeps := steps_keep (s := []) (w := careless) ⟨hw.coherent, rfl⟩
    [.call (.function "Try") none [.value (.int 7)] .int, .slots tryKey (.write 2 (.int 2))]
  exact ⟨(registry_stays_intact hw).run [] tried keeps.run, by decide +kernel⟩

end Sessions

end ScriptBridge
