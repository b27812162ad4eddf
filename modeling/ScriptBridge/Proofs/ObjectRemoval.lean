import ScriptBridge.Proofs.ObjectUse

/-! What becomes of an object that is removed under its own class. One that nobody uses is handed back. One that is in
use is taken out of the table all the same, and nobody gets it. -/
namespace ScriptBridge

namespace ObjectTable
variable {t : ObjectTable} {id : ObjectId} {r : ObjectRecord}

/-- A removal under the class of the object either hands the object back or leaves all as it was. -/
def Kept (t : ObjectTable) (id : ObjectId) (r : ObjectRecord) : Prop :=
  (t.remove r.object.cls id).1 = some r.object.state ∨
    (t.remove r.object.cls id).2.records.find? id = some r ∧ t.SameFor (t.remove r.object.cls id).2 id

structure Removed (t : ObjectTable) (id : ObjectId) (r : ObjectRecord) : Prop where
  handedBack : id ∉ t.borrowed → (t.remove r.object.cls id).1 = some r.object.state
  lost : id ∈ t.borrowed → (t.remove r.object.cls id).1 = none
  gone : (t.remove r.object.cls id).2.Gone id
  others : ∀ l ≠ id, t.SameFor (t.remove r.object.cls id).2 l
  kept_iff : t.Kept id r ↔ id ∉ t.borrowed

private theorem stateOf?_self (object : HostObject) : object.stateOf? object.cls = some object.state := dif_pos rfl

/-- Whether the object is in use decides whether its state comes back. -/
theorem remove_fst (found : t.records.find? id = some r) :
    (t.remove r.object.cls id).1 = if id ∈ t.borrowed then none else some r.object.state := by
  unfold remove
  rw [found]
  dsimp only
  rw [stateOf?_self]

theorem Located.removed (ht : t.Located) (found : t.records.find? id = some r) : t.Removed id r where
  handedBack free := by rw [remove_fst found, if_neg free]
  lost used := by rw [remove_fst found, if_pos used]
  gone := ht.gone r.object.cls id
  others l hl := ht.same r.object.cls hl
  kept_iff := by
    rw [Kept, remove_fst found]
    constructor
    · rintro (back | ⟨here, -⟩) used
      · rw [if_pos used] at back
        cases back
      · rw [find?_remove, if_pos rfl] at here
        cases here
    · intro free
      exact .inl (if_neg free)

/-- What the table does not hold is gone. -/
theorem Located.absent (ht : t.Located) (absent : t.records.find? id = none) : t.Gone id := by
  apply gone_of_absent absent
  intro a ha
  have lies := ht a id ha
  rw [addressOf?, absent] at lies
  cases lies

section Run
variable {events later : List Event} {c : HostClass}

/-- An id that was removed is not given again. -/
theorem not_stands_after_remove (hn : registrations (events ++ .remove c id :: later) < UInt32.size)
    (present : (empty.after events).contains id = true) : ¬ Stands (events ++ .remove c id :: later) id := by
  induction later using List.reverseRecOn with
  | nil =>
    rw [stands_append]
    rintro (handed | ⟨-, kept⟩)
    · cases handed
    · exact kept c rfl
  | append_singleton later e ih =>
    rw [← List.cons_append, ← List.append_assoc] at hn ⊢
    have count := registrations_append (events ++ .remove c id :: later) e
    have more : registrations events ≤ registrations (events ++ .remove c id :: later) := by
      rw [registrations, registrations, List.countP_append]
      exact Nat.le_add_right _ _
    rw [stands_append, handsOut?_eq]
    rintro (handed | ⟨stands, -⟩)
    · cases hr : e.registers with
      | false =>
        rw [hr] at handed
        cases handed
      | true =>
        rw [hr, Bool.toNat_true] at count
        rw [hr, if_pos rfl] at handed
        -- the id given now is beyond all that were given before the removal
        have before : Consistent events := consistent (by omega)
        have now : Consistent (events ++ .remove c id :: later) := consistent (by omega)
        have given := (before.given id present).2
        have next := (now.next (by omega)).1
        rw [← Option.some.inj handed] at given
        dsimp only at given
        omega
    · exact ih (by omega) stands

private theorem gone_after_remove (hn : registrations (events ++ .remove c id :: later) < UInt32.size)
    (present : (empty.after events).contains id = true) : (empty.after (events ++ .remove c id :: later)).Gone id := by
  have h := consistent hn
  apply h.located.absent
  by_contra found
  exact not_stands_after_remove hn present ((h.stands id).mp (Option.isSome_iff_ne_none.mpr found))

end Run
end ObjectTable

namespace Session
open ObjectTable (Event registrations Removed)

/-- What is in use at some point of a session: nothing between its steps, and an object for as long as the host holds it
or a method of it runs. -/
structure InUse (config : BindConfig) (style : JournalStyle) : Prop where
  between : ∀ steps, (runSteps runProgram steps (.start config style)).2.objects.borrowed = []
  held : ∀ (w : State) (id : ObjectId) steps, id ∈ (runSteps runProgram steps (w.borrow id)).2.objects.borrowed
  running : ∀ (w : State) (id : ObjectId) depth instructions frame,
    id ∈ (runInstructions (runNested depth) instructions frame (w.borrow id)).2.objects.borrowed
  reached : ∀ steps, ∃ events, (runSteps runProgram steps (.start config style)).2.objects =
    ObjectTable.empty.after events

private theorem inUse (config : BindConfig) (style : JournalStyle) : InUse config style where
  between steps := (runSteps_uses runProgram_endsUses steps _).borrowed
  held w id steps := by
    rw [(runSteps_uses runProgram_endsUses steps _).borrowed]
    exact List.mem_cons_self
  running w id depth instructions frame := by
    rw [(runInstructions_uses (runNested_endsUses depth) instructions frame _).borrowed]
    exact List.mem_cons_self
  reached steps := by
    obtain ⟨events, -, h⟩ := runSteps_uses runProgram_endsUses steps (.start config style)
    exact ⟨events, h⟩

/-- After every run, an object that is removed under its own class is handed back if nobody uses it, and lost if
somebody does. Either way its id and its address lead to nothing any more, whatever happens later, and no other object is
touched. In a session the objects in use are those that the host holds and those whose methods run, so that a removal
between the steps loses nothing. -/
theorem removal_loses_objects_in_use {events : List Event} (hn : registrations events < UInt32.size) {id : ObjectId}
    {r : ObjectRecord} (found : (ObjectTable.empty.after events).records.find? id = some r) (config : BindConfig)
    (style : JournalStyle) :
    (ObjectTable.empty.after events).Removed id r ∧
    (∀ later, registrations (events ++ .remove r.object.cls id :: later) < UInt32.size →
      (ObjectTable.empty.after (events ++ .remove r.object.cls id :: later)).Gone id) ∧
    InUse config style ∧
    ∀ (steps : List Step) (id : ObjectId) (r : ObjectRecord),
      (runSteps runProgram steps (.start config style)).2.objects.records.find? id = some r →
        ((runSteps runProgram steps (.start config style)).2.objects.remove r.object.cls id).1 =
          some r.object.state := by
  refine ⟨(ObjectTable.consistent hn).located.removed found, fun later hl => ?_, inUse config style, ?_⟩
  · have present : (ObjectTable.empty.after events).contains id = true := by
      rw [ObjectTable.contains, Directory.contains, found, Option.isSome_some]
    exact ObjectTable.gone_after_remove hl present
  · intro steps id r found
    rw [ObjectTable.remove_fst found, (inUse config style).between steps, if_neg List.not_mem_nil]

section Instance
open HostLibrary

private def counter : HostObject := ⟨counterClass, (7 : Int32)⟩

private def counterRecord : ObjectRecord := ⟨counter, [nameHash "Counter"], .cell 1⟩

private def counterInUse : List Event := [.register (.cell 1) counter [nameHash "Counter"], .borrow ⟨1⟩]

private def addCounter : Step := .objects (.register counter none)

/-- Between the steps of a session the counter comes back, and in use it does not. -/
theorem removal_loses_objects_in_use_counter :
    ((runSteps runProgram [addCounter] (.start .standard .memory)).2.objects.remove counterClass ⟨1⟩).1 =
      some (7 : Int32) ∧
    (ObjectTable.empty.after counterInUse).Removed ⟨1⟩ counterRecord := by
  have few : registrations counterInUse < UInt32.size := by decide
  have found : (ObjectTable.empty.after counterInUse).records.find? ⟨1⟩ = some counterRecord := rfl
  obtain ⟨removed, -, -, between⟩ := removal_loses_objects_in_use few found .standard .memory
  exact ⟨between [addCounter] ⟨1⟩ counterRecord rfl, removed⟩

private def takenWhileHeld : List Step := [addCounter, .holdObject ⟨1⟩ [.objects (.remove counterClass ⟨1⟩)]]

/-- The removal gives nothing back, and afterwards the counter is gone. -/
theorem held_object_lost :
    (runSteps runProgram [addCounter] (.start .standard .memory)).2.objects.records.find? ⟨1⟩ = some counterRecord ∧
    ¬ ((runSteps runProgram [addCounter] (.start .standard .memory)).2.borrow ⟨1⟩).objects.Kept ⟨1⟩ counterRecord ∧
    Session.run .standard .memory takenWhileHeld =
      [.mk (.id ⟨1⟩) [] [], .mk (.answers (.ok [.mk .nothing [] []])) [] []] ∧
    (runSteps runProgram takenWhileHeld (.start .standard .memory)).2.objects.Gone ⟨1⟩ := by
  refine ⟨rfl, ?_, rfl, rfl, rfl, rfl, rfl, fun a ha => ?_⟩
  · rintro (back | ⟨here, -⟩)
    · cases back
    · cases here
  · cases ha

end Instance
end Session
end ScriptBridge
