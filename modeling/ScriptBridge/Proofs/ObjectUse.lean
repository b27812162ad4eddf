import ScriptBridge.Proofs.ObjectIdentity
import ScriptBridge.Proofs.Shape
import ScriptBridge.Session.Run

/-! Which objects are in use. Whatever code does to the objects is a run of events in which each use that begins also
ends, so that at any time the objects in use are those of the code in progress. -/
namespace ScriptBridge

namespace ObjectTable

/-- What code does to the objects of a table while the uses `base` are in progress: the events, and the uses that are in
progress after them, the latest first. A use begins only where its object is available, and it ends before those that it
began in. -/
inductive Course (base : List ObjectId) (t : ObjectTable) : List Event → List ObjectId → Prop where
  | start : Course base t [] base
  | register {events s} (before : Course base t events s) (address : Address) (object : HostObject)
      (namespaces : List UInt32) : Course base t (events ++ [.register address object namespaces]) s
  | remove {events s} (before : Course base t events s) (c : HostClass) (id : ObjectId) :
      Course base t (events ++ [.remove c id]) s
  | put {events s} (before : Course base t events s) (id : ObjectId) (object : HostObject) :
      Course base t (events ++ [.put id object]) s
  | borrow {events s id object} (before : Course base t events s)
      (available : (t.after events).available? id = some object) : Course base t (events ++ [.borrow id]) (id :: s)
  | giveBack {events s id} (before : Course base t events (id :: s)) (above : base <:+ s) :
      Course base t (events ++ [.giveBack id]) s

private theorem borrowed_remove (t : ObjectTable) (c : HostClass) (id : ObjectId) :
    (t.remove c id).2.borrowed = t.borrowed := by
  unfold remove
  split <;> rfl

theorem after_after (t : ObjectTable) (events later : List Event) :
    t.after (events ++ later) = (t.after events).after later := List.foldl_append

namespace Course
variable {t : ObjectTable} {base s s' : List ObjectId} {events later : List Event} {id : ObjectId}

theorem suffix (h : Course base t events s) : base <:+ s := by
  induction h with
  | start => exact List.suffix_refl base
  | register before _ _ _ ih | remove before _ _ ih | put before _ _ ih => exact ih
  | borrow before available ih => exact ih.trans (List.suffix_cons _ _)
  | giveBack before above ih => exact above

/-- What was in use before stays so. -/
theorem mem (h : Course base t events s) (used : id ∈ base) : id ∈ s := h.suffix.subset used

theorem trans (h : Course base t events s) (j : Course s (t.after events) later s') :
    Course base t (events ++ later) s' := by
  induction j with
  | start =>
    rw [List.append_nil]
    exact h
  | register before address object namespaces ih =>
    rw [← List.append_assoc]
    exact ih.register address object namespaces
  | remove before c id ih =>
    rw [← List.append_assoc]
    exact ih.remove c id
  | put before id object ih =>
    rw [← List.append_assoc]
    exact ih.put id object
  | borrow before available ih =>
    rw [← List.append_assoc]
    rw [← after_after] at available
    exact ih.borrow available
  | giveBack before above ih =>
    rw [← List.append_assoc]
    exact ih.giveBack (h.suffix.trans above)

/-- The objects in use are those of the uses in progress. -/
theorem borrowed (h : Course base t events s) (hb : t.borrowed = base) : (t.after events).borrowed = s := by
  induction h with
  | start => exact hb
  | register before _ _ _ ih | put before _ _ ih =>
    rw [after_append]
    exact ih
  | remove before c id ih =>
    rw [after_append]
    exact (borrowed_remove _ c id).trans ih
  | borrow before available ih =>
    rw [after_append]
    exact congrArg _ ih
  | @giveBack events s id before above ih =>
    rw [after_append]
    change (t.after events).borrowed.erase id = s
    rw [ih]
    exact List.erase_cons_head id s

/-- No object is in two uses, since one that is in use is not available. -/
theorem nodup (h : Course base t events s) (hb : t.borrowed = base) (distinct : base.Nodup) : s.Nodup := by
  induction h with
  | start => exact distinct
  | register before _ _ _ ih | remove before _ _ ih | put before _ _ ih => exact ih
  | borrow before available ih =>
    refine List.nodup_cons.mpr ⟨fun used => ?_, ih⟩
    rw [available?, before.borrowed hb, if_pos used] at available
    cases available
  | giveBack before above ih => exact (List.nodup_cons.mp ih).2

/-- A whole use, from its beginning to its end. -/
theorem use {object : HostObject} (available : t.available? id = some object)
    (inside : Course (id :: base) (t.apply (.borrow id)) events (id :: base)) :
    Course base t (.borrow id :: (events ++ [.giveBack id])) base := by
  have begun : Course base t [.borrow id] (id :: base) := Course.start.borrow available
  exact (begun.trans inside).giveBack (List.suffix_refl base)

end Course
end ObjectTable

namespace World
open ObjectTable (Course Event)
variable {P H : Type}

def Passes (w : World P H) (base : List ObjectId) (events : List Event) (s : List ObjectId) (w' : World P H) : Prop :=
  Course base w.objects events s ∧ w'.objects = w.objects.after events

def Uses (w w' : World P H) : Prop := ∃ events, w.Passes w.objects.borrowed events w.objects.borrowed w'

variable {w w' w'' : World P H}

theorem Uses.of_eq (h : w'.objects = w.objects) : Uses w w' := ⟨[], .start, h⟩

theorem Uses.borrowed (h : Uses w w') : w'.objects.borrowed = w.objects.borrowed := by
  obtain ⟨events, course, hw⟩ := h
  rw [hw, course.borrowed rfl]

theorem Uses.trans (h : Uses w w') (j : Uses w' w'') : Uses w w'' := by
  have same := h.borrowed
  obtain ⟨events, course, hw⟩ := h
  obtain ⟨later, course', hw'⟩ := j
  rw [same, hw] at course'
  refine ⟨events ++ later, course.trans course', ?_⟩
  rw [hw', hw, ObjectTable.after_after]

private theorem reporting_uses {α : Type} {o : Except BindError α × World P H} (h : Uses w o.2) :
    Uses w (reporting o).2 := by
  obtain ⟨_ | _, w'⟩ := o <;> exact h

private theorem locking_uses {α : Type} {entry : Entry P} {body : World P H → Except BindError α × World P H}
    (hb : Uses (w.hold entry.key) (body (w.hold entry.key)).2) : Uses w (w.locking entry body).2 := by
  unfold locking
  split
  · exact .of_eq rfl
  · exact hb

theorem borrowing_uses {α : Type} {id : ObjectId} {body : HostObject → World P H → α × World P H}
    (hb : ∀ object, Uses (w.borrow id) (body object (w.borrow id)).2) : Uses w (w.borrowing id body).2 := by
  cases available : w.objects.available? id with
  | none =>
    rw [borrowing_none body available]
    exact .of_eq rfl
  | some object =>
    -- the only place where a use begins, and it ends with the body
    obtain ⟨events, course, hw⟩ := hb object
    rw [borrowing_some body available]
    refine ⟨_, course.use available, ?_⟩
    rw [← List.cons_append, ObjectTable.after_append]
    exact congrArg (ObjectTable.apply · (.giveBack id)) hw

private theorem adopt_objects (w : World P H) (context : EntryKey) (o : Except BindError SlotTable) :
    (w.adopt context o).2.objects = w.objects := by
  cases o <;> rfl

private theorem putReceiver_uses (w : World P H) (receiver : Option (ObjectId × HostObject))
    (object : Option HostObject) : Uses w (w.putReceiver receiver object) := by
  unfold putReceiver
  split
  · exact ⟨_, .put .start _ _, rfl⟩
  · exact .of_eq rfl

private theorem fill_objects (w : World P H) (key : EntryKey) (values : List SlotValue) :
    (w.fill key values).2.objects = w.objects := by
  rw [fill_snd]
  cases w.table? key <;> rfl

end World

section Code
variable {P H : Type}

def Runner.EndsUses (run : Runner P H) : Prop := ∀ p f w, World.Uses w (run p f w).2

def Executor.EndsUses (execute : Executor P H) : Prop :=
  ∀ object key context w, World.Uses w (execute object key context w).2

namespace World
variable {run : Runner P H}

theorem dispatch_uses (hr : run.EndsUses) (adapter : Adapter P) (context : EntryKey)
    (receiver : Option (ObjectId × HostObject)) (w : World P H) :
    Uses w (w.dispatch run adapter context receiver).2 := by
  unfold dispatch
  split
  · exact hr _ _ w
  · exact .of_eq rfl
  · exact .of_eq (w.adopt_objects _ _)
  · exact (w.putReceiver_uses _ _).trans (.of_eq (adopt_objects ..))

theorem executeNative_endsUses (hr : run.EndsUses) : Executor.EndsUses (executeNative run) := by
  intro object key context w
  unfold executeNative
  split
  · exact .of_eq rfl
  · split
    · exact dispatch_uses hr _ _ _ w
    · exact borrowing_uses fun receiver => dispatch_uses hr _ _ _ _

private theorem execute_endsUses (hr : run.EndsUses) : Executor.EndsUses (execute run) := by
  intro object key context w
  unfold execute
  split
  · exact hr _ _ w
  · exact executeNative_endsUses hr object key context w

theorem invoke_uses (hr : run.EndsUses) (entry : Entry P) (receiver : Option (ObjectId × HostObject))
    (arguments : List SlotValue) (w : World P H) : Uses w (w.invoke run entry receiver arguments).2 := by
  refine reporting_uses ?_
  unfold attemptInvoke
  split
  · exact .of_eq rfl
  · rename_i adapter _
    split
    · exact .of_eq rfl
    · split
      · exact .of_eq rfl
      · refine locking_uses ?_
        have filled : Uses (w.hold entry.key) ((w.hold entry.key).fill entry.key arguments).2 :=
          .of_eq (fill_objects ..)
        generalize (w.hold entry.key).fill entry.key arguments = o at filled ⊢
        obtain ⟨_ | _, w'⟩ := o
        · exact filled
        · have ran := filled.trans (dispatch_uses hr adapter entry.key receiver w')
          dsimp only
          generalize w'.dispatch run adapter entry.key receiver = o at ran ⊢
          obtain ⟨_ | _, w''⟩ := o <;> exact ran

end World

namespace Caller

theorem call_uses {c : Caller P H} (hc : c.executor.EndsUses) (target : CallTarget) (arguments : List Argument)
    (result : HostType) (w : World P H) : World.Uses w (c.call target arguments result w).2 := by
  refine World.reporting_uses ?_
  unfold attempt complete
  split
  · exact .of_eq rfl
  · rename_i p _
    have performed : World.Uses w (c.perform p w).2 := by
      refine World.locking_uses ?_
      have filled : World.Uses (w.hold p.entry.key) ((w.hold p.entry.key).fill p.entry.key p.arguments).2 :=
        .of_eq (World.fill_objects ..)
      generalize (w.hold p.entry.key).fill p.entry.key p.arguments = o at filled ⊢
      obtain ⟨_ | _, w'⟩ := o
      · exact filled
      · have ran := filled.trans (hc p.object p.entry.key p.entry.key w')
        dsimp only
        generalize c.executor p.object p.entry.key p.entry.key w' = o at ran ⊢
        obtain ⟨_ | _, w''⟩ := o <;> exact ran
    generalize c.perform p w = o at performed ⊢
    obtain ⟨_ | _, w'⟩ := o <;> exact performed

end Caller
end Code

namespace Session
open World (Uses)
variable {w : State}

private theorem answer_uses {before : State} {o : Reply × State} (h : Uses w o.2) :
    Uses w (State.answer before o).2 := h

private theorem reportAll_objects (w : State) (ds : List Diagnostic) : (w.reportAll ds).objects = w.objects := by
  unfold State.reportAll
  induction ds generalizing w with
  | nil => rfl
  | cons d ds ih => exact ih (w.report d)

private theorem build_uses (w : State) (b : Builder Program) (s : BuildStep Program) : Uses w (w.build b s).2 := by
  cases s with
  | mapKind | status | has | build => exact .of_eq rfl
  | register | install | declare | attach => exact .of_eq (reportAll_objects w _)

private theorem onTable_uses (f : Frame) (w : State) (change : SlotTable → Except BindError SlotTable) :
    Uses w (onTable f w change).2 := by
  unfold onTable
  split
  · exact .of_eq rfl
  · split <;> exact .of_eq rfl

private theorem onObjects_uses (w : State) (o : ObjectStep) : Uses w (w.onObjects o).2 := by
  cases o with
  | register object namespaces => exact ⟨_, .register .start (w.objects.place object.cls) object _, rfl⟩
  | remove c id => exact ⟨_, .remove .start c id, rfl⟩
  | note id name =>
    unfold State.onObjects
    dsimp only
    split <;> exact .of_eq rfl
  | state c id =>
    simp only [State.onObjects, World.borrowingAs_read]
    exact .of_eq rfl
  | status | has | entry | find => exact .of_eq rfl

private theorem onJournal_uses (w : State) (j : JournalStep) : Uses w (w.onJournal j).2 := by
  cases j with
  | report d => exact .of_eq rfl
  | status | take =>
    unfold State.onJournal
    dsimp only
    split <;> exact .of_eq rfl

private theorem onSlots_uses (w : State) (entry : Entry Program) (o : SlotStep) : Uses w (w.onSlots entry o).2 := by
  unfold State.onSlots
  cases o with
  | list | clear => exact World.locking_uses (.of_eq rfl)
  | write index value =>
    refine World.locking_uses ?_
    split <;> exact .of_eq rfl

-- By recursion over the instructions and steps, as they run. A step that calls a program goes through `again`, of which
-- the same is assumed here.
mutual

theorem runInstructions_uses {again : Runner Program HostState} (ha : again.EndsUses) :
    ∀ (is : List Instruction) (f : Frame) (w : State), Uses w (runInstructions again is f w).2
  | [], f, w => .of_eq rfl
  | i :: rest, f, w => by
    have hi := runInstruction_uses ha i f w
    have hrest := runInstructions_uses ha rest f
    unfold runInstructions
    generalize runInstruction again i f w = o at hi ⊢
    obtain ⟨_ | _, w'⟩ := o
    · exact hi
    · exact hi.trans (hrest w')

private theorem runInstruction_uses {again : Runner Program HostState} (ha : again.EndsUses) :
    ∀ (i : Instruction) (f : Frame) (w : State), Uses w (runInstruction again i f w).2
  | .set slot value, f, w => onTable_uses f w _
  | .copy source target, f, w => onTable_uses f w _
  | .sum, f, w => onTable_uses f w _
  | .clear, f, w => onTable_uses f w _
  | .dump, f, w => by
    show Uses w (((w.table? f.context).map fun t => w.giveOut (.slots t)).getD w)
    cases w.table? f.context <;> exact .of_eq rfl
  | .receiver, f, w => .of_eq rfl
  | .fail e, f, w => .of_eq rfl
  | .step o, f, w => runStep_uses ha o w

private theorem runStep_uses {again : Runner Program HostState} (ha : again.EndsUses) :
    ∀ (o : Step) (w : State), Uses w (runStep again o w).2
  | .build b, w => by
    refine answer_uses ?_
    split
    · exact build_uses w.withoutOutput _ b
    · exact .of_eq rfl
  | .showBinding b, w => .of_eq rfl
  | .inspect i, w => .of_eq rfl
  | .objects o, w => answer_uses (onObjects_uses w.withoutOutput o)
  | .journal j, w => answer_uses (onJournal_uses w.withoutOutput j)
  | .publish, w => by
    unfold runStep
    refine answer_uses ?_
    by_cases sealed : w.isSealed = true
    · rw [if_pos sealed]
      split <;> exact .of_eq rfl
    · rw [if_neg sealed]
      exact .of_eq rfl
  | .published, w => .of_eq rfl
  | .call callee scope arguments result, w => by
    refine answer_uses ?_
    split
    · exact Caller.call_uses (World.execute_endsUses ha) _ _ _ w.withoutOutput
    · exact .of_eq rfl
  | .invoke key arguments receiver, w => by
    refine answer_uses ?_
    split
    · exact .of_eq rfl
    · exact World.invoke_uses ha _ none arguments w.withoutOutput
    · exact World.borrowing_uses (w := w.withoutOutput) fun object => World.invoke_uses ha _ _ arguments _
  | .execute context key object, w => by
    refine answer_uses ?_
    split
    · exact .of_eq rfl
    · exact World.locking_uses (w := w.withoutOutput) (World.executeNative_endsUses ha object key context _)
  | .slots key o, w => by
    refine answer_uses ?_
    split
    · exact .of_eq rfl
    · exact onSlots_uses w.withoutOutput _ o
  | .holdTable key steps, w => by
    refine answer_uses ?_
    split
    · exact .of_eq rfl
    · exact World.locking_uses (w := w.withoutOutput) (runSteps_uses ha steps _)
  | .holdObject id steps, w => by
    exact answer_uses (World.borrowing_uses (w := w.withoutOutput) fun _ => runSteps_uses ha steps _)

theorem runSteps_uses {again : Runner Program HostState} (ha : again.EndsUses) :
    ∀ (os : List Step) (w : State), Uses w (runSteps again os w).2
  | [], w => .of_eq rfl
  | o :: rest, w => by
    have ho := runStep_uses ha o w
    have hrest := runSteps_uses ha rest (runStep again o w).2
    unfold runSteps
    exact ho.trans hrest

end

/-- Programs end each use of an object that they begin, however they nest. -/
theorem runNested_endsUses (depth : Nat) : (runNested depth).EndsUses := by
  induction depth with
  | zero => exact fun p f w => .of_eq rfl
  | succ depth ih => exact fun p f w => runInstructions_uses ih p f w

theorem runProgram_endsUses : runProgram.EndsUses := fun p f w => runNested_endsUses _ p f w

end Session
end ScriptBridge
