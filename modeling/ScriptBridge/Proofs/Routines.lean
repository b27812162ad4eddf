import ScriptBridge.Proofs.Discipline

/-! Code as the tree of its steps. A run of a tree keeps a record of the values that it stores in the result slot, and
without the record it is a run of code as a host has it: typed adapters, native executors and executors of script bodies
are trees wherever hand-written code is. -/
namespace ScriptBridge
variable {P H : Type}

/-- Code on a slot table. It writes and empties the table through the setters, and what else it does depends on the
state before and changes it. -/
inductive Routine (P H : Type) where
  | done (result : Except BindError Unit)
  | write (index : Nat) (value : SlotValue) (next : Except BindError Unit → Routine P H)
  | clear (next : Routine P H)
  | act (effect : World P H → World P H) (next : World P H → Routine P H)

/-- How a run ends, the state that it leaves, and the values that it has stored in the result slot, the last one
last. -/
structure Recorded (P H : Type) where
  result : Except BindError Unit
  after : World P H
  stored : List SlotValue

namespace Recorded

def outcome (r : Recorded P H) : Except BindError Unit × World P H := (r.result, r.after)

def following (r : Recorded P H) (earlier : List SlotValue) : Recorded P H := { r with stored := earlier ++ r.stored }

@[simp] theorem following_result (r : Recorded P H) (earlier : List SlotValue) :
    (r.following earlier).result = r.result := rfl

@[simp] theorem following_after (r : Recorded P H) (earlier : List SlotValue) :
    (r.following earlier).after = r.after := rfl

@[simp] theorem following_nil (r : Recorded P H) : r.following [] = r := rfl

private theorem following_following (r : Recorded P H) (vs ws : List SlotValue) :
    (r.following ws).following vs = r.following (vs ++ ws) := by
  simp only [following, List.append_assoc]

end Recorded

namespace Routine

/-- Runs code on the slot table of an entry. A write that is refused stores nothing, and to empty the table is to store
void. -/
def exec (key : EntryKey) : Routine P H → World P H → Recorded P H
  | .done result, w => ⟨result, w, []⟩
  | .act effect next, w => (next w).exec key (effect w)
  | .clear next, w =>
    match w.table? key with
    | none => next.exec key w
    | some t => (next.exec key (w.putTable key t.clear)).following [.void]
  | .write index value next, w =>
    match w.table? key with
    | none => (next (.ok ())).exec key w
    | some t =>
      match t.set index value with
      | .error e => (next (.error e)).exec key w
      | .ok t' => ((next (.ok ())).exec key (w.putTable key t')).following (if index = 0 then [value] else [])

def bind (c : Routine P H) (next : Except BindError Unit → Routine P H) : Routine P H :=
  match c with
  | .done result => next result
  | .act effect rest => .act effect fun w => (rest w).bind next
  | .clear rest => .clear (rest.bind next)
  | .write index value rest => .write index value fun r => (rest r).bind next

/-- Typed code. It sees nothing of the result slot, and what it gives is written there at the end. -/
def typed (key : EntryKey) (call : SlotTable → World P H → Except BindError SlotValue × World P H) : Routine P H :=
  .act id fun w =>
    match w.table? key with
    | none => .done (.error (.executionFailed "no slot table"))
    | some t =>
      .act (fun w => (call (t.withResult .void) w).2) fun w =>
        match (call (t.withResult .void) w).1 with
        | .error e => .done (.error e)
        | .ok v => .write 0 v .done

def runner (body : P → Frame → Routine P H) : Runner P H := fun p f w => ((body p f).exec f.context w).outcome

def executor (code : (object : ObjectId) → (key context : EntryKey) → Routine P H) : Executor P H :=
  fun object key context w =>
    let r := (code object key context).exec context w
    (r.result.toBool, r.after)

/-- The run of the one is followed by that of the other, and the record by its record. -/
theorem exec_bind (c : Routine P H) (next : Except BindError Unit → Routine P H) (key : EntryKey) (w : World P H) :
    (c.bind next).exec key w =
      ((next (c.exec key w).result).exec key (c.exec key w).after).following (c.exec key w).stored := by
  induction c generalizing w with
  | done result => rfl
  | act effect rest ih => exact ih w (effect w)
  | clear rest ih =>
    simp only [bind, exec]
    cases w.table? key with
    | none => exact ih w
    | some t =>
      simp only [ih, Recorded.following_following, Recorded.following_result, Recorded.following_after]
      rfl
  | write index value rest ih =>
    simp only [bind, exec]
    cases w.table? key with
    | none => exact ih _ w
    | some t =>
      cases ht : t.set index value with
      | error e => simp only [ht, ih]
      | ok t' =>
        simp only [ht, ih, Recorded.following_following, Recorded.following_result, Recorded.following_after]
        rfl

end Routine

def HostFunction.give (f : HostFunction) (t : SlotTable) : Except BindError SlotValue :=
  (readArguments f.params 1 t).map fun as => f.result.box (f.run as)

def HostMethod.give (m : HostMethod) (name className : String) (receiver : Option HostObject) (t : SlotTable) :
    Except BindError SlotValue × Option HostObject :=
  match receiver with
  | none => (.error (.missingReceiver name), none)
  | some object =>
    match object.stateOf? m.cls with
    | none => (.error (.receiverMismatch name className), some object)
    | some state =>
      match readArguments m.params 1 t with
      | .error e => (.error e, some object)
      | .ok as => (.ok (m.result.box (m.body.run state as).1), some ⟨m.cls, (m.body.run state as).2⟩)

private theorem HostFunction.dispatch_eq_give (f : HostFunction) (t : SlotTable) :
    f.dispatch t = (f.give t).bind t.setResult := by
  simp only [dispatch, give]
  cases readArguments f.params 1 t <;> rfl

private theorem HostMethod.dispatch_eq_give (m : HostMethod) (name className : String) (receiver : Option HostObject)
    (t : SlotTable) : m.dispatch name className receiver t =
      ((m.give name className receiver t).1.bind t.setResult, (m.give name className receiver t).2) := by
  rcases receiver with _ | object
  · rfl
  · simp only [dispatch, give]
    cases object.stateOf? m.cls with
    | none => rfl
    | some state => cases readArguments m.params 1 t <;> rfl

private theorem readArguments_withResult (ts : List HostType) (t : SlotTable) (v : SlotValue) :
    readArguments ts 1 (t.withResult v) = readArguments ts 1 t := readArguments_congr ts 0 rfl

def HostFunction.answer (f : HostFunction) (t : SlotTable) (w : World P H) : Except BindError SlotValue × World P H :=
  (f.give t, w)

def HostMethod.answer (m : HostMethod) (name className : String) (receiver : Option (ObjectId × HostObject))
    (t : SlotTable) (w : World P H) : Except BindError SlotValue × World P H :=
  let (given, object) := m.give name className (receiver.map (·.2)) t
  (given, w.putReceiver receiver object)

def Adapter.routine (body : P → Frame → Routine P H) (key : EntryKey) (receiver : Option (ObjectId × HostObject)) :
    Adapter P → Routine P H
  | .program p => body p ⟨key, receiver.isSome⟩
  | .function f => .typed key f.answer
  | .method m name className => .typed key (m.answer name className receiver)

namespace Routine
variable (body : P → Frame → Routine P H)

def native (object : ObjectId) (key context : EntryKey) : Routine P H :=
  .act id fun w =>
    match (w.registry.find? key).bind (·.adapter?) with
    | none => .done (.error (.executionFailed "no native code"))
    | some adapter =>
      if object.isNone ∨ key.scope = globalScope then adapter.routine body context none
      else
        match w.objects.available? object with
        | none => .done (.error (.executionFailed "no receiver"))
        | some receiver => .act (·.borrow object) fun _ =>
            (adapter.routine body context (some (object, receiver))).bind fun r =>
              .act (·.giveBack object) fun _ => .done r

def scriptOrNative (object : ObjectId) (key context : EntryKey) : Routine P H :=
  .act id fun w =>
    match (w.registry.find? key).map Entry.behaviour with
    | some (.script (some script)) => body script ⟨context, !object.isNone⟩
    | _ => native body object key context

end Routine

section Adapters
variable {body : P → Frame → Routine P H} {w : World P H}

/-- Typed code on a table is what it gives, written if it is a value. -/
private theorem exec_typed {key : EntryKey} {t : SlotTable}
    {call : SlotTable → World P H → Except BindError SlotValue × World P H} (ht : w.table? key = some t)
    (kept : (call (t.withResult .void) w).2.table? key = some t) :
    ((Routine.typed key call).exec key w).outcome =
      (call (t.withResult .void) w).2.adopt key ((call (t.withResult .void) w).1.bind t.setResult) := by
  simp only [Routine.typed, Routine.exec, id_eq, ht]
  cases (call (t.withResult .void) w).1 with
  | error e => rfl
  | ok v =>
    simp only [Routine.exec, kept, Except.bind]
    cases hs : t.setResult v with
    | error e =>
      have hs : t.set 0 v = .error e := hs
      simp only [hs]
      rfl
    | ok t' =>
      have hs : t.set 0 v = .ok t' := hs
      simp only [hs]
      rfl

/-- An adapter runs as its code does. -/
theorem World.dispatch_eq_exec (adapter : Adapter P) (key : EntryKey) (receiver : Option (ObjectId × HostObject)) :
    w.dispatch (Routine.runner body) adapter key receiver =
      ((adapter.routine body key receiver).exec key w).outcome := by
  cases ht : w.table? key with
  | none =>
    cases adapter with
    | program p => simp only [dispatch, Routine.runner, Adapter.routine]
    | function | method =>
      simp only [dispatch, ht, Adapter.routine, Routine.typed, Routine.exec, id_eq]
      rfl
  | some t =>
    cases adapter with
    | program p => simp only [dispatch, Routine.runner, Adapter.routine]
    | function f =>
      have give : f.give (t.withResult .void) = f.give t := by
        simp only [HostFunction.give, readArguments_withResult]
      rw [Adapter.routine, exec_typed ht ht]
      simp only [dispatch, ht, f.dispatch_eq_give, HostFunction.answer, give]
    | method m name className =>
      have give : m.give name className (receiver.map (·.2)) (t.withResult .void) =
          m.give name className (receiver.map (·.2)) t := by
        simp only [HostMethod.give, readArguments_withResult]
      have kept (object : Option HostObject) : (w.putReceiver receiver object).table? key = some t := by
        rw [table?, putReceiver_registry]
        exact ht
      rw [Adapter.routine, exec_typed ht (kept _)]
      simp only [dispatch, ht, m.dispatch_eq_give, HostMethod.answer, give]

/-- Executors run hand-written code that is given as trees as trees. -/
theorem World.executeNative_eq_executor :
    World.executeNative (Routine.runner body) = Routine.executor (Routine.native body) := by
  funext object key context w
  unfold executeNative Routine.executor Routine.native
  simp only [Routine.exec, id_eq]
  cases (w.registry.find? key).bind (·.adapter?) with
  | none => rfl
  | some adapter =>
    dsimp only
    split
    · simp only [dispatch_eq_exec]
      rfl
    · cases hr : w.objects.available? object with
      | none =>
        rw [borrowing_none _ hr]
        rfl
      | some receiver =>
        rw [borrowing_some _ hr]
        simp only [dispatch_eq_exec, Routine.exec, Routine.exec_bind]
        rfl

theorem World.execute_eq_executor :
    World.execute (Routine.runner body) = Routine.executor (Routine.scriptOrNative body) := by
  funext object key context w
  unfold execute Routine.executor Routine.scriptOrNative
  simp only [Routine.exec, id_eq, executeNative_eq_executor]
  rcases (w.registry.find? key).map Entry.behaviour with _ | ⟨adapter⟩ | ⟨_ | script⟩ <;> rfl

end Adapters

end ScriptBridge
