import ScriptBridge.World

/-! Running the code of an entry against a slot table that is in use. -/
namespace ScriptBridge

/-- What hand-written code runs against: the entry whose slot table it may use, and whether it has a receiver. -/
structure Frame where
  context : EntryKey
  hasReceiver : Bool

abbrev Runner (P H : Type) := P → Frame → World P H → Except BindError Unit × World P H

/-- Runs whatever stands under a key, on an object or the null one, against the slot table of the entry `context`,
and tells whether it succeeded. -/
abbrev Executor (P H : Type) := (object : ObjectId) → (key context : EntryKey) → World P H → Bool × World P H

namespace World

variable {P H : Type}

def adopt (w : World P H) (context : EntryKey) : Except BindError SlotTable → Except BindError Unit × World P H
  | .ok table => (.ok (), w.putTable context table)
  | .error e => (.error e, w)

def putReceiver (w : World P H) : Option (ObjectId × HostObject) → Option HostObject → World P H
  | some (id, _), some object => { w with objects := w.objects.put id object }
  | _, _ => w

def dispatch (run : Runner P H) (adapter : Adapter P) (context : EntryKey)
    (receiver : Option (ObjectId × HostObject)) (w : World P H) : Except BindError Unit × World P H :=
  match adapter, w.table? context with
  | .program p, _ => run p ⟨context, receiver.isSome⟩ w
  | _, none => (.error (.executionFailed "no slot table"), w)
  | .function f, some table => w.adopt context (f.dispatch table)
  | .method m name className, some table =>
    let (result, object) := m.dispatch name className (receiver.map (·.2)) table
    (w.putReceiver receiver object).adopt context result

/-- Executes the native code under a key on the slot table of the entry `context`, and tells whether it succeeded.
Code in the global scope runs without a receiver; other code needs its object to be available. -/
def executeNative (run : Runner P H) (object : ObjectId) (key context : EntryKey) (w : World P H) :
    Bool × World P H :=
  match (w.registry.find? key).bind (·.adapter?) with
  | none => (false, w)
  | some adapter =>
    if object.isNone ∨ key.scope = globalScope then
      let (result, w) := w.dispatch run adapter context none
      (result.toBool, w)
    else
      let (result, w) := w.borrowing object fun receiver w =>
        w.dispatch run adapter context (some (object, receiver))
      ((result.map (·.toBool)).getD false, w)

/-- Executes whatever stands under a key: the body of a script-defined function if it has one, native code else. -/
def execute (run : Runner P H) (object : ObjectId) (key context : EntryKey) (w : World P H) :
    Bool × World P H :=
  match (w.registry.find? key).map Entry.behaviour with
  | some (.script (some body)) =>
    let (result, w) := run body ⟨context, !object.isNone⟩ w
    (result.toBool, w)
  | _ => w.executeNative run object key context

end World
end ScriptBridge
