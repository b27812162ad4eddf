import ScriptBridge.SlotTable

/-! Typed native code: free functions, classes with their methods, and how they run against a slot table. -/
namespace ScriptBridge

def readArgument (t : HostType) (position : Nat) (table : SlotTable) : Except BindError t.Carrier :=
  match table.value? position with
  | none => .error (.slotKindMismatch position .unregistered .void)
  | some v =>
    match t.unbox v with
    | .ok a => .ok a
    | .error (.typeMismatch expected found) => .error (.slotKindMismatch position expected found)
    | .error e => .error e

/-- Reads arguments from the slots at a position and after it, up to the first that cannot be read. -/
def readArguments : (ts : List HostType) → Nat → SlotTable → Except BindError (Arguments ts)
  | [], _, _ => .ok ()
  | t :: ts, position, table => do
    let a ← readArgument t position table
    let rest ← readArguments ts (position + 1) table
    return (a, rest)

structure HostFunction where
  params : List HostType
  result : HostType
  run : Arguments params → result.Carrier

/-- Runs a function on the parameter slots and writes its result. On an error the table is as before. -/
def HostFunction.dispatch (f : HostFunction) (table : SlotTable) : Except BindError SlotTable := do
  let arguments ← readArguments f.params 1 table
  table.setResult (f.result.box (f.run arguments))

structure HostClass where
  name : String
  stateType : HostType
deriving DecidableEq

abbrev HostClass.State (c : HostClass) : Type := c.stateType.Carrier

/-- An object of a class without state takes no storage of its own. -/
def HostClass.isZeroSized (c : HostClass) : Bool := c.stateType = .unit

structure HostObject where
  cls : HostClass
  state : cls.State

namespace HostObject

def stateOf? (o : HostObject) (c : HostClass) : Option c.State :=
  if h : o.cls = c then some (h ▸ o.state) else none

def boxed (o : HostObject) : SlotValue := o.cls.stateType.box o.state

end HostObject

inductive MethodBody (State Args Result : Type) where
  | shared (run : State → Args → Result)
  | exclusive (run : State → Args → Result × State)

def MethodBody.run {State Args Result : Type} :
    MethodBody State Args Result → State → Args → Result × State
  | .shared f, s, a => (f s a, s)
  | .exclusive f, s, a => f s a

structure HostMethod where
  cls : HostClass
  params : List HostType
  result : HostType
  body : MethodBody cls.State (Arguments params) result.Carrier

/-- Runs a method on its receiver and the parameter slots, and writes its result. The second part is the receiver
afterwards: it is changed even if the result does not fit its slot, but not if anything failed earlier.
`name` and `className` only appear in errors. -/
def HostMethod.dispatch (m : HostMethod) (name className : String) (receiver : Option HostObject)
    (table : SlotTable) : Except BindError SlotTable × Option HostObject :=
  match receiver with
  | none => (.error (.missingReceiver name), none)
  | some object =>
    match object.stateOf? m.cls with
    | none => (.error (.receiverMismatch name className), some object)
    | some state =>
      match readArguments m.params 1 table with
      | .error e => (.error e, some object)
      | .ok arguments =>
        let (result, state) := m.body.run state arguments
        (table.setResult (m.result.box result), some ⟨m.cls, state⟩)

end ScriptBridge
