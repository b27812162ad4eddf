import ScriptBridge.BindError
import ScriptBridge.SlotValue

/-! Types of native host code, and the strict passage of their values in and out of slots. -/
namespace ScriptBridge

open Number (Single)

inductive HostType where
  | unit | int | float | bool | string | literal | object | vector | value
  /-- A host type around one float that the script side knows under no kind of its own. -/
  | floatWrapper (label : String)
  /-- A host type that can be had from whatever a slot holds. -/
  | token (label : String)
  /-- A type whose values never enter or leave a slot. -/
  | foreign (label : String)
deriving DecidableEq

namespace HostType

def label : HostType → String
  | .unit => "()"
  | .int => "i32"
  | .float => "f32"
  | .bool => "bool"
  | .string => "alloc::string::String"
  | .literal => "&str"
  | .object => "hostbind_sdk::value::ObjectId"
  | .vector => "hostbind_sdk::value::Vector3f"
  | .value => "hostbind_sdk::value::SlotValue"
  | .floatWrapper label | .token label | .foreign label => label

abbrev Carrier : HostType → Type
  | .unit => Unit
  | .int => Int32
  | .float => Single
  | .bool => Bool
  | .string => String
  | .literal => String
  | .object => ObjectId
  | .vector => Vector3
  | .value => SlotValue
  | .floatWrapper _ => Single
  | .token _ => Unit
  | .foreign _ => Empty

def box : (t : HostType) → t.Carrier → SlotValue
  | .unit, _ => .void
  | .int, i => .int i
  | .float, x => .float x
  | .bool, b => .bool b
  | .string, s => .string s
  | .literal, s => .string s
  | .object, id => .object id
  | .vector, v => .vector v
  | .value, v => v
  | .floatWrapper _, x => .float x
  | .token _, _ => .void

def require {α : Type} (expected : Kind) (v : SlotValue) : Option α → Except BindError α
  | some a => .ok a
  | none => .error (.typeMismatch expected v.kind)

/-- Reads a native value out of a slot value. Nothing is converted: another kind is refused, but the unit and
token types take any value and the type of slot values takes all of them as they are. -/
def unbox : (t : HostType) → SlotValue → Except BindError t.Carrier
  | .unit, _ => .ok ()
  | .int, v => require .int v v.int?
  | .float, v => require .float v v.float?
  | .bool, v => require .bool v v.bool?
  | .string, v => require .string v v.string?
  | .literal, v => require .string v v.string?
  | .object, v => require .object v v.object?
  | .vector, v => require .vector v v.vector?
  | .value, v => .ok v
  | .floatWrapper _, v => require .float v v.float?
  | .token _, _ => .ok ()
  | .foreign _, v => .error (.typeMismatch .unregistered v.kind)

end HostType

abbrev Arguments : List HostType → Type
  | [] => Unit
  | t :: ts => t.Carrier × Arguments ts

end ScriptBridge
