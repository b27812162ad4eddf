import ScriptBridge.Kind
import ScriptBridge.Number.FixedPoint

/-! Values held by slots, their kinds and their text. -/
namespace ScriptBridge

open Number (Single)

/-- A script object's identifier. Zero names no object. -/
structure ObjectId where
  number : UInt32
deriving DecidableEq

namespace ObjectId

def none : ObjectId := ⟨0⟩

def isNone (id : ObjectId) : Bool := id.number == 0

def text (id : ObjectId) : String := toString id.number.toNat

end ObjectId

structure Vector3 where
  x : Single
  y : Single
  z : Single
deriving DecidableEq

def floatText (x : Single) : String := String.ofList (x.fixedText 4)

namespace Vector3

def zero : Vector3 := ⟨.zero false, .zero false, .zero false⟩

def text (v : Vector3) : String := floatText v.x ++ " " ++ floatText v.y ++ " " ++ floatText v.z

def sameNumbers (a b : Vector3) : Bool :=
  a.x.sameNumber b.x && a.y.sameNumber b.y && a.z.sameNumber b.z

end Vector3

def intText (i : Int32) : String :=
  if i < 0 then "-" ++ toString i.toInt.natAbs else toString i.toInt.natAbs

inductive SlotValue where
  | void
  | int (value : Int32)
  | float (value : Single)
  | bool (value : Bool)
  | string (value : String)
  | object (id : ObjectId)
  | vector (value : Vector3)
deriving DecidableEq

namespace SlotValue

def kind : SlotValue → Kind
  | .void => .void
  | .int _ => .int
  | .float _ => .float
  | .bool _ => .bool
  | .string _ => .string
  | .object _ => .object
  | .vector _ => .vector

/-- The value as scripts print it. The void value prints as nothing and a string as itself. -/
def text : SlotValue → String
  | .void => ""
  | .int i => intText i
  | .float x => floatText x
  | .bool b => if b then "true" else "false"
  | .string s => s
  | .object id => id.text
  | .vector v => v.text

def int? : SlotValue → Option Int32
  | .int i => some i
  | _ => none

def float? : SlotValue → Option Single
  | .float x => some x
  | _ => none

def bool? : SlotValue → Option Bool
  | .bool b => some b
  | _ => none

def string? : SlotValue → Option String
  | .string s => some s
  | _ => none

def object? : SlotValue → Option ObjectId
  | .object id => some id
  | _ => none

def vector? : SlotValue → Option Vector3
  | .vector v => some v
  | _ => none

/-- Comparison as scripts compare: numbers by value, so a NaN differs from itself. -/
def same : SlotValue → SlotValue → Bool
  | .float a, .float b => a.sameNumber b
  | .vector a, .vector b => a.sameNumbers b
  | a, b => a == b

end SlotValue
end ScriptBridge
