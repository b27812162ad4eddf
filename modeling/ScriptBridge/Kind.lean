/-! The closed set of kinds that a script value or slot can have. -/
namespace ScriptBridge

/-- A kind of script value. The last one stands for a type that the script side does not know. -/
inductive Kind where
  | void | int | float | bool | string | object | vector | unregistered
deriving DecidableEq

namespace Kind

def text : Kind → String
  | .void => "void"
  | .int => "int"
  | .float => "float"
  | .bool => "bool"
  | .string => "string"
  | .object => "object"
  | .vector => "vector3f"
  | .unregistered => "<unregistered>"

def ofName? (name : String) : Option Kind :=
  [void, int, float, bool, string, object, vector].find? (·.text = name)

def isRegistered (k : Kind) : Bool := k != .unregistered

/-- Fit for a parameter: known, and not the kind of an absent result. -/
def isParameter (k : Kind) : Bool := k.isRegistered && k != .void

end Kind
end ScriptBridge
