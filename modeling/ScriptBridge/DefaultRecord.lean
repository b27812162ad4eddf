import ScriptBridge.SlotTable

/-! Records of default arguments, which document an entry and never take part in a call. -/
namespace ScriptBridge

structure DefaultRecord where
  returnName : String
  params : List (String × SlotValue)
  help : String
deriving DecidableEq

namespace DefaultRecord

def positions (r : DefaultRecord) : List (String × SlotValue) := (r.returnName, .void) :: r.params

def count (r : DefaultRecord) : Nat := r.positions.length

def default? (r : DefaultRecord) : Nat → Option (String × SlotValue)
  | 0 => none
  | i + 1 => r.params[i]?

def defaultText? (r : DefaultRecord) (position : Nat) : Option String :=
  (r.default? position).map (·.2.text)

/-- Compares the kinds of defaults with those of the parameters from a position on. An object parameter takes any
default, because ids get their meaning only in a call. -/
def checkKinds (function : String) : Nat → List (String × SlotValue) → List Slot → Except BindError Unit
  | position, (name, value) :: rest, slot :: slots =>
    if slot.kind = .object ∨ value.kind = slot.kind then checkKinds function (position + 1) rest slots
    else .error (.defaultsMismatch function
      s!"default for '{name}' is {value.kind.text}, parameter {position} is {slot.kind.text}")
  | _, _, _ => .ok ()

/-- Checks a record against a slot table: as many positions as slots and, if `kinds` is set, fitting kinds. -/
def validate (r : DefaultRecord) (function : String) (table : SlotTable) (kinds : Bool) :
    Except BindError Unit :=
  let expected := table.arity + 1
  if r.count ≠ expected then
    .error (.defaultsMismatch function
      s!"expected {expected} positions (including return), got {r.count}")
  else if kinds then checkKinds function 1 r.params table.params
  else .ok ()

end DefaultRecord
end ScriptBridge
