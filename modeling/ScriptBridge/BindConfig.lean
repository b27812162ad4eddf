/-! Settings of the registration phase. -/
namespace ScriptBridge

inductive DuplicatePolicy where
  | reject | lastWins
deriving DecidableEq

def DuplicatePolicy.text : DuplicatePolicy → String
  | .reject => "reject"
  | .lastWins => "last-wins"

structure BindConfig where
  duplicatePolicy : DuplicatePolicy
  maxParameters : Nat
  validateDefaults : Bool
deriving DecidableEq

namespace BindConfig

def parameterLimit : Nat := 15

def standard : BindConfig := ⟨.reject, parameterLimit, true⟩

end BindConfig
end ScriptBridge
