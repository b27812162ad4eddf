import ScriptBridge.Kind

/-! The ways in which registration, calls and dispatch fail. -/
namespace ScriptBridge

inductive BindError where
  | unrecognizedType (typeName : String) (position : Nat)
  | registrationConflict (scope name : String)
  | tooManyParameters (name : String) (arity max : Nat)
  | targetNotFound (target : String)
  | arityMismatch (function : String) (expected supplied : Nat)
  | unsupportedReturnType (typeName : String)
  | argumentConversionFailed (function : String) (index : Nat)
  | returnConversionFailed (function : String) (source target : Kind)
  | executionFailed (reason : String)
  | contextBusy (function : String)
  | slotKindMismatch (slot : Nat) (expected found : Kind)
  | typeMismatch (expected found : Kind)
  | missingReceiver (function : String)
  | receiverMismatch (function expected : String)
  | defaultsMismatch (function reason : String)
  | defaultsAlreadyAttached (function : String)
  | alreadyInstalled
deriving DecidableEq

namespace BindError

def message : BindError → String
  | .unrecognizedType typeName position =>
    s!"Unrecognized type '{typeName}' at position {position}"
  | .registrationConflict scope name =>
    s!"Registration conflict: '{scope}::{name}' is already registered"
  | .tooManyParameters name arity max => s!"Function '{name}' has {arity} parameters, max is {max}"
  | .targetNotFound target => s!"Target not found: {target}"
  | .arityMismatch function expected supplied =>
    s!"Arity mismatch calling '{function}': expected {expected}, got {supplied}"
  | .unsupportedReturnType typeName => s!"Unsupported return type: {typeName}"
  | .argumentConversionFailed function index =>
    s!"Argument {index} of '{function}' could not be converted"
  | .returnConversionFailed function source target =>
    s!"Return value of '{function}' could not be converted from {source.text} to {target.text}"
  | .executionFailed reason => s!"Execution failed: {reason}"
  | .contextBusy function => s!"Function context of '{function}' is busy"
  | .slotKindMismatch slot expected found =>
    s!"Slot {slot} holds {found.text}, expected {expected.text}"
  | .typeMismatch expected found => s!"Type mismatch: expected {expected.text}, got {found.text}"
  | .missingReceiver function => s!"Method '{function}' called without an object"
  | .receiverMismatch function expected =>
    s!"Method '{function}' called on an object that is not a {expected}"
  | .defaultsMismatch function reason => s!"Default arguments for '{function}' rejected: {reason}"
  | .defaultsAlreadyAttached function => s!"Default arguments for '{function}' are already attached"
  | .alreadyInstalled => "A global registry is already installed"

/-- Counted as a mistake in registering rather than in calling. -/
def isRegistration : BindError → Bool
  | .unrecognizedType .. | .registrationConflict .. | .tooManyParameters ..
  | .defaultsMismatch .. | .defaultsAlreadyAttached .. => true
  | _ => false

end BindError

/-- What succeeds in two steps has a first result, from which the second step succeeds. -/
theorem bind_eq_ok {ε α β : Type} {x : Except ε α} {f : α → Except ε β} {b : β}
    (h : x >>= f = .ok b) : ∃ a, x = .ok a ∧ f a = .ok b := by
  cases x with
  | error e => cases h
  | ok a => exact ⟨a, rfl, h⟩

/-- What fails in two steps fails in the first, or in the second from a first result. -/
theorem bind_eq_error {ε α β : Type} {x : Except ε α} {f : α → Except ε β} {e : ε}
    (h : x >>= f = .error e) : x = .error e ∨ ∃ a, x = .ok a ∧ f a = .error e := by
  cases x with
  | error e' =>
    cases h
    exact .inl rfl
  | ok a => exact .inr ⟨a, rfl, h⟩

theorem toOption_eq_some {ε α : Type} {x : Except ε α} {a : α} (h : x.toOption = some a) : x = .ok a := by
  cases x <;> cases h
  rfl

end ScriptBridge
