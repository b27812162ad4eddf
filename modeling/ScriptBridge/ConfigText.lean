import ScriptBridge.BindConfig
import ScriptBridge.Toml.Document

/-! Configurations as TOML text. -/
namespace ScriptBridge

inductive ConfigError where
  | unreadable
  | malformed
  | parameterRange (given : Nat)
deriving DecidableEq

def ConfigError.message? : ConfigError → Option String
  | .unreadable | .malformed => none
  | .parameterRange given =>
    let limit := BindConfig.parameterLimit
    some s!"Invalid configuration: max_parameters must be between 1 and {limit}, got {given}"

namespace DuplicatePolicy

def ofText? (s : String) : Option DuplicatePolicy := [reject, lastWins].find? (·.text = s)

/-- A policy is given by its name, or by its name as the only key of a table, over something empty. -/
def ofValue? : Toml.Value → Option DuplicatePolicy
  | .string s => ofText? s
  | .table _ [(key, .table _ [])] => ofText? key
  | .table _ [(key, .array _ [])] => ofText? key
  | _ => none

end DuplicatePolicy

namespace BindConfig

def count? : Toml.Value → Option Nat
  | .integer (.ofNat n) => some n
  | _ => none

def flag? : Toml.Value → Option Bool
  | .boolean b => some b
  | _ => none

def setting {α : Type} (read : Toml.Value → Option α) (standard : α) : Option Toml.Value → Option α
  | none => some standard
  | some v => read v

def ofSettings (policy max validate : Option Toml.Value) : Option BindConfig := do
  return {
    duplicatePolicy := ← setting DuplicatePolicy.ofValue? standard.duplicatePolicy policy
    maxParameters := ← setting count? standard.maxParameters max
    validateDefaults := ← setting flag? standard.validateDefaults validate }

/-- The settings of a table by name, or of an array by position. Others are ignored, and all those of a date. -/
def ofValue? : Toml.Value → Option BindConfig
  | .table _ entries =>
    ofSettings (entries.lookup "duplicate_policy") (entries.lookup "max_parameters")
      (entries.lookup "validate_defaults")
  | .array _ items => ofSettings items[0]? items[1]? items[2]?
  | .datetime _ => some standard
  | _ => none

def validate (c : BindConfig) : Except ConfigError BindConfig :=
  if 1 ≤ c.maxParameters ∧ c.maxParameters ≤ parameterLimit then .ok c
  else .error (.parameterRange c.maxParameters)

/-- The configuration in the `bindings` entry of a document, the standard one if there is none. -/
def ofText (text : String) : Except ConfigError BindConfig :=
  match (Toml.readDocument text).bind fun root => setting ofValue? standard (root.find? "bindings") with
  | none => .error .malformed
  | some c => c.validate

/-- The configuration in a file, whose content is missing if there is no such file. The content has to be UTF-8. -/
def ofFile (content : Option ByteArray) : Except ConfigError BindConfig :=
  match content.bind String.fromUTF8? with
  | none => .error .unreadable
  | some text => ofText text

def text (c : BindConfig) : String :=
  "duplicate_policy = \"" ++ c.duplicatePolicy.text ++ "\"\nmax_parameters = " ++ toString c.maxParameters ++
    "\nvalidate_defaults = " ++ (if c.validateDefaults then "true" else "false") ++ "\n"

end BindConfig
end ScriptBridge
