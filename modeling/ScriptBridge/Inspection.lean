import ScriptBridge.Registry
import ScriptBridge.Text.Quoted

/-! The structural text of a registry and of its entries, for debugging. -/
namespace ScriptBridge

open Text (quotedText)

def Kind.structuralText : Kind → String
  | .void => "Void"
  | .int => "Int"
  | .float => "Float"
  | .bool => "Bool"
  | .string => "String"
  | .object => "Object"
  | .vector => "Vector3f"
  | .unregistered => "Unregistered"

def DuplicatePolicy.structuralText : DuplicatePolicy → String
  | .reject => "Reject"
  | .lastWins => "LastWins"

def recordText (name : String) (fields : List (String × String)) : String :=
  name ++ " \x7b " ++ ", ".intercalate (fields.map fun (field, text) => field ++ ": " ++ text) ++ " \x7d"

def listText (texts : List String) : String := "[" ++ ", ".intercalate texts ++ "]"

def boolText (b : Bool) : String := if b then "true" else "false"

def BindConfig.structuralText (c : BindConfig) : String :=
  recordText "BindConfig" [
    ("duplicate_policy", c.duplicatePolicy.structuralText),
    ("max_parameters", toString c.maxParameters),
    ("validate_defaults", boolText c.validateDefaults)]

def EntryKey.structuralText (k : EntryKey) : String :=
  recordText "EntryKey" [("scope", toString k.scope.toNat), ("name", toString k.name.toNat)]

def Signature.structuralText (s : Signature) : String :=
  recordText "Signature" [
    ("return_kind", s.returnKind.structuralText),
    ("params", listText (s.params.map Kind.structuralText)),
    ("param_names", listText (s.paramNames.map quotedText))]

def Entry.structuralText {P : Type} (e : Entry P) : String :=
  recordText "RegistrationEntry" [
    ("name", quotedText e.qualified),
    ("key", e.key.structuralText),
    ("signature", e.signature.structuralText),
    ("kind", if e.isScript then "Script" else "Registered"),
    ("defaults", boolText e.defaults.isSome)]

def Registry.structuralText {P : Type} (r : Registry P) : String :=
  recordText "Registry" [
    ("entries", toString r.entries.size),
    ("config", r.config.structuralText)]

end ScriptBridge
