import ScriptBridge.DefaultRecord
import ScriptBridge.HostFunction

/-! Entries: a scope and a name bound to code, a slot table and a declared shape.
The type `P` is that of hand-written adapters and of script bodies. -/
namespace ScriptBridge

/-- Code that runs against a slot table. A method knows the name it was bound under and the class it was bound for,
which its errors mention. -/
inductive Adapter (P : Type) where
  | function (f : HostFunction)
  | method (m : HostMethod) (name className : String)
  | program (p : P)

inductive Behaviour (P : Type) where
  | native (adapter : Adapter P)
  | script (body : Option P)

/-- The declared shape of an entry, which is read without taking its slot table. -/
structure Signature where
  returnKind : Kind
  params : List Kind
  paramNames : List String
deriving DecidableEq

def Signature.ofTable (t : SlotTable) : Signature :=
  ⟨t.result.kind, t.params.map (·.kind), t.params.map (·.name)⟩

def Signature.arity (s : Signature) : Nat := s.params.length

structure Entry (P : Type) where
  scope : String
  name : String
  signature : Signature
  behaviour : Behaviour P
  table : SlotTable
  defaults : Option DefaultRecord

namespace Entry

variable {P : Type}

def make (scope name : String) (behaviour : Behaviour P) (table : SlotTable) : Entry P :=
  { scope, name, signature := .ofTable table, behaviour, table, defaults := none }

def key (e : Entry P) : EntryKey := .ofNames e.scope e.name

def qualified (e : Entry P) : String := qualifiedName e.scope e.name

def arity (e : Entry P) : Nat := e.signature.arity

def isMethod (e : Entry P) : Bool := e.scope ≠ ""

def isScript (e : Entry P) : Bool :=
  match e.behaviour with
  | .script _ => true
  | .native _ => false

def adapter? (e : Entry P) : Option (Adapter P) :=
  match e.behaviour with
  | .native adapter => some adapter
  | .script _ => none

/-- What a parameter is shown as: its kind, then its default, or the name that a script gave it. -/
def describeParameter (e : Entry P) (index : Nat) (kind : Kind) : String :=
  match e.defaults with
  | some record =>
    match record.default? (index + 1) with
    | some (name, .string s) => kind.text ++ " " ++ name ++ " = \"" ++ s ++ "\""
    | some (name, value) => kind.text ++ " " ++ name ++ " = " ++ value.text
    | none => kind.text
  | none =>
    match e.isScript, e.signature.paramNames[index]? with
    | true, some name => kind.text ++ " " ++ name
    | _, _ => kind.text

def describe (e : Entry P) : String :=
  let params := e.signature.params.zipIdx.map fun (kind, index) => e.describeParameter index kind
  let line := e.signature.returnKind.text ++ " " ++ e.qualified ++ "(" ++ ", ".intercalate params ++ ")"
  match e.defaults with
  | some record => if record.help = "" then line else line ++ "\n" ++ record.help
  | none => line

end Entry
end ScriptBridge
