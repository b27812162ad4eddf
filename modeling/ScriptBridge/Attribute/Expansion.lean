import ScriptBridge.Attribute.Setting
import ScriptBridge.Source.Item

/-! What a binding attribute makes of the function or method it stands before: the item as it is, and a function that
describes how to register it. -/
namespace ScriptBridge.Attribute

open Source (Item Receiver TextLiteral Token)

inductive Rejection where
  | classOfFunction
  | asynchronous
  | generic
  | variadic
  | functionReceiver
  | receiverMissing
  | receiverNotBorrowed
  | tooManyParameters
  | abstractParameter
deriving DecidableEq

def maxTypedParameters : Nat := 12

def Rejection.message : Rejection → String
  | .classOfFunction => "`class` only applies to #[method]"
  | .asynchronous => "async functions cannot be bound"
  | .generic => "generic functions cannot be bound; bind a concrete instantiation"
  | .variadic => "variadic functions cannot be bound"
  | .functionReceiver => "methods (self) are not supported in #[function]; use #[method]"
  | .receiverMissing => "#[method] requires a `&self` or `&mut self` receiver"
  | .receiverNotBorrowed => "only `&self` and `&mut self` receivers can be bound"
  | .tooManyParameters =>
    s!"at most {maxTypedParameters} parameters can be bound this way; use RegistryBuilder::register_raw"
  | .abstractParameter => "`impl Trait` parameters cannot be bound"

/-- Whether a type stands for any type with some traits. One that only contains such a type does not count. -/
def isAbstract (type : List Token) : Bool := type.head? = some (.word false "impl")

inductive Access where
  | shared
  | exclusive
deriving DecidableEq

def Access.text : Access → String
  | .shared => "::hostbind_engine::Shared"
  | .exclusive => "::hostbind_engine::Exclusive"

/-- What a descriptor registers: a free function, or a method in the class that is named or else in its own. -/
inductive Target where
  | function
  | method (access : Access) (cls : Option TextLiteral)
deriving DecidableEq

structure Descriptor where
  visibility : List Token
  target : Target
  item : Source.Identifier
  scriptName : TextLiteral
  types : List (List Token)
deriving DecidableEq

namespace Descriptor

/-- The name of the descriptor is that of its item, never raw, with an ending. -/
def name (d : Descriptor) : String := d.item.name ++ "_binding"

def itemPath (d : Descriptor) : String :=
  match d.target with
  | .function => d.item.spelling
  | .method .. => "Self::" ++ d.item.spelling

def documentation (d : Descriptor) : String := "Registration descriptor for [`" ++ d.itemPath ++ "`]"

def typeTuple (d : Descriptor) : String :=
  let access := match d.target with
    | .function => []
    | .method access _ => [access.text]
  "(" ++ String.join ((access ++ d.types.map Source.spelling).map (· ++ ",")) ++ ")"

def body (d : Descriptor) : String :=
  let call := match d.target with
    | .function => "function::<_," ++ d.typeTuple ++ ">(" ++ d.scriptName.spelling ++ "," ++ d.itemPath ++ ")"
    | .method _ none =>
      "method::<Self,_," ++ d.typeTuple ++ ">(" ++ d.scriptName.spelling ++ "," ++ d.itemPath ++ ",)"
    | .method _ (some cls) =>
      "method_in::<Self,_," ++ d.typeTuple ++ ">(" ++ cls.spelling ++ "," ++ d.scriptName.spelling ++ "," ++
        d.itemPath ++ ",)"
  "\x7b::hostbind_engine::Binding::" ++ call ++ "\x7d"

end Descriptor

structure Expansion where
  kept : Item
  descriptor : Descriptor
deriving DecidableEq

/-- The name that scripts use: the one that is set, or else the item's as it is spelled. -/
def scriptName (settings : Settings) (s : Source.Signature) : TextLiteral :=
  settings.name.getD ⟨s.name.spelling, Text.quotedText s.name.spelling⟩

def refuse (r : Rejection) (broken : Bool) : Except Rejection Unit := if broken then .error r else .ok ()

def checkSignature (s : Source.Signature) : Except Rejection Unit := do
  refuse .asynchronous s.isAsync
  refuse .generic (!s.generics.isEmpty)
  refuse .variadic s.isVariadic

def boundTypes (s : Source.Signature) : Except Rejection (List (List Token)) := do
  refuse .tooManyParameters (maxTypedParameters < s.types.length)
  refuse .abstractParameter (s.types.any isAbstract)
  return s.types

/-- How a receiver is used. It has to be borrowed, and without a type of its own. -/
def accessOf (r : Receiver) : Except Rejection Access := do
  refuse .receiverNotBorrowed (!r.isBorrowed || r.hasType)
  return if r.isMutable then .exclusive else .shared

def expandFunction (settings : Settings) (item : Item) : Except Rejection Expansion := do
  let s := item.signature
  refuse .classOfFunction settings.cls.isSome
  checkSignature s
  refuse .functionReceiver s.receiver?.isSome
  let types ← boundTypes s
  return ⟨item, ⟨item.visibility, .function, s.name, scriptName settings s, types⟩⟩

def expandMethod (settings : Settings) (item : Item) : Except Rejection Expansion := do
  let s := item.signature
  checkSignature s
  match s.parameters.head?.bind Source.Parameter.receiver? with
  | none => .error .receiverMissing
  | some receiver => do
    let access ← accessOf receiver
    let types ← boundTypes s
    return ⟨item, ⟨item.visibility, .method access settings.cls, s.name, scriptName settings s, types⟩⟩

inductive ExpansionError where
  | setting (e : SettingError)
  | unreadable
  | rejected (r : Rejection)
deriving DecidableEq

/-- Expands an attribute for free functions or for methods, given the text of its settings and of its item. The
settings are read first. -/
def expand (place : Source.Place) (settings item : String) : Except ExpansionError Expansion := do
  let settings ← (Settings.ofText settings).mapError .setting
  let some item := Source.scan item >>= Source.readItem place | .error .unreadable
  let expansion := match place with
    | .free => expandFunction settings item
    | .member => expandMethod settings item
  expansion.mapError .rejected

end ScriptBridge.Attribute
