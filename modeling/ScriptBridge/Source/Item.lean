import ScriptBridge.Source.PatternPhrase
import ScriptBridge.Source.Scan

/-! Functions and methods of host source text: their signatures, read from tokens. -/
namespace ScriptBridge.Source

open Text (ReaderOf repeatUntil consumed)

structure Identifier where
  raw : Bool
  name : String
  name_ne : name ≠ ""
deriving DecidableEq

def Identifier.spelling (i : Identifier) : String := wordSpelling i.raw i.name

structure Receiver where
  isBorrowed : Bool
  isMutable : Bool
  hasType : Bool
deriving DecidableEq

inductive Parameter where
  | receiver (r : Receiver)
  | typed (type : List Token)
deriving DecidableEq

namespace Parameter

def receiver? : Parameter → Option Receiver
  | .receiver r => some r
  | .typed _ => none

def type? : Parameter → Option (List Token)
  | .receiver _ => none
  | .typed type => some type

end Parameter

structure Signature where
  isAsync : Bool
  isUnsafe : Bool
  name : Identifier
  generics : List (List Token)
  parameters : List Parameter
  isVariadic : Bool
deriving DecidableEq

namespace Signature

def receiver? (s : Signature) : Option Receiver := s.parameters.findSome? Parameter.receiver?

def types (s : Signature) : List (List Token) := s.parameters.filterMap Parameter.type?

end Signature

structure Item where
  tokens : List Token
  visibility : List Token
  signature : Signature
deriving DecidableEq

inductive Place where
  | free
  | member
deriving DecidableEq

section
variable (type : Skip)

def readReceiver : ReaderOf Token Receiver := fun ts => do
  let borrowed := (afterMark '&' ts).map (optionally afterLifetime)
  let rest := borrowed.getD ts
  let isMutable := (afterKeyword "mut" rest).isSome
  let rest ← afterKeyword "self" (optionally (afterKeyword "mut") rest)
  match if borrowed.isSome then none else afterMark ':' rest with
  | some rest => return (⟨false, isMutable, true⟩, ← type rest)
  | none => return (⟨borrowed.isSome, isMutable, false⟩, rest)

def dots : List Char := ['.', '.', '.']

/-- A parameter, or `none` for the marks that stand for any further arguments. A type with arguments may stand without
a pattern. -/
def readParameter : ReaderOf Token (Option Parameter) := fun ts => do
  let ts ← afterAttributes ts
  match afterMarks dots ts, readReceiver type ts with
  | some rest, _ => return (none, rest)
  | none, some (r, rest) => return (some (.receiver r), rest)
  | none, none =>
    let start ← if ((afterName ts).bind (afterMark '<')).isSome then some ts
      else do afterMark ':' (← afterPattern ts.length ts)
    match afterMarks dots start with
    | some rest => return (none, rest)
    | none => do
      let rest ← type start
      return (some (.typed (consumed start rest)), rest)

/-- The parameters of a function, from after the parenthesis. A receiver may only come first, and the marks for
further arguments only last. -/
def readParameters : ReaderOf Token (List Parameter × Bool) := fun ts => do
  let (all, rest) ← readItems (readParameter type) (afterClosing .round) ts
  let parameters := all.reduceOption
  let isVariadic := all.contains none
  if all.dropLast.contains none ∨ (parameters.tail.any fun p => p.receiver?.isSome) then none
  else return ((parameters, isVariadic), rest)

end

def afterDefault (value : Skip) : Skip := fun ts =>
  match afterMark '=' ts with
  | none => some ts
  | some rest => value rest

def afterGenericParam (p : Phrases) : Skip := fun ts => do
  let ts ← afterAttributes ts
  match ts with
  | .lifetime _ :: _ => afterLifetimeParam ts
  | .word false "const" :: rest => do
    let rest ← p.type true (← afterMark ':' (← afterName rest))
    afterDefault afterConstantOrBlock rest
  | _ => do
    let rest ← afterName ts <|> afterKeyword "_" ts
    let rest ← match afterMark ':' rest with
      | none => some rest
      | some rest => afterSum p.bound rest
    afterDefault (p.type true) rest

def readGenerics (p : Phrases) : ReaderOf Token (List (List Token)) := fun ts =>
  match afterMark '<' ts with
  | none => some ([], ts)
  | some rest =>
    readItems (fun ts => (afterGenericParam p ts).map fun rest => (consumed ts rest, rest)) (afterMark '>') rest

def afterCondition (p : Phrases) : Skip := fun ts =>
  match ts with
  | .lifetime _ :: .mark ':' _ :: rest => afterSum afterLifetime rest
  | _ => do
    let ts ← if (afterKeyword "for" ts).isSome then afterBinder ts else some ts
    afterSum p.bound (← afterMark ':' (← p.type true ts))

def afterConditions (p : Phrases) : Skip := fun ts =>
  match afterKeyword "where" ts with
  | none => some ts
  | some rest =>
    (readItems (fun ts => (afterCondition p ts).map ((), ·))
      (fun ts => (afterOpening .curly ts).map fun _ => ts) rest).map (·.2)

def afterVisibility : Skip := fun ts =>
  match afterKeyword "pub" ts with
  | none => some ts
  | some rest =>
    match rest with
    | .opening .round :: .word false scope :: .closing .round :: after =>
      if ["crate", "self", "super"].contains scope then some after else some rest
    | .opening .round :: .word false "in" :: path => do afterClosing .round (← afterPlainPath path)
    | _ => some rest

def readSignature : ReaderOf Token Signature := fun ts => do
  let p := phrases (ts.length + 1)
  let ts := optionally (afterKeyword "const") ts
  let isAsync := (afterKeyword "async" ts).isSome
  let ts := optionally (afterKeyword "async") ts
  let isUnsafe := (afterKeyword "unsafe" ts).isSome
  let ts ← afterKeyword "fn" (optionally afterConvention (optionally (afterKeyword "unsafe") ts))
  match ts with
  | .word raw name :: rest =>
    if h : name ≠ "" ∧ isName (.word raw name) then
      let (generics, rest) ← readGenerics p rest
      let ((parameters, isVariadic), rest) ← readParameters (p.type true) (← afterOpening .round rest)
      let rest ← afterConditions p (← p.afterReturn true rest)
      return (⟨isAsync, isUnsafe, ⟨raw, name, h.1⟩, generics, parameters, isVariadic⟩, rest)
    else none
  | _ => none

/-- An item that takes up all of the tokens. Of its body only the braces are looked at. -/
def readItem (place : Place) (ts : List Token) : Option Item := do
  let start ← afterAttributes ts
  let rest ← afterVisibility start
  let visibility := consumed start rest
  let rest := if place = .member then optionally (afterKeyword "default") rest else rest
  let (signature, rest) ← readSignature rest
  match ← afterInside 0 (← afterOpening .curly rest) with
  | [] => return ⟨ts, visibility, signature⟩
  | _ :: _ => none

end ScriptBridge.Source
