import ScriptBridge.Source.Literal
import ScriptBridge.Text.Quoted

/-! Host source text as tokens. Blanks and comments are left out; comments that document become attributes. -/
namespace ScriptBridge.Source

open Text (Reader repeatUntil consumed)

def isMark (c : Char) : Bool := "~!@#$%^&*-=+|;:,<.>/?'".toList.contains c

/-- What follows a comment, from after its first two characters. Such comments may stand in each other. -/
def afterBlock : Nat → List Char → Option (List Char)
  | depth, '/' :: '*' :: rest => afterBlock (depth + 1) rest
  | 0, '*' :: '/' :: rest => some rest
  | depth + 1, '*' :: '/' :: rest => afterBlock depth rest
  | depth, _ :: rest => afterBlock depth rest
  | _, [] => none

def lineOf : List Char → List Char
  | [] => []
  | '\n' :: _ => []
  | '\r' :: '\n' :: _ => []
  | c :: rest => c :: lineOf rest

def breaksWhole : List Char → Bool
  | [] => true
  | '\r' :: '\n' :: rest => breaksWhole rest
  | c :: rest => c != '\r' && breaksWhole rest

/-- The attribute that a documenting comment stands for. An inner one belongs to what it stands in. -/
def documentation (inner : Bool) (content : List Char) : Option (List Token) :=
  if breaksWhole content then
    let content := String.ofList content
    some ([.mark '#' inner] ++ (if inner then [.mark '!' false] else []) ++
      [.opening .square, .word false "doc", .mark '=' false, .text ⟨content, Text.quotedText content⟩,
        .closing .square])
  else none

def readComment : Reader (List Token)
  | '/' :: '/' :: rest => do
    let line := lineOf rest
    let after := rest.drop line.length
    match line with
    | '/' :: '/' :: _ => return ([], after)
    | '/' :: content => return (← documentation false content, after)
    | '!' :: content => return (← documentation true content, after)
    | _ => return ([], after)
  | '/' :: '*' :: rest => do
    let after ← afterBlock 0 rest
    let content := (consumed rest after).dropLast.dropLast
    match rest with
    | '!' :: _ => return (← documentation true content.tail, after)
    | '*' :: '*' :: _ => return ([], after)
    | '*' :: '/' :: _ => return ([], after)
    | '*' :: _ => return (← documentation false content.tail, after)
    | _ => return ([], after)
  | _ => none

def readName (raw : Bool) : Reader (Bool × String) := fun cs =>
  let name := String.ofList (cs.takeWhile isNameChar)
  if cs.head?.any isNameStart && !(raw && ["_", "super", "self", "Self", "crate"].contains name) then
    some ((raw, name), cs.dropWhile isNameChar)
  else none

def readWord : Reader (Bool × String)
  | 'r' :: '#' :: rest => readName true rest
  | cs => readName false cs

def opensLiteral (cs : List Char) : Bool :=
  ["r\"", "r#\"", "r##", "b\"", "b'", "br\"", "br#", "c\"", "cr\"", "cr#"].any fun s => s.toList.isPrefixOf cs

def startsComment (cs : List Char) : Bool := ['/', '/'].isPrefixOf cs || ['/', '*'].isPrefixOf cs

def readLifetime : Reader Token := fun cs => do
  let ((raw, name), rest) ← readWord cs
  if rest.head? = some '\'' ∨ (rest.head? = some '#' ∧ !raw) then none
  else return (.lifetime (wordSpelling raw name), rest)

def readToken : Reader Token := fun cs =>
  match readLiteral cs with
  | some token => some token
  | none =>
    match cs with
    | [] => none
    | '(' :: rest => some (.opening .round, rest)
    | '[' :: rest => some (.opening .square, rest)
    | '\x7b' :: rest => some (.opening .curly, rest)
    | ')' :: rest => some (.closing .round, rest)
    | ']' :: rest => some (.closing .square, rest)
    | '\x7d' :: rest => some (.closing .curly, rest)
    | '\'' :: rest => readLifetime rest
    | c :: rest =>
      if isMark c then some (.mark c (rest.head?.any isMark && !startsComment rest), rest)
      else if opensLiteral cs then none
      else (readWord cs).map fun ((raw, name), rest) => (.word raw name, rest)

def readChunk : Reader (Option (List Token)) := fun cs =>
  match cs with
  | [] => some (none, [])
  | c :: rest =>
    if Text.isBlank c ∨ c = '\u200e' ∨ c = '\u200f' then some (some [], rest)
    else if startsComment cs then (readComment cs).map fun (ts, rest) => (some ts, rest)
    else (readToken cs).map fun (t, rest) => (some [t], rest)

/-- The tokens of a text; `none` if some part of it is no token or its brackets do not match. A byte order mark at
its front is skipped. -/
def scan (text : String) : Option (List Token) := do
  let cs := match text.toList with
    | '\ufeff' :: cs => cs
    | cs => cs
  let (chunks, _) ← repeatUntil readChunk cs
  let ts := chunks.flatten
  if balanced [] ts then return ts else none

end ScriptBridge.Source
