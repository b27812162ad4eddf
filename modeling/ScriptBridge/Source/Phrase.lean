import ScriptBridge.Source.Token
import ScriptBridge.Text.Reader

/-! What the phrases of host source text are put together from: words, marks, groups, lists and attributes. -/
namespace ScriptBridge.Source

open Text (ReaderOf repeatUntil)

abbrev Skip := List Token → Option (List Token)

def keywords : List String := [
  "_", "abstract", "as", "async", "await", "become", "box", "break", "const", "continue", "crate", "do", "dyn",
  "else", "enum", "extern", "false", "final", "fn", "for", "if", "impl", "in", "let", "loop", "macro", "match",
  "mod", "move", "mut", "override", "priv", "pub", "ref", "return", "Self", "self", "static", "struct", "super",
  "trait", "true", "try", "type", "typeof", "unsafe", "unsized", "use", "virtual", "where", "while", "yield"]

def isName : Token → Bool
  | .word raw name => raw || !keywords.contains name
  | _ => false

def afterName : Skip
  | t :: rest => if isName t then some rest else none
  | [] => none

def afterKeyword (keyword : String) : Skip
  | .word false name :: rest => if name = keyword then some rest else none
  | _ => none

def afterMark (c : Char) : Skip
  | .mark d _ :: rest => if c = d then some rest else none
  | _ => none

def afterMarks : List Char → Skip
  | [], ts => some ts
  | [c], ts => afterMark c ts
  | c :: cs, .mark d true :: rest => if c = d then afterMarks cs rest else none
  | _ :: _, _ => none

def pathMark : List Char := [':', ':']

def afterLifetime : Skip
  | .lifetime _ :: rest => some rest
  | _ => none

def afterOpening (b : Bracket) : Skip
  | .opening c :: rest => if b = c then some rest else none
  | _ => none

def afterClosing (b : Bracket) : Skip
  | .closing c :: rest => if b = c then some rest else none
  | _ => none

def optionally (skip : Skip) (ts : List Token) : List Token := (skip ts).getD ts

def afterInside : Nat → Skip
  | depth, .opening _ :: rest => afterInside (depth + 1) rest
  | 0, .closing _ :: rest => some rest
  | depth + 1, .closing _ :: rest => afterInside depth rest
  | depth, _ :: rest => afterInside depth rest
  | _, [] => none

def afterGroup : Skip
  | .opening _ :: rest => afterInside 0 rest
  | _ => none

def afterSomeInside : Skip
  | .closing _ :: _ => none
  | ts => afterInside 0 ts

/-- Items with commas between, up to what ends them. A comma may stand after the last. -/
def readItems {α : Type} (item : ReaderOf Token α) (stop : Skip) : ReaderOf Token (List α) := fun ts => do
  let (items, rest) ← repeatUntil (fun ts =>
    if (stop ts).isSome then some (none, ts)
    else do
      let (a, rest) ← item ts
      if (stop rest).isSome then return (some a, rest) else return (some a, ← afterMark ',' rest)) ts
  return (items, ← stop rest)

def afterItems (item stop : Skip) : Skip := fun ts =>
  (readItems (fun ts => (item ts).map ((), ·)) stop ts).map (·.2)

/-- What follows items with plus signs between. There may be none, and a sign may stand after the last. -/
def afterSum (item : Skip) : Skip := fun ts => do
  let (_, rest) ← repeatUntil (fun ts =>
    match item ts >>= afterMark '+' with
    | none => some (none, ts)
    | some rest => some (some (), rest)) ts
  return optionally item rest

def afterPlainPart : Skip
  | t :: rest =>
    if isName t ∨ t ∈ ["super", "self", "Self", "crate"].map (Token.word false) then some rest else none
  | [] => none

def afterPlainPath : Skip := fun ts => do
  let rest ← afterPlainPart (optionally (afterMarks pathMark) ts)
  let (_, rest) ← repeatUntil (fun ts =>
    match afterMarks pathMark ts with
    | none => some (none, ts)
    | some rest => (afterPlainPart rest).map (some (), ·)) rest
  return rest

def afterAttribute : Skip := fun ts => do
  let rest ← afterOpening .square (← afterMark '#' ts)
  let rest ← afterKeyword "unsafe" rest <|> afterPlainPath rest
  match rest with
  | .opening _ :: rest => afterClosing .square (← afterInside 0 rest)
  | .mark '=' _ :: rest => afterSomeInside rest
  | rest => afterClosing .square rest

def afterAttributes : Skip := fun ts =>
  (repeatUntil (fun ts =>
    match afterMark '#' ts with
    | none => some (none, ts)
    | some _ => (afterAttribute ts).map (some (), ·)) ts).map (·.2)

end ScriptBridge.Source
