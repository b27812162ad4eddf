import ScriptBridge.Source.Phrase

/-! Types and bounds of host source text. Each form takes the types and bounds inside it by given ways, which
`phrases` supplies level by level. -/
namespace ScriptBridge.Source

open Text (ReaderOf repeatUntil)

def afterConstant : Skip
  | .text _ :: rest => some rest
  | .literal _ :: rest => some rest
  | .word false "true" :: rest => some rest
  | .word false "false" :: rest => some rest
  | .mark '-' _ :: .literal _ :: rest => some rest
  | _ => none

def afterConstantOrBlock : Skip
  | .opening .curly :: rest => afterInside 0 rest
  | ts => afterConstant ts

def afterLifetimeParam : Skip := fun ts => do
  let rest ← afterLifetime ts
  match afterMark ':' rest with
  | none => return rest
  | some rest => afterSum afterLifetime rest

def afterBinder : Skip := fun ts => do
  afterItems (fun ts => do afterLifetimeParam (← afterAttributes ts)) (afterMark '>')
    (← afterMark '<' (← afterKeyword "for" ts))

def afterConvention : Skip := fun ts => do
  match ← afterKeyword "extern" ts with
  | .text _ :: rest => return rest
  | rest => return rest

structure Phrases where
  type : (sums : Bool) → Skip
  bound : Skip

namespace Phrases

variable (inner : Phrases)

def afterReturn (sums : Bool) : Skip := fun ts =>
  match afterMarks ['-', '>'] ts with
  | none => some ts
  | some rest => inner.type sums rest

def afterCallTypes : Skip := fun ts => do
  inner.afterReturn false (← afterItems (inner.type true) (afterClosing .round) (← afterOpening .round ts))

def afterOptionalCallTypes : Skip := fun ts =>
  match ts, afterMarks pathMark ts with
  | .opening .round :: _, _ => inner.afterCallTypes ts
  | _, some (.opening .round :: rest) => inner.afterCallTypes (.opening .round :: rest)
  | _, _ => some ts

def afterTypeArgument : Skip := fun ts =>
  match ts, afterConstantOrBlock ts with
  | .lifetime _ :: .mark '+' _ :: _, _ => inner.type true ts
  | .lifetime _ :: rest, _ => some rest
  | _, some rest => some rest
  | _, none => do
    let rest ← inner.type true ts
    match afterMark '=' rest, afterMark ':' rest, ts.head?.any isName with
    | some value, _, true => afterConstantOrBlock value <|> inner.type true value
    | _, some bounds, true => afterSum inner.bound bounds
    | _, _, _ => return rest

def afterTypeArguments : Skip := fun ts => do
  afterItems inner.afterTypeArgument (afterMark '>') (← afterMark '<' (optionally (afterMarks pathMark) ts))

def readPart : ReaderOf Token Bool := fun ts =>
  if ts.head?.any (· ∈ ["super", "self", "crate", "try"].map (Token.word false)) then some (false, ts.tail)
  else do
    let rest ← afterName ts <|> afterKeyword "Self" ts
    if (afterMark '<' (optionally (afterMarks pathMark) rest)).isSome then
      return (true, ← inner.afterTypeArguments rest)
    else return (false, rest)

def readParts : ReaderOf Token Bool := fun ts => do
  let (first, rest) ← inner.readPart ts
  let (others, rest) ← repeatUntil (fun ts =>
    match afterMarks pathMark ts with
    | none => some (none, ts)
    | some (.opening .round :: _) => some (none, ts)
    | some rest => (inner.readPart rest).map fun (a, rest) => (some a, rest)) rest
  return ((first :: others).getLast (List.cons_ne_nil first others), rest)

def readPath : ReaderOf Token Bool := fun ts => inner.readParts (optionally (afterMarks pathMark) ts)

def afterTrait : Skip := fun ts => do
  let rest := optionally (afterMark '?') ts
  let rest ← if (afterKeyword "for" rest).isSome then afterBinder rest else some rest
  match ← inner.readPath rest with
  | (true, rest) => return rest
  | (false, rest) => inner.afterOptionalCallTypes rest

def readBound : ReaderOf Token Bool
  | .lifetime _ :: rest => some (false, rest)
  | .opening .round :: rest => do return (true, ← afterClosing .round (← inner.afterTrait rest))
  | ts => (inner.afterTrait ts).map (true, ·)

def beginsBound : Token → Bool
  | .word .. | .lifetime _ | .opening .round => true
  | .mark c _ => c == ':' || c == '?'
  | _ => false

def readMoreBounds : ReaderOf Token (List Bool) :=
  repeatUntil fun ts =>
    match afterMark '+' ts with
    | none => some (none, ts)
    | some rest =>
      if rest.head?.any beginsBound then (inner.readBound rest).map fun (a, rest) => (some a, rest)
      else some (some false, rest)

def afterBounds (sums : Bool) : Skip := fun ts => do
  let (first, rest) ← inner.readBound ts
  let (others, rest) ← if sums then inner.readMoreBounds rest else some ([], rest)
  if first || others.any id then return rest else none

def afterMoreBounds (sums : Bool) : Skip := fun ts =>
  if sums then inner.readMoreBounds ts |>.map (·.2) else some ts

def afterParenthesised (sums : Bool) : Skip := fun ts =>
  match ts with
  | .closing .round :: rest => some rest
  | .lifetime _ :: _ => do afterClosing .round (← inner.afterBounds true ts)
  | .mark '?' _ :: _ => do
    inner.readMoreBounds (← afterClosing .round (← inner.afterTrait ts)) |>.map (·.2)
  | _ => do
    let rest ← inner.type true ts
    match afterMark ',' rest with
    | some rest => afterItems (inner.type true) (afterClosing .round) rest
    | none => inner.afterMoreBounds sums (← afterClosing .round rest)

def afterFunctionTypeParam : Skip := fun ts => do
  let ts ← afterAttributes ts
  let named := afterName ts <|> afterKeyword "_" ts <|> afterKeyword "self" ts
  let ts := match named with
    | some (.mark ':' joined :: rest) => if joined ∧ (afterMark ':' rest).isSome then ts else rest
    | _ => ts
  afterMarks ['.', '.', '.'] ts <|> inner.type true ts

def afterFunctionType : Skip := fun ts => do
  let rest ← afterKeyword "fn" (optionally afterConvention (optionally (afterKeyword "unsafe") ts))
  inner.afterReturn false
    (← afterItems inner.afterFunctionTypeParam (afterClosing .round) (← afterOpening .round rest))

def afterQualified : Skip := fun ts => do
  let rest ← inner.type true ts
  let rest ← match afterKeyword "as" rest with
    | some path => (inner.readPath path).map (·.2)
    | none => some rest
  let (_, rest) ← inner.readParts (← afterMarks pathMark (← afterMark '>' rest))
  return rest

def afterNamedType (sums : Bool) : Skip := fun ts =>
  match ts with
  | .mark '<' _ :: rest => do inner.afterOptionalCallTypes (← inner.afterQualified rest)
  | _ => do
    match ← inner.readPath ts with
    | (true, rest) => inner.afterMoreBounds sums rest
    | (false, .mark '!' _ :: rest) => afterGroup rest
    | (false, rest) => inner.afterMoreBounds sums (← inner.afterOptionalCallTypes rest)

def afterType (sums : Bool) : Skip := fun ts =>
  match ts with
  | .opening .round :: rest => inner.afterParenthesised sums rest
  | .opening .square :: rest => do
    let rest ← inner.type true rest
    match rest with
    | .mark ';' _ :: rest => afterSomeInside rest
    | rest => afterClosing .square rest
  | .mark '*' _ :: rest => do inner.type false (← afterKeyword "const" rest <|> afterKeyword "mut" rest)
  | .mark '&' _ :: rest => inner.type false (optionally (afterKeyword "mut") (optionally afterLifetime rest))
  | .mark '!' _ :: rest => some rest
  | .lifetime _ :: _ => inner.afterBounds true ts
  | .word false "_" :: rest => some rest
  | .word false "impl" :: rest => inner.afterBounds sums rest
  | .word false "dyn" :: rest => inner.afterBounds sums (optionally (afterMark '*') rest)
  | .word false "fn" :: _ => inner.afterFunctionType ts
  | .word false "unsafe" :: _ => inner.afterFunctionType ts
  | .word false "extern" :: _ => inner.afterFunctionType ts
  | .word false "for" :: _ => do
    let rest ← afterBinder ts
    inner.afterFunctionType rest <|> inner.afterNamedType sums rest
  | _ => inner.afterNamedType sums ts

end Phrases

def phrases : Nat → Phrases
  | 0 => ⟨fun _ _ => none, fun _ => none⟩
  | levels + 1 =>
    let inner := phrases levels
    ⟨inner.afterType, fun ts => (inner.readBound ts).map (·.2)⟩

end ScriptBridge.Source
