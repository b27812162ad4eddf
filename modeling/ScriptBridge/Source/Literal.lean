import ScriptBridge.Number.Digits
import ScriptBridge.Source.NameChar
import ScriptBridge.Source.Token
import ScriptBridge.Text.Blank
import ScriptBridge.Text.Reader

/-! Literals of host source text: texts, bytes, characters and numbers. -/
namespace ScriptBridge.Source

open Text (Reader repeatUntil consumed expect)

/-- The character of an escape that gives its code between braces, from after the first brace: up to six hexadecimal
digits, with underscores after the first. -/
def readCode : Reader Char := fun cs => do
  let code := cs.takeWhile fun c => c == '_' || (Number.digitValue? 16 c).isSome
  let digits := code.filter (· != '_')
  if code.head? = some '_' ∨ digits.isEmpty ∨ 6 < digits.length then none
  else return (← Number.hexChar? digits, ← expect ['\x7d'] (cs.drop code.length))

/-- The character of an escape, given what follows the backslash. A code in two digits is below 128 in a text; in
bytes it may be any. -/
def readEscape (bytes : Bool) : Reader Char
  | 'n' :: rest => some ('\n', rest)
  | 'r' :: rest => some ('\r', rest)
  | 't' :: rest => some ('\t', rest)
  | '0' :: rest => some ('\x00', rest)
  | '\\' :: rest => some ('\\', rest)
  | '\'' :: rest => some ('\'', rest)
  | '"' :: rest => some ('"', rest)
  | 'x' :: high :: low :: rest => do
    let _ ← Number.digitValue? (if bytes then 16 else 8) high
    return (← Number.hexChar? [high, low], rest)
  | 'u' :: '\x7b' :: rest => if bytes then none else readCode rest
  | _ => none

/-- A piece of a quoted text; `none` at its last quote. A backslash at the end of a line leaves out the line break
and the blanks after it. -/
def readPiece (bytes : Bool) : Reader (Option (List Char))
  | '"' :: rest => some (none, rest)
  | '\r' :: '\n' :: rest => some (some ['\n'], rest)
  | '\r' :: _ => none
  | '\\' :: '\n' :: rest => some (some [], rest.dropWhile Text.isBlank)
  | '\\' :: '\r' :: '\n' :: rest => some (some [], rest.dropWhile Text.isBlank)
  | '\\' :: rest => (readEscape bytes rest).map fun (c, rest) => (some [c], rest)
  | c :: rest => if bytes && 0x80 ≤ c.toNat then none else some (some [c], rest)
  | [] => none

def readQuoted (bytes : Bool) : Reader String := fun cs => do
  let (pieces, rest) ← repeatUntil (readPiece bytes) cs
  return (String.ofList pieces.flatten, rest)

/-- The value of a raw text, from before its number signs. It ends at a quote with as many of them after it. -/
def readRaw : Reader String := fun cs => do
  let signs := cs.takeWhile (· == '#')
  if 255 < signs.length then none
  let (chars, rest) ← repeatUntil (fun
    | [] => none
    | '\r' :: '\n' :: rest => some (some ['\r', '\n'], rest)
    | '\r' :: _ => none
    | c :: rest =>
      match if c = '"' then expect signs rest else none with
      | some after => some (none, after)
      | none => some (some [c], rest)) (← expect ['"'] (cs.drop signs.length))
  return (String.ofList chars.flatten, rest)

def readString : Reader String
  | '"' :: rest => readQuoted false rest
  | 'r' :: rest => readRaw rest
  | _ => none

def afterQuotedChar (bytes : Bool) : List Char → Option (List Char)
  | '\\' :: rest => do expect ['\''] (← readEscape bytes rest).2
  | _ :: rest => expect ['\''] rest
  | [] => none

def afterQuotedForm : List Char → Option (List Char)
  | 'b' :: '"' :: rest => (readQuoted true rest).map (·.2)
  | 'b' :: 'r' :: rest => (readRaw rest).map (·.2)
  | 'c' :: '"' :: rest => (readQuoted false rest).map (·.2)
  | 'c' :: 'r' :: rest => (readRaw rest).map (·.2)
  | 'b' :: '\'' :: rest => afterQuotedChar true rest
  | '\'' :: rest => afterQuotedChar false rest
  | _ => none

def afterSuffix (cs : List Char) : List Char :=
  if cs.head?.any isNameStart then cs.dropWhile isNameChar else cs

/-- What follows an exponent, from after its letter; `none` if it has no digit or two signs before the first. -/
def afterExponent (signed digits : Bool) : List Char → Option (List Char)
  | [] => if digits then some [] else none
  | c :: rest =>
    if c = '+' ∨ c = '-' then
      if digits then some (c :: rest) else if signed then none else afterExponent true digits rest
    else if c.isDigit then afterExponent signed true rest
    else if c = '_' then afterExponent signed digits rest
    else if digits then some (c :: rest) else none

def isDigitOrSpacer (c : Char) : Bool := c.isDigit || c == '_'

/-- What follows the digits of a number with a point or an exponent. A point is not part of a number if another
point or a name follows it. -/
def afterFraction (cs : List Char) : Option (List Char) :=
  if cs.head?.any Char.isDigit then
    let exponent : List Char → Option (List Char)
      | 'e' :: rest => afterExponent false false rest
      | 'E' :: rest => afterExponent false false rest
      | _ => none
    match cs.dropWhile isDigitOrSpacer with
    | '.' :: rest =>
      if rest.head?.any (fun c => c == '.' || isNameStart c) then none
      else
        let rest := rest.dropWhile isDigitOrSpacer
        some ((exponent rest).getD rest)
    | rest => exponent rest
  else none

/-- What follows the digits of a whole number in a base; `none` if there are none or one is too large. -/
def afterDigits (base : Nat) (digits : Bool) : List Char → Option (List Char)
  | [] => if digits then some [] else none
  | c :: rest =>
    if c = '_' then if digits ∨ base ≠ 10 then afterDigits base digits rest else none
    else if (Number.digitValue? base c).isSome then afterDigits base true rest
    else if c.isDigit then none
    else if digits then some (c :: rest) else none

def afterWhole : List Char → Option (List Char)
  | '0' :: 'x' :: rest => afterDigits 16 false rest
  | '0' :: 'o' :: rest => afterDigits 8 false rest
  | '0' :: 'b' :: rest => afterDigits 2 false rest
  | cs => afterDigits 10 false cs

def afterNumber (cs : List Char) : Option (List Char) := do
  let rest := afterSuffix (← afterFraction cs <|> afterWhole cs)
  if rest.head?.any isNameChar then none else return rest

def readLiteral : Reader Token := fun cs =>
  match readString cs with
  | some (value, rest) =>
    let rest := afterSuffix rest
    some (.text ⟨value, String.ofList (consumed cs rest)⟩, rest)
  | none => do
    let rest ← (afterQuotedForm cs).map afterSuffix <|> afterNumber cs
    return (.literal (String.ofList (consumed cs rest)), rest)

end ScriptBridge.Source
