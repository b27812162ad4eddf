import ScriptBridge.Number.Digits
import ScriptBridge.Text.Reader
import ScriptBridge.Toml.Value

/-! Strings, numbers, dates and truth values of TOML. -/
namespace ScriptBridge.Toml

open Text (Reader repeatUntil consumed expect)

def isSpace (c : Char) : Bool := c == ' ' || c == '\t'

def skipSpace (cs : List Char) : List Char := cs.dropWhile isSpace

def isPlain (c : Char) : Bool := c == '\t' || (0x20 ≤ c.toNat && c.toNat != 0x7F)

def afterNewline? : List Char → Option (List Char)
  | '\n' :: rest => some rest
  | '\r' :: '\n' :: rest => some rest
  | _ => none

def skipNewline (cs : List Char) : List Char := (afterNewline? cs).getD cs

def readEscape : Reader Char
  | 'b' :: rest => some ('\x08', rest)
  | 't' :: rest => some ('\t', rest)
  | 'n' :: rest => some ('\n', rest)
  | 'f' :: rest => some ('\x0c', rest)
  | 'r' :: rest => some ('\r', rest)
  | '"' :: rest => some ('"', rest)
  | '\\' :: rest => some ('\\', rest)
  | 'u' :: rest => if rest.length < 4 then none else (Number.hexChar? (rest.take 4)).map (·, rest.drop 4)
  | 'U' :: rest => if rest.length < 8 then none else (Number.hexChar? (rest.take 8)).map (·, rest.drop 8)
  | _ => none

/-- A string in one line, from after its quote. Escapes are read if the quote is a double one. -/
def readLineString (quote : Char) : Reader String := fun cs => do
  let (chars, rest) ← repeatUntil (fun
    | [] => none
    | c :: rest =>
      if c = quote then some (none, rest)
      else if c = '\\' ∧ quote = '"' then (readEscape rest).map fun (c, rest) => (some c, rest)
      else if isPlain c then some (some c, rest)
      else none) cs
  return (String.ofList chars, rest)

def skipBlankLines : List Char → List Char
  | '\r' :: '\n' :: rest => skipBlankLines rest
  | c :: rest => if isSpace c ∨ c = '\n' then skipBlankLines rest else c :: rest
  | [] => []

/-- A piece of a string that goes over several lines; `none` after its last quote. Up to two quotes may stand right
before the three that end it. -/
def readBlockPiece (quote : Char) : Reader (Option (List Char)) := fun cs =>
  match cs with
  | [] => none
  | c :: rest =>
    if c = quote then
      match expect [quote, quote] rest with
      | none => some (some [c], rest)
      | some after => if after.head? = some quote then some (some [c], rest) else some (none, after)
    else if c = '\\' ∧ quote = '"' then
      match afterNewline? (skipSpace rest) with
      | some after => some (some [], skipBlankLines after)
      | none => (readEscape rest).map fun (c, rest) => (some [c], rest)
    else match afterNewline? cs with
      | some after => some (some ['\n'], after)
      | none => if isPlain c then some (some [c], rest) else none

/-- A string over several lines, from after its three quotes. A line break right after them is not part of it. -/
def readBlockString (quote : Char) : Reader String := fun cs => do
  let (pieces, rest) ← repeatUntil (readBlockPiece quote) (skipNewline cs)
  return (String.ofList pieces.flatten, rest)

def readString : Reader String
  | '"' :: '"' :: '"' :: rest => readBlockString '"' rest
  | '\'' :: '\'' :: '\'' :: rest => readBlockString '\'' rest
  | '"' :: rest => readLineString '"' rest
  | '\'' :: rest => readLineString '\'' rest
  | _ => none

/-- The digits after a first one. An underscore has to stand between digits. -/
def readDigitTail (ok : Char → Bool) : Reader (List Char)
  | [] => some ([], [])
  | '_' :: c :: rest =>
    if ok c then (readDigitTail ok rest).map fun (ds, rest) => (c :: ds, rest) else none
  | c :: rest =>
    if c = '_' then none
    else if ok c then (readDigitTail ok rest).map fun (ds, rest) => (c :: ds, rest)
    else some ([], c :: rest)

def readDigits (ok : Char → Bool) : Reader (List Char)
  | c :: rest => if ok c then (readDigitTail ok rest).map fun (ds, rest) => (c :: ds, rest) else none
  | [] => none

def readSign : List Char → Bool × List Char
  | '-' :: rest => (true, rest)
  | '+' :: rest => (false, rest)
  | cs => (false, cs)

def readDecimal : Reader (Bool × List Char) := fun cs =>
  let (negative, unsigned) := readSign cs
  match unsigned with
  | '0' :: rest => some ((negative, ['0']), rest)
  | unsigned => (readDigits Char.isDigit unsigned).map fun (ds, rest) => ((negative, ds), rest)

def digitsValue (base : Nat) (digits : List Char) : Nat :=
  digits.foldl (fun n c => base * n + (Number.digitValue? base c).getD 0) 0

/-- An integer in 64 bits. A prefixed one has no sign. -/
def readInteger : Reader Int := fun cs => do
  let based (base : Nat) (rest : List Char) : Option (Int × List Char) := do
    let (digits, rest) ← readDigits (fun c => (Number.digitValue? base c).isSome) rest
    return (digitsValue base digits, rest)
  let (i, rest) ← match cs with
    | '0' :: 'x' :: rest => based 16 rest
    | '0' :: 'o' :: rest => based 8 rest
    | '0' :: 'b' :: rest => based 2 rest
    | cs => do
      let ((negative, digits), rest) ← readDecimal cs
      let n := digitsValue 10 digits
      pure (if negative then -n else n, rest)
  if Int64.minValue.toInt ≤ i ∧ i ≤ Int64.maxValue.toInt then return (i, rest) else none

def readExponent : Reader Int
  | c :: rest =>
    if c = 'e' ∨ c = 'E' then do
      let (negative, unsigned) := readSign rest
      let (digits, rest) ← readDigits Char.isDigit unsigned
      let n := digitsValue 10 digits
      return (if negative then -n else n, rest)
    else none
  | [] => none

def readFraction : Reader (List Char)
  | '.' :: rest => readDigits Char.isDigit rest
  | _ => none

/-- Where the numbers begin that round above all finite ones of 64 bits: halfway past the largest. -/
def overflowBound : Nat := Nat.pow 2 970 * (Nat.pow 2 54 - 1)

def overflows (mantissa : Nat) : Int → Bool
  | .ofNat e => mantissa != 0 && (400 < e || overflowBound ≤ mantissa * Nat.pow 10 e)
  | .negSucc e =>
    decide (e ≤ mantissa.log2) && decide (overflowBound * Nat.pow 10 (e + 1) ≤ mantissa)

/-- A float: a fraction, an exponent, or both. A positive one that is too large is refused. -/
def readFloat : Reader Unit := fun cs => do
  let ((negative, whole), afterWhole) ← readDecimal cs
  let fraction := readFraction afterWhole
  let (digits, afterDigits) := fraction.getD ([], afterWhole)
  let exponent := readExponent afterDigits
  if fraction.isNone ∧ exponent.isNone then none
  let (e, rest) := exponent.getD (0, afterDigits)
  if !negative && overflows (digitsValue 10 (whole ++ digits)) (e - digits.length) then none
  return ((), rest)

def readFloatWord : Reader Unit := fun cs =>
  let unsigned := (readSign cs).2
  (expect "inf".toList unsigned <|> expect "nan".toList unsigned).map ((), ·)

def readField (places low high : Nat) : Reader Nat := fun cs =>
  let digits := cs.take places
  let n := digitsValue 10 digits
  if digits.length = places ∧ digits.all Char.isDigit ∧ low ≤ n ∧ n ≤ high then some (n, cs.drop places)
  else none

def isLeapYear (year : Nat) : Bool := year % 4 == 0 && (year % 100 != 0 || year % 400 == 0)

def daysInMonth (year month : Nat) : Nat :=
  if month = 2 then if isLeapYear year then 29 else 28
  else if month = 4 ∨ month = 6 ∨ month = 9 ∨ month = 11 then 30
  else 31

def readDate : Reader Unit := fun cs => do
  let (year, rest) ← readField 4 0 9999 cs
  let (month, rest) ← readField 2 1 12 (← expect ['-'] rest)
  let (_, rest) ← readField 2 1 (daysInMonth year month) (← expect ['-'] rest)
  return ((), rest)

def readTime : Reader Unit := fun cs => do
  let (_, rest) ← readField 2 0 23 cs
  let (_, rest) ← readField 2 0 59 (← expect [':'] rest)
  let (_, rest) ← readField 2 0 60 (← expect [':'] rest)
  match rest with
  | '.' :: c :: rest => if c.isDigit then return ((), rest.dropWhile Char.isDigit) else none
  | ['.'] => none
  | rest => return ((), rest)

def readOffset : Reader Unit
  | 'Z' :: rest => some ((), rest)
  | 'z' :: rest => some ((), rest)
  | c :: rest =>
    if c = '+' ∨ c = '-' then do
      let (_, rest) ← readField 2 0 23 rest
      let (_, rest) ← readField 2 0 59 (← expect [':'] rest)
      return ((), rest)
    else none
  | [] => none

/-- A date, a time, or both, the last with an offset or without. -/
def readDatetime : Reader Unit := fun cs =>
  match readDate cs with
  | none => readTime cs
  | some ((), rest) =>
    match rest with
    | c :: afterMark =>
      if c = 'T' ∨ c = 't' ∨ c = ' ' then
        match readTime afterMark with
        | some ((), afterTime) => some ((readOffset afterTime).getD ((), afterTime))
        | none => some ((), rest)
      else some ((), rest)
    | [] => some ((), rest)

/-- A date or a number. Whatever starts with a whole date or time is read as one. -/
def readNumber : Reader Value := fun cs =>
  match readDatetime cs, readFloat cs <|> readFloatWord cs with
  | some ((), rest), _ => some (.datetime (String.ofList (consumed cs rest)), rest)
  | none, some ((), rest) => some (.float (String.ofList (consumed cs rest)), rest)
  | none, none => (readInteger cs).map fun (i, rest) => (.integer i, rest)

def readScalar : Reader Value := fun cs =>
  match cs with
  | 't' :: _ => (expect "true".toList cs).map (.boolean true, ·)
  | 'f' :: _ => (expect "false".toList cs).map (.boolean false, ·)
  | '"' :: _ | '\'' :: _ => (readString cs).map fun (s, rest) => (.string s, rest)
  | cs => readNumber cs

end ScriptBridge.Toml
