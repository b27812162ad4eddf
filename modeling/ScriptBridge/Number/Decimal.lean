import ScriptBridge.Number.Arithmetic
import ScriptBridge.Number.Digits

/-! Decimal literals of binary32 numbers: the exact reading of a whole text, and the longest readable front of one. -/
namespace ScriptBridge.Number.Single

/-- The number nearest to `mantissa * 10 ^ exponent`, ties to even. An exponent far out of range is answered
without forming the power. -/
def ofDecimal (negative : Bool) (mantissa : Nat) : Int → Single
  | .ofNat e =>
    if mantissa = 0 then zero negative
    else if 60 < e then .infinite negative
    else ofQuotient negative (mantissa * Nat.pow 10 e * unitsPerOne) 1
  | .negSucc e =>
    if mantissa.log2 + 60 < e then zero negative
    else ofQuotient negative (mantissa * unitsPerOne) (Nat.pow 10 (e + 1))

def takeSign : List Char → Bool × List Char
  | '-' :: rest => (true, rest)
  | '+' :: rest => (false, rest)
  | cs => (false, cs)

def takeFraction : List Char → List Char × List Char
  | '.' :: rest => (rest.takeWhile Char.isDigit, rest.dropWhile Char.isDigit)
  | cs => ([], cs)

/-- The exponent that makes up a whole text; the empty text is the exponent zero. -/
def readExponent? : List Char → Option Int
  | [] => some 0
  | c :: rest =>
    let (negative, digits) := takeSign rest
    if (c = 'e' ∨ c = 'E') ∧ digits ≠ [] ∧ digits.all Char.isDigit then
      some (if negative then -(decimalValue digits) else decimalValue digits)
    else none

def readWord? (negative : Bool) (cs : List Char) : Option Single :=
  let word := String.ofList (cs.map Char.toLower)
  if word = "inf" ∨ word = "infinity" then some (.infinite negative)
  else if word = "nan" then some .nan
  else none

/-- Reads a whole text as a number: a sign, then a word or digits with an optional point and exponent.
At least one digit has to stand before or after the point. -/
def read? (cs : List Char) : Option Single :=
  let (negative, body) := takeSign cs
  let whole := body.takeWhile Char.isDigit
  let (fraction, rest) := takeFraction (body.dropWhile Char.isDigit)
  if whole = [] ∧ fraction = [] then readWord? negative body
  else (readExponent? rest).map fun exponent =>
    ofDecimal negative (decimalValue (whole ++ fraction)) (exponent - fraction.length)

def signText : List Char → List Char
  | '-' :: _ => ['-']
  | '+' :: _ => ['+']
  | _ => []

def fractionText : List Char → List Char
  | '.' :: rest => '.' :: rest.takeWhile Char.isDigit
  | _ => []

/-- The exponent at the front, as text. It counts only if a digit follows its sign. -/
def exponentText : List Char → List Char
  | [] => []
  | c :: rest =>
    let digits := (takeSign rest).2.takeWhile Char.isDigit
    if (c = 'e' ∨ c = 'E') ∧ digits ≠ [] then c :: signText rest ++ digits else []

/-- The longest front of a text that has the form of a number written in digits; empty if there is none. -/
def numericFront (cs : List Char) : List Char :=
  let body := (takeSign cs).2
  let whole := body.takeWhile Char.isDigit
  let rest := body.dropWhile Char.isDigit
  let fraction := takeFraction rest
  if whole = [] ∧ fraction.1 = [] then []
  else signText cs ++ whole ++ fractionText rest ++ exponentText fraction.2

end ScriptBridge.Number.Single
