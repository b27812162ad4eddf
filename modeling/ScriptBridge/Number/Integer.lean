import ScriptBridge.Number.Digits

/-! Lenient reading of 32-bit integers: a sign, a radix mark, then as many digits as fit the radix. -/
namespace ScriptBridge.Number

structure Numeral where
  negative : Bool
  base : Nat
  digits : List Nat

namespace Numeral

def takeDigits (base : Nat) : List Char → List Nat
  | [] => []
  | c :: rest =>
    match digitValue? base c with
    | some d => d :: takeDigits base rest
    | none => []

def takeBase : List Char → Nat × List Char
  | '0' :: 'x' :: rest => (16, rest)
  | '0' :: 'X' :: rest => (16, rest)
  | '0' :: 'b' :: rest => (2, rest)
  | '0' :: 'B' :: rest => (2, rest)
  | cs => (10, cs)

/-- One minus may come before the mark; a plus is no sign here. -/
def takeMinus : List Char → Bool × List Char
  | '-' :: rest => (true, rest)
  | cs => (false, cs)

/-- Takes a text apart. Whatever follows the digits is dropped. -/
def ofText (cs : List Char) : Numeral :=
  let (negative, unsigned) := takeMinus cs
  let (base, rest) := takeBase unsigned
  { negative, base, digits := takeDigits base rest }

/-- The value in 32 bits; overflow wraps around. -/
def value (n : Numeral) : Int32 :=
  let magnitude := n.digits.foldl (fun acc d => acc * Int32.ofNat n.base + Int32.ofNat d) 0
  if n.negative then -magnitude else magnitude

end Numeral

/-- The integer at the front of a text, zero if there is none. No text is refused. -/
def lenientInt (text : String) : Int32 := (Numeral.ofText text.toList).value

end ScriptBridge.Number
