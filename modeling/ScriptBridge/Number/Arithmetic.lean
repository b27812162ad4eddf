import ScriptBridge.Number.Single

/-! Arithmetic, comparison and integer conversion of binary32 numbers, each rounded once from the exact result. -/
namespace ScriptBridge.Number.Single

def signedUnits (negative : Bool) (units : Nat) : Int :=
  if negative then -units else units

/-- The number nearest to an integer, ties to even. Zero is positive. -/
def ofInt (i : Int) : Single := ofQuotient (i < 0) (i.natAbs * unitsPerOne) 1

/-- Toward zero into 32 bits: what lies outside goes to the nearer bound and a NaN to zero. -/
def toInt32 : Single → Int32
  | .nan => 0
  | .infinite true => Int32.minValue
  | .infinite false => Int32.maxValue
  | .finite negative units _ =>
    .ofInt (max Int32.minValue.toInt (min Int32.maxValue.toInt
      (signedUnits negative (units / unitsPerOne))))

/-- The sum. Two zeros, or a number and its opposite, give a zero that is negative only if both terms are. -/
def add : Single → Single → Single
  | .nan, _ => .nan
  | _, .nan => .nan
  | .infinite a, .infinite b => if a = b then .infinite a else .nan
  | .infinite a, .finite .. => .infinite a
  | .finite .., .infinite b => .infinite b
  | .finite a m _, .finite b n _ =>
    let sum := signedUnits a m + signedUnits b n
    if sum = 0 then zero (a && b) else ofQuotient (sum < 0) sum.natAbs 1

def mul : Single → Single → Single
  | .nan, _ => .nan
  | _, .nan => .nan
  | .infinite a, .infinite b => .infinite (a != b)
  | .infinite a, .finite b n _ => if n = 0 then .nan else .infinite (a != b)
  | .finite a m _, .infinite b => if m = 0 then .nan else .infinite (a != b)
  | .finite a m _, .finite b n _ => ofQuotient (a != b) (m * n) unitsPerOne

def isPositive : Single → Bool
  | .nan => false
  | .infinite negative => !negative
  | .finite negative units _ => !negative && units != 0

def isZero : Single → Bool
  | .finite _ units _ => units == 0
  | _ => false

/-- Comparison as numbers: the two zeros are equal and a NaN equals nothing. -/
def sameNumber : Single → Single → Bool
  | .infinite a, .infinite b => a == b
  | .finite a m _, .finite b n _ => signedUnits a m == signedUnits b n
  | _, _ => false

end ScriptBridge.Number.Single
