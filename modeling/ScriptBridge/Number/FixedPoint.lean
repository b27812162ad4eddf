import ScriptBridge.Number.Arithmetic
import ScriptBridge.Number.Digits

/-! Binary32 numbers written with a fixed number of decimal places. -/
namespace ScriptBridge.Number.Single

def pointed (places n : Nat) : List Char :=
  Nat.toDigits 10 (n / Nat.pow 10 places) ++ '.' :: lastDigits places n

/-- The exact value rounded to `places` decimals, ties to even. The sign of a zero is written. -/
def fixedText (places : Nat) : Single → List Char
  | .nan => "NaN".toList
  | .infinite false => "inf".toList
  | .infinite true => "-inf".toList
  | .finite negative units _ =>
    let digits := pointed places (roundQuotient (units * Nat.pow 10 places) unitsPerOne)
    if negative then '-' :: digits else digits

end ScriptBridge.Number.Single
