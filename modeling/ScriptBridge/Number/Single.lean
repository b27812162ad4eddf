import ScriptBridge.Number.Rounding

/-! The numbers of IEEE 754 binary32 as exact magnitudes, and their interchange bits.
Every finite one is a whole number of units of `2 ^ -149`, so arithmetic on them is arithmetic on `Nat`. -/
namespace ScriptBridge.Number

def unitsPerOne : Nat := Nat.pow 2 149

def unitBound : Nat := Nat.pow 2 128 * unitsPerOne

/-- A count of units that binary32 can hold: at most 24 significant bits, below the bound. -/
def OnGrid (n : Nat) : Prop := n < unitBound ∧ Nat.pow 2 (n.log2 - 23) ∣ n

instance (n : Nat) : Decidable (OnGrid n) := inferInstanceAs (Decidable (_ ∧ _))

/-- A binary32 number. Zero keeps its sign; the sign and payload of a NaN are not kept. -/
inductive Single where
  | nan
  | infinite (negative : Bool)
  | finite (negative : Bool) (units : Nat) (onGrid : OnGrid units)
deriving DecidableEq

/-- The count of units nearest to `num / den` that has at most 24 significant bits, ties to even.
It may lie above the largest finite number. -/
def gridQuotient (num den : Nat) : Nat :=
  let step := Nat.pow 2 ((num / den).log2 - 23)
  roundQuotient num (den * step) * step

/-- A rounded quotient needs at most 24 significant bits: a carry out of them leaves a power of two. -/
theorem dvd_gridQuotient (num den : Nat) :
    Nat.pow 2 ((gridQuotient num den).log2 - 23) ∣ gridQuotient num den := by
  simp only [gridQuotient, Nat.pow_eq]
  generalize hk : (num / den).log2 - 23 = k
  generalize hr : roundQuotient num (den * 2 ^ k) = r
  have hq : num / den < 2 ^ (24 + k) :=
    Nat.lt_of_lt_of_le Nat.lt_log2_self (Nat.pow_le_pow_right (by decide) (by omega))
  have hle : r ≤ 2 ^ 24 := by
    have h := roundQuotient_le num (den * 2 ^ k)
    rw [hr, ← Nat.div_div_eq_div_mul] at h
    have : num / den / 2 ^ k < 2 ^ 24 := by
      rw [Nat.div_lt_iff_lt_mul (Nat.two_pow_pos k), ← Nat.pow_add]
      exact hq
    omega
  by_cases hlog : (r * 2 ^ k).log2 ≤ 23 + k
  · exact Nat.dvd_mul_left_of_dvd (Nat.pow_dvd_pow 2 (by omega)) r
  · have hpos : r * 2 ^ k ≠ 0 := by
      intro h
      rw [h, Nat.log2_zero] at hlog
      omega
    have hlow : 2 ^ (24 + k) ≤ r * 2 ^ k :=
      Nat.le_trans (Nat.pow_le_pow_right (by decide) (by omega)) (Nat.log2_self_le hpos)
    rw [Nat.pow_add] at hlow
    have heq : r = 2 ^ 24 :=
      Nat.le_antisymm hle (Nat.le_of_mul_le_mul_right hlow (Nat.two_pow_pos k))
    rw [heq, ← Nat.pow_add, Nat.log2_two_pow]
    exact Nat.pow_dvd_pow 2 (by omega)

namespace Single

/-- The number nearest to `num / den` units, ties to even; infinite from halfway above the largest finite
number on. -/
def ofQuotient (negative : Bool) (num den : Nat) : Single :=
  if h : gridQuotient num den < unitBound then
    .finite negative (gridQuotient num den) ⟨h, dvd_gridQuotient num den⟩
  else .infinite negative

def zero (negative : Bool) : Single := .finite negative 0 (by decide)

def ofBits (bits : UInt32) : Single :=
  let negative := bits.toNat / Nat.pow 2 31 == 1
  let exponent := bits.toNat / Nat.pow 2 23 % Nat.pow 2 8
  let fraction := bits.toNat % Nat.pow 2 23
  if exponent = 255 then
    if fraction = 0 then .infinite negative else .nan
  else if exponent = 0 then ofQuotient negative fraction 1
  else ofQuotient negative ((Nat.pow 2 23 + fraction) * Nat.pow 2 (exponent - 1)) 1

def magnitudeBits (units : Nat) : Nat :=
  if units < Nat.pow 2 23 then units
  else (units.log2 - 22) * Nat.pow 2 23 + (units / Nat.pow 2 (units.log2 - 23) - Nat.pow 2 23)

def toBits? : Single → Option UInt32
  | .nan => none
  | .infinite negative => some (.ofNat (negative.toNat * Nat.pow 2 31 + 255 * Nat.pow 2 23))
  | .finite negative units _ => some (.ofNat (negative.toNat * Nat.pow 2 31 + magnitudeBits units))

end Single

end ScriptBridge.Number
