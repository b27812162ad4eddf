/-! Rounding of a quotient of natural numbers to the nearest one, a half going to the even neighbour. -/
namespace ScriptBridge.Number

/-- The natural number nearest to `num / den`. A quotient halfway between two neighbours goes to the even
one, so no sequence of roundings drifts to one side. -/
def roundQuotient (num den : Nat) : Nat :=
  if 2 * (num % den) < den then num / den
  else if den < 2 * (num % den) then num / den + 1
  else num / den + num / den % 2

/-- Rounding moves a quotient up by less than one. -/
theorem roundQuotient_le (num den : Nat) : roundQuotient num den ≤ num / den + 1 := by
  unfold roundQuotient
  split
  · omega
  · split <;> omega

end ScriptBridge.Number
