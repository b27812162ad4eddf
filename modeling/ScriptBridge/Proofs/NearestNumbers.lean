import Mathlib.Data.Nat.Dist
import ScriptBridge.Number.Single

/-! Roundings take the nearest number: a rounded quotient is nearer to it than any other natural number, and a binary32
number that is formed of a quotient is at least as near as any other count of units with so few significant bits. -/
namespace ScriptBridge.Number

/-- A natural number is the nearest one to `num / den`, or the even one of two that are equally near. -/
structure IsRounded (num den n : Nat) : Prop where
  near : 2 * Nat.dist (n * den) num ≤ den
  even : 2 * Nat.dist (n * den) num = den → n % 2 = 0

section Quotients
variable {num den : Nat}

theorem isRounded_roundQuotient (num : Nat) (hd : 0 < den) : IsRounded num den (roundQuotient num den) := by
  have hr := Nat.mod_lt num hd
  have hq : num / den * den + num % den = num := by rw [Nat.mul_comm, Nat.div_add_mod]
  have hdown : Nat.dist (num / den * den) num = num % den := by
    rw [Nat.dist]
    omega
  have hup : Nat.dist ((num / den + 1) * den) num = den - num % den := by
    rw [Nat.dist, Nat.add_one_mul]
    omega
  unfold roundQuotient
  split
  · constructor <;> rw [hdown] <;> omega
  · split
    · constructor <;> rw [hup] <;> omega
    · -- A tie: of the two neighbours the even one is taken.
      rcases Nat.mod_two_eq_zero_or_one (num / den) with heven | hodd
      · rw [heven]
        constructor <;> rw [Nat.add_zero, hdown] <;> omega
      · rw [hodd]
        constructor <;> rw [hup] <;> omega

/-- Two numbers are as far apart as the numerators at which they are met. -/
private theorem mul_den_le (a b : Nat) (num den : Nat) :
    Nat.dist a b * den ≤ Nat.dist (a * den) num + Nat.dist (b * den) num := by
  rw [← Nat.dist_mul_right, Nat.dist_comm (b * den)]
  exact Nat.dist.triangle_inequality _ _ _

theorem IsRounded.unique {a b : Nat} (hd : 0 < den) (ha : IsRounded num den a) (hb : IsRounded num den b) : a = b := by
  have hab := mul_den_le a b num den
  have hnear := ha.near
  have hnear' := hb.near
  rcases Nat.lt_or_ge (Nat.dist a b) 2 with hlt | hge
  · by_contra hne
    have hone : Nat.dist a b = 1 := by
      rw [Nat.dist] at hlt ⊢
      omega
    rw [hone, Nat.one_mul] at hab
    have heven := ha.even (by omega)
    have heven' := hb.even (by omega)
    rw [Nat.dist] at hone
    omega
  · have := Nat.mul_le_mul_right den hge
    omega

theorem roundQuotient_eq_iff {n : Nat} (hd : 0 < den) : roundQuotient num den = n ↔ IsRounded num den n :=
  ⟨fun h => h ▸ isRounded_roundQuotient num hd, (isRounded_roundQuotient num hd).unique hd⟩

/-- No natural number is nearer to a quotient than the rounded one. -/
theorem IsRounded.dist_le {n : Nat} (h : IsRounded num den n) (m : Nat) :
    Nat.dist (n * den) num ≤ Nat.dist (m * den) num := by
  by_cases hm : m = n
  · rw [hm]
  · have hnm := mul_den_le n m num den
    have hpos : 1 ≤ Nat.dist n m := Nat.dist_pos_of_ne (Ne.symm hm)
    have := Nat.mul_le_mul_right den hpos
    have hnear := h.near
    omega

/-- What is at least as near to a whole number as something that is rounded to it is rounded to it as well. -/
theorem IsRounded.of_dist_le {num' n : Nat} (h : IsRounded num den n)
    (hle : Nat.dist (n * den) num' ≤ Nat.dist (n * den) num) :
    IsRounded num' den n := by
  have hnear := h.near
  exact ⟨by omega, fun htie => h.even (by omega)⟩

end Quotients

def FewBits (n : Nat) : Prop := Nat.pow 2 (n.log2 - 23) ∣ n

/-- Of the counts of units with at most 24 significant bits none is nearer to a quotient than the one that is taken. -/
theorem gridQuotient_dist_le {num den : Nat} (hd : 0 < den) {u : Nat} (hu : FewBits u) :
    Nat.dist (gridQuotient num den * den) num ≤ Nat.dist (u * den) num := by
  unfold gridQuotient
  unfold FewBits at hu
  simp only [Nat.pow_eq] at hu ⊢
  generalize hk : (num / den).log2 - 23 = k
  have hpos : 0 < den * 2 ^ k := Nat.mul_pos hd (Nat.two_pow_pos k)
  have multiple (m : Nat) :
      Nat.dist (roundQuotient num (den * 2 ^ k) * 2 ^ k * den) num ≤ Nat.dist (m * 2 ^ k * den) num := by
    have regroup (r : Nat) : r * (den * 2 ^ k) = r * 2 ^ k * den := by rw [Nat.mul_comm den, Nat.mul_assoc]
    rw [← regroup, ← regroup]
    exact (isRounded_roundQuotient num hpos).dist_le m
  by_cases hlog : k ≤ u.log2 - 23
  · obtain ⟨m, rfl⟩ := (Nat.pow_dvd_pow 2 hlog).trans hu
    rw [Nat.mul_comm (2 ^ k) m]
    exact multiple m
  · -- The power of two with the highest bit of the quotient lies between the two.
    have hbelow : u ≤ 2 ^ (23 + k) :=
      Nat.le_of_lt (Nat.lt_log2_self.trans_le (Nat.pow_le_pow_right (by decide) (by omega)))
    have habove : 2 ^ (23 + k) ≤ num / den := by
      have hne : num / den ≠ 0 := by
        intro h
        rw [h, Nat.log2_zero] at hk
        omega
      have hexp : 23 + k = (num / den).log2 := by omega
      exact hexp ▸ Nat.log2_self_le hne
    have hnum : 2 ^ (23 + k) * den ≤ num := (Nat.mul_le_mul_right den habove).trans (Nat.div_mul_le_self num den)
    have hfar := Nat.mul_le_mul_right den hbelow
    calc
      _ ≤ Nat.dist (2 ^ 23 * 2 ^ k * den) num := multiple (2 ^ 23)
      _ = Nat.dist (2 ^ (23 + k) * den) num := by rw [Nat.pow_add]
      _ ≤ Nat.dist (u * den) num := by
        rw [Nat.dist, Nat.dist]
        omega

/-- Below 24 significant bits of a size there is a gap of a whole step of that size. -/
private theorem FewBits.add_step_le {n e : Nat} (h : FewBits n) (hlt : n < 2 ^ 24 * 2 ^ e) :
    n + 2 ^ e ≤ 2 ^ 24 * 2 ^ e := by
  by_cases hlog : 23 + e ≤ n.log2
  · obtain ⟨m, rfl⟩ := (Nat.pow_dvd_pow 2 (by omega : e ≤ n.log2 - 23)).trans h
    rw [Nat.mul_comm (2 ^ e) m] at hlt ⊢
    rw [← Nat.add_one_mul]
    exact Nat.mul_le_mul_right _ (Nat.lt_of_mul_lt_mul_right hlt)
  · have hsmall : n < 2 ^ (23 + e) :=
      Nat.lt_log2_self.trans_le (Nat.pow_le_pow_right (by decide) (by omega))
    rw [Nat.pow_add] at hsmall
    omega

/-- The largest finite number lies a whole unit of its last place below the bound. -/
theorem OnGrid.add_step_le {n : Nat} (h : OnGrid n) : n + 2 ^ 104 * unitsPerOne ≤ unitBound := by
  have hstep : 2 ^ 104 * unitsPerOne = 2 ^ 253 := (Nat.pow_add 2 104 149).symm
  have hbound : unitBound = 2 ^ 24 * 2 ^ 253 := by
    rw [← hstep, ← Nat.mul_assoc]
    rfl
  have hlt := h.1
  rw [hbound] at hlt ⊢
  rw [hstep]
  exact FewBits.add_step_le h.2 hlt

end ScriptBridge.Number
