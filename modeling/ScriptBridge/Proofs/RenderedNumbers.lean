import ScriptBridge.Proofs.NearestNumbers
import ScriptBridge.Proofs.VectorText

/-! Rendered floats and vectors are stable. Four decimals do not keep a float, but what is read back from them lies no
farther from the decimals than the float did, so it is rounded to the same decimals again. -/
namespace ScriptBridge.Number
open Single (Digits IsNumeral IsSign ofQuotient ofDecimal fixedText pointed read?)

section Decimals

private theorem length_lastDigits (places n : Nat) : (lastDigits places n).length = places := by
  induction places generalizing n with
  | zero => rfl
  | succ places ih => rw [lastDigits, List.length_append, ih, List.length_singleton]

private theorem digits_lastDigits (places n : Nat) : Digits (lastDigits places n) := by
  induction places generalizing n with
  | zero => exact List.forall_mem_nil _
  | succ places ih =>
    have hlt : n % 10 < 10 := Nat.mod_lt n (by decide)
    refine List.forall_mem_append.mpr ⟨ih (n / 10), List.forall_mem_singleton.mpr ?_⟩
    rw [Nat.isDigit_digitChar, decide_eq_true hlt]

private theorem decimalValue_concat (ds : List Char) (c : Char) :
    decimalValue (ds ++ [c]) = 10 * decimalValue ds + (c.toNat - '0'.toNat) := by
  rw [decimalValue, List.foldl_append]
  rfl

/-- The digits before and behind the point write the whole number. -/
theorem decimalValue_append_lastDigits (places n : Nat) :
    decimalValue (Nat.toDigits 10 (n / Nat.pow 10 places) ++ lastDigits places n) = n := by
  induction places generalizing n with
  | zero => rw [lastDigits, List.append_nil, Nat.pow_eq, Nat.pow_zero, Nat.div_one, decimalValue_toDigits]
  | succ places ih =>
    have hdigit : (Nat.digitChar (n % 10)).toNat - '0'.toNat = n % 10 :=
      Nat.toNat_digitChar_sub_48_of_lt_ten (Nat.mod_lt n (by decide))
    have hdiv : n / Nat.pow 10 (places + 1) = n / 10 / Nat.pow 10 places := by
      rw [Nat.pow_eq, Nat.pow_eq, Nat.pow_succ', Nat.div_div_eq_div_mul]
    rw [lastDigits, hdiv, ← List.append_assoc, decimalValue_concat, ih, hdigit]
    exact Nat.div_add_mod n 10

end Decimals

namespace Single

def signedPointed (negative : Bool) (places n : Nat) : List Char := decimalSign negative ++ pointed places n

private theorem fixedText_finite (places : Nat) (negative : Bool) (units : Nat) (h : OnGrid units) :
    fixedText places (.finite negative units h) =
      signedPointed negative places (roundQuotient (units * Nat.pow 10 places) unitsPerOne) := by
  cases negative <;> rfl

private theorem isNumeral_signedPointed (negative : Bool) (places n : Nat) :
    IsNumeral (signedPointed negative places n) := by
  refine ⟨negative, decimalSign negative, pointed places n, [], ?_, isSign_decimalSign negative, ?_, .none⟩
  · rw [List.append_nil, signedPointed]
  · exact .pointed (digits_toDigits _) Nat.toDigits_ne_nil (digits_lastDigits places n)

/-- What is written in some places is read as the binary32 number nearest to it. -/
theorem read?_signedPointed (negative : Bool) {places : Nat} (hpos : 0 < places) (hfew : places ≤ 60) (n : Nat) :
    read? (signedPointed negative places n) = some (ofQuotient negative (n * unitsPerOne) (Nat.pow 10 places)) := by
  obtain ⟨p, rfl⟩ := Nat.exists_eq_add_one_of_ne_zero (Nat.ne_of_gt hpos)
  have hread := read?_append (isSign_decimalSign negative) (digits_toDigits (n / Nat.pow 10 (p + 1)))
    (.point (digits_lastDigits (p + 1) n)) (fun h => Nat.toDigits_ne_nil h.1) .none
  rw [List.append_nil, decimalValue_append_lastDigits, length_lastDigits] at hread
  have hexponent : (0 : Int) - ((p + 1 : Nat) : Int) = .negSucc p := by omega
  have hsize : ¬ n.log2 + 60 < p := by omega
  have hvalue : ofDecimal negative n (.negSucc p) =
      ofQuotient negative (n * unitsPerOne) (Nat.pow 10 (p + 1)) := if_neg hsize
  rw [signedPointed, pointed, hread, readExponent?, Option.map_some, hexponent, hvalue]

/-- The quotient read back is finite, and it has the same decimals as the number that was written. -/
theorem rounded_again (places : Nat) {units : Nat} (h : OnGrid units) :
    let n := roundQuotient (units * Nat.pow 10 places) unitsPerOne
    let again := gridQuotient (n * unitsPerOne) (Nat.pow 10 places)
    again < unitBound ∧ roundQuotient (again * Nat.pow 10 places) unitsPerOne = n := by
  intro n again
  have hunit : 0 < unitsPerOne := Nat.two_pow_pos 149
  have hscale : 0 < Nat.pow 10 places := Nat.pow_pos (by decide)
  have hround : IsRounded (units * Nat.pow 10 places) unitsPerOne n := isRounded_roundQuotient _ hunit
  -- The number written is among those that the one read back is nearest of.
  have hnear : Nat.dist (n * unitsPerOne) (again * Nat.pow 10 places) ≤
      Nat.dist (n * unitsPerOne) (units * Nat.pow 10 places) := by
    rw [Nat.dist_comm, Nat.dist_comm (n * unitsPerOne)]
    exact gridQuotient_dist_le hscale h.2
  refine ⟨?_, (roundQuotient_eq_iff hunit).mpr (hround.of_dist_le hnear)⟩
  have hgap := h.add_step_le
  have hstep : unitsPerOne < 2 ^ 104 * unitsPerOne := by omega
  have hclose : again * Nat.pow 10 places ≤ units * Nat.pow 10 places + unitsPerOne := by
    have hhalf := hround.near
    simp only [Nat.dist] at hnear hhalf
    omega
  by_contra hover
  have hfar : (units + unitsPerOne) * Nat.pow 10 places < again * Nat.pow 10 places :=
    Nat.mul_lt_mul_of_pos_right (by omega) hscale
  rw [Nat.add_mul] at hfar
  have hone : unitsPerOne ≤ unitsPerOne * Nat.pow 10 places := Nat.le_mul_of_pos_right _ hscale
  omega

private theorem exists_ofQuotient_eq (negative : Bool) {num den : Nat} (h : gridQuotient num den < unitBound) :
    ∃ grid, ofQuotient negative num den = .finite negative (gridQuotient num den) grid :=
  ⟨⟨h, dvd_gridQuotient num den⟩, dif_pos h⟩

private theorem read?_fixedText_finite (negative : Bool) {places : Nat} (hpos : 0 < places) (hfew : places ≤ 60)
    {units : Nat} (h : OnGrid units) :
    ∃ y, read? (fixedText places (.finite negative units h)) = some y ∧
      fixedText places y = fixedText places (.finite negative units h) := by
  obtain ⟨hbound, hsame⟩ := rounded_again places h
  obtain ⟨grid, hfinite⟩ := exists_ofQuotient_eq negative hbound
  rw [fixedText_finite, read?_signedPointed negative hpos hfew, hfinite]
  exact ⟨_, rfl, by rw [fixedText_finite, hsame]⟩

/-- Every number, and none too, is read from the text in which it is written, as one that is written the same. -/
theorem exists_read?_fixedText {places : Nat} (hpos : 0 < places) (hfew : places ≤ 60) (x : Single) :
    ∃ y, read? (fixedText places x) = some y ∧ fixedText places y = fixedText places x := by
  cases x with
  | nan => exact ⟨.nan, (by decide : read? "NaN".toList = some .nan), rfl⟩
  | infinite negative =>
    refine ⟨.infinite negative, ?_, rfl⟩
    cases negative with
    | false => exact (by decide : read? "inf".toList = some (.infinite false))
    | true => exact (by decide : read? "-inf".toList = some (.infinite true))
  | finite negative units h => exact read?_fixedText_finite negative hpos hfew h

end Single
end ScriptBridge.Number

namespace ScriptBridge
open Number Number.Single

private theorem toList_floatText (x : Single) : (floatText x).toList = x.fixedText 4 := String.toList_ofList

private theorem toList_vectorText (v : Vector3) :
    v.text.toList = v.x.fixedText 4 ++ ([' '] ++ (v.y.fixedText 4 ++ ([' '] ++ (v.z.fixedText 4 ++ [])))) := by
  rw [Vector3.text]
  simp only [String.toList_append, toList_floatText, List.append_assoc, List.append_nil]
  rfl

namespace Conversion

/-- A finite float is read from its text as one with the same text. -/
theorem floatText_lenientFloat (negative : Bool) {units : Nat} (h : OnGrid units) :
    floatText (lenientFloat (floatText (.finite negative units h))) = floatText (.finite negative units h) := by
  obtain ⟨y, hread, hsame⟩ := read?_fixedText_finite negative (by decide : 0 < 4) (by decide) h
  have hnumeral : IsNumeral (floatText (.finite negative units h)).toList := by
    rw [toList_floatText, fixedText_finite]
    exact isNumeral_signedPointed negative 4 _
  rw [lenientFloat_of_isNumeral hnumeral ((congrArg read? (toList_floatText _)).trans hread)]
  exact congrArg String.ofList hsame

/-- Every vector is read from its text, as one with the same text. -/
theorem exists_readVector?_text (v : Vector3) : ∃ v', readVector? v.text = some v' ∧ v'.text = v.text := by
  have component (x : Single) := exists_read?_fixedText (by decide : 0 < 4) (by decide) x
  obtain ⟨x, hx, sameX⟩ := component v.x
  obtain ⟨y, hy, sameY⟩ := component v.y
  obtain ⟨z, hz, sameZ⟩ := component v.z
  have hgap : IsGap [' '] := List.forall_mem_singleton.mpr (by decide)
  have none : IsGap [] := List.forall_mem_nil _
  have htriple : IsTriple ⟨x, y, z⟩ v.text.toList :=
    ⟨[], _, [' '], _, [' '], _, [], toList_vectorText v, none, ⟨hgap, List.cons_ne_nil _ _⟩,
      ⟨hgap, List.cons_ne_nil _ _⟩, none, hx, hy, hz⟩
  refine ⟨⟨x, y, z⟩, (readVector?_eq_some_iff_or _ _).mpr (.inl (.inr htriple)), ?_⟩
  simp only [Vector3.text, floatText, sameX, sameY, sameZ]

/-- A value is rendered, the text is read back as a value of the same kind, and that is rendered as the same text. -/
def RendersStably (live : ObjectId → Bool) (v : SlotValue) : Prop :=
  ∃ text again, convert? live v .string = some (.string text) ∧
    convert? live (.string text) v.kind = some again ∧ again.kind = v.kind ∧
    convert? live again .string = some (.string text)

/-- The text of a finite float and that of any vector stay the same when they are read back and rendered again. -/
theorem rendered_numbers_stable (live : ObjectId → Bool) :
    (∀ negative units onGrid, RendersStably live (.float (.finite negative units onGrid))) ∧
      ∀ v, RendersStably live (.vector v) := by
  constructor
  · intro negative units onGrid
    refine ⟨_, .float (lenientFloat (floatText (.finite negative units onGrid))), rfl, rfl, rfl, ?_⟩
    exact congrArg (fun t => some (SlotValue.string t)) (floatText_lenientFloat negative onGrid)
  · intro v
    obtain ⟨v', hread, hsame⟩ := exists_readVector?_text v
    refine ⟨_, .vector v', rfl, congrArg (Option.map SlotValue.vector) hread, rfl, ?_⟩
    exact congrArg (fun t => some (SlotValue.string t)) hsame

/-- A third is written with four digits, and what is read back is another number with the same four. -/
theorem rendered_numbers_stable_third :
    floatText (.ofQuotient false unitsPerOne 3) = "0.3333" ∧
      lenientFloat "0.3333" ≠ .ofQuotient false unitsPerOne 3 ∧
      RendersStably (fun _ => false) (.float (.ofQuotient false unitsPerOne 3)) := by
  obtain ⟨grid, third⟩ := exists_ofQuotient_eq false (show gridQuotient unitsPerOne 3 < unitBound by decide +kernel)
  refine ⟨by decide +kernel, by decide +kernel, ?_⟩
  rw [third]
  exact (rendered_numbers_stable fun _ => false).1 false _ grid

example : floatText (lenientFloat (floatText (.ofQuotient true 1 1))) = "-0.0000" := by decide +kernel

end Conversion
end ScriptBridge
