import ScriptBridge.Proofs.ArgumentKinds
import ScriptBridge.Proofs.IntegerGrammar
import ScriptBridge.Proofs.NumericFront

/-! Integers and object ids that pass through text. Whichever way the decimal text of an integer is read, it stands for
that integer, so nothing is lost between 32 bits and the digits. -/
namespace ScriptBridge.Number
open Single (Digits IsSign IsNumeral)

def decimalSign : Bool → List Char
  | true => ['-']
  | false => []

def decimalText (z : Int) : List Char := decimalSign (z < 0) ++ Nat.toDigits 10 z.natAbs

theorem digits_toDigits (n : Nat) : Digits (Nat.toDigits 10 n) := fun _ hc =>
  Nat.isDigit_of_mem_toDigits (by decide) (by decide) hc

theorem decimalValue_toDigits (n : Nat) : decimalValue (Nat.toDigits 10 n) = n := Nat.ofDigitChars_ten_toDigits

section Integer

def digitValues (ds : List Char) : List Nat := ds.map fun c => c.toNat - '0'.toNat

theorem isDigit_of_decimal {c : Char} (h : c.isDigit = true) : IsDigit 10 c (c.toNat - '0'.toNat) := by
  obtain ⟨hlow, hhigh⟩ : 48 ≤ c.toNat ∧ c.toNat ≤ 57 := Char.isDigit_iff_toNat.mp h
  have hrange : '0' ≤ c ∧ c ≤ '9' := ⟨hlow, hhigh⟩
  have hbound : c.toNat - '0'.toNat < 10 := by
    change c.toNat - 48 < 10
    omega
  apply (digitValue?_eq_some_iff (by decide) c _).mp
  rw [digitValue?, if_pos hrange, Option.filter_some, if_pos (decide_eq_true hbound)]

private theorem run_of_digits {ds : List Char} (hd : Digits ds) : Run 10 [] (digitValues ds) ds where
  digits := by
    induction ds with
    | nil => exact .nil
    | cons c ds ih =>
      obtain ⟨hc, hds⟩ := List.forall_mem_cons.mp hd
      exact .cons (isDigit_of_decimal hc) (ih hds)
  whole c hc := nomatch hc

/-- Every mark has a letter. -/
theorem not_mark_of_digits {ds : List Char} (hd : Digits ds) : ∀ m ∈ marks, ¬ m.1 <+: ds := by
  intro m hm hp
  have second {a b : Char} (hab : [a, b] <+: ds) : b.isDigit = true :=
    hd b (hab.subset (List.mem_cons_of_mem a List.mem_cons_self))
  simp only [marks, List.mem_cons, List.not_mem_nil, or_false] at hm
  rcases hm with rfl | rfl | rfl | rfl <;> exact absurd (second hp) (by decide)

private theorem sign_decimalSign {ds : List Char} (hd : Digits ds) (negative : Bool) :
    Sign ds negative (decimalSign negative) := by
  cases negative with
  | true => exact .minus
  | false =>
    apply Sign.none
    rintro ⟨t, rfl⟩
    exact (hd.bare '-' rfl).1 rfl

/-- The numeral that makes up the decimal text of an integer. -/
theorem leads_decimalText (z : Int) :
    Numeral.Leads ⟨z < 0, 10, digitValues (Nat.toDigits 10 z.natAbs)⟩ (decimalText z) [] := by
  have hd := digits_toDigits z.natAbs
  refine ⟨_, [], Nat.toDigits 10 z.natAbs, ?_, sign_decimalSign ?_ _, .none ?_, run_of_digits hd⟩
  · rw [List.nil_append, List.append_nil, decimalText]
  · rwa [List.nil_append, List.append_nil]
  · rw [List.append_nil]
    exact not_mark_of_digits hd

private theorem magnitude_digitValues (negative : Bool) (ds : List Char) :
    Numeral.magnitude ⟨negative, 10, digitValues ds⟩ = decimalValue ds := by
  rw [Numeral.magnitude, Nat.ofDigits_eq_foldr, List.foldr_reverse, digitValues, List.foldl_map, decimalValue]
  simp only [Nat.add_comm, Nat.cast_id]

/-- Decimal text is read as the integer that it writes, reduced to 32 bits. -/
theorem lenientInt_decimalText {text : String} {z : Int} (h : text.toList = decimalText z) :
    lenientInt text = .ofInt z := by
  have hwhole := (Numeral.ofText_eq_iff text.toList _).mpr ⟨[], h ▸ leads_decimalText z⟩
  rw [lenientInt, hwhole, Numeral.value_eq, Numeral.integer, magnitude_digitValues, decimalValue_toDigits]
  by_cases hz : z < 0
  · rw [if_pos (decide_eq_true hz), Int.ofNat_natAbs_of_nonpos hz.le, Int.neg_neg]
  · rw [if_neg (mt of_decide_eq_true hz), Int.natAbs_of_nonneg (Int.not_lt.mp hz)]

end Integer

section Float

theorem isSign_decimalSign (negative : Bool) : IsSign negative (decimalSign negative) := by
  cases negative with
  | true => exact .minus
  | false => exact .none

private theorem isNumeral_decimalText (z : Int) : IsNumeral (decimalText z) := by
  refine ⟨_, _, Nat.toDigits 10 z.natAbs, [], ?_, isSign_decimalSign (z < 0), ?_, .none⟩
  · rw [List.append_nil, decimalText]
  · exact .whole (digits_toDigits _) Nat.toDigits_ne_nil

/-- Without a power of ten there is nothing to scale, and both roundings are the same one. -/
theorem ofDecimal_natAbs (z : Int) : Single.ofDecimal (z < 0) z.natAbs 0 = .ofInt z := by
  by_cases hz : z = 0
  · rw [hz]
    rfl
  · change (if z.natAbs = 0 then _ else _) = _
    rw [if_neg (mt Int.natAbs_eq_zero.mp hz), if_neg (by decide), Nat.pow_eq, Nat.pow_zero, Nat.mul_one]
    rfl

private theorem read?_decimalText (z : Int) : Single.read? (decimalText z) = some (.ofInt z) := by
  have hread := Single.read?_append (isSign_decimalSign (z < 0)) (digits_toDigits z.natAbs) .none
    (fun h => Nat.toDigits_ne_nil h.1) .none
  rw [List.append_nil, List.append_nil, decimalValue_toDigits] at hread
  rw [decimalText, hread, ← ofDecimal_natAbs]
  rfl

theorem not_isBlank_of_printed {c : Char} (hlow : 0x20 < c.toNat) (hhigh : c.toNat < 0x7F) :
    ¬ Text.isBlank c = true := by
  simp only [Text.isBlank, Bool.or_eq_true, Bool.and_eq_true, decide_eq_true_eq, beq_iff_eq]
  omega

theorem not_isBlank_of_isDigit {c : Char} (h : c.isDigit = true) : ¬ Text.isBlank c = true := by
  obtain ⟨hlow, hhigh⟩ : 48 ≤ c.toNat ∧ c.toNat ≤ 57 := Char.isDigit_iff_toNat.mp h
  exact not_isBlank_of_printed (by omega) (by omega)

/-- A text that is a number is all read. -/
theorem lenientFloat_of_isNumeral {text : String} {x : Single} (h : IsNumeral text.toList)
    (hread : Single.read? text.toList = some x) : Conversion.lenientFloat text = x := by
  have hblank : text.toList.dropWhile Text.isBlank = text.toList := by
    obtain ⟨c, cs, hcs⟩ := List.exists_cons_of_ne_nil h.ne_nil
    have hc : ¬ Text.isBlank c = true :=
      h.forall_mem (fun _ => not_isBlank_of_isDigit) (by decide) c (hcs ▸ List.mem_cons_self)
    rw [hcs, List.dropWhile_cons_of_neg hc]
  rw [Conversion.lenientFloat, hblank, Single.numericFront_of_isNumeral h]
  split
  · exact absurd ‹_› h.ne_nil
  · rw [hread, Option.getD_some]

/-- A float that is read off the decimal text of an integer is the one nearest to it. -/
theorem lenientFloat_decimalText {text : String} {z : Int} (h : text.toList = decimalText z) :
    Conversion.lenientFloat text = .ofInt z :=
  lenientFloat_of_isNumeral (h ▸ isNumeral_decimalText z) (h ▸ read?_decimalText z)

end Float

end ScriptBridge.Number

namespace ScriptBridge
open Number

private theorem toList_intText (i : Int32) : (intText i).toList = decimalText i.toInt := by
  have hlt : i < 0 ↔ i.toInt < 0 := Int32.lt_iff_toInt_lt
  rw [intText, decimalText, Nat.toString_eq_repr]
  by_cases h : i < 0
  · rw [if_pos h, decide_eq_true (hlt.mp h), String.toList_append, Nat.toList_repr]
    rfl
  · rw [if_neg h, decide_eq_false (mt hlt.mpr h), Nat.toList_repr]
    rfl

private theorem toList_idText (id : ObjectId) : id.text.toList = decimalText id.number.toNat := by
  have hnonneg : ¬ (id.number.toNat : Int) < 0 := by omega
  rw [ObjectId.text, decimalText, decide_eq_false hnonneg, Nat.toString_eq_repr, Nat.toList_repr, Int.natAbs_natCast]
  rfl

namespace Conversion

private theorem lenientInt_intText (i : Int32) : lenientInt (intText i) = i := by
  rw [lenientInt_decimalText (toList_intText i), Int32.ofInt_toInt]

private theorem lenientInt_idText (id : ObjectId) : lenientInt id.text = id.number.toInt32 := by
  rw [lenientInt_decimalText (toList_idText id), Int32.ofInt_eq_ofNat, ← UInt32.toInt32_ofNat', UInt32.ofNat_toNat]

/-- What is false as a text is zero as an integer. -/
theorem lenientInt_of_not_textTruth {text : String} (h : textTruth text = false) : lenientInt text = 0 := by
  rw [textTruth, Bool.not_eq_eq_eq_not, Bool.not_false, List.contains_iff_mem] at h
  exact (by decide : ∀ t ∈ ["", "false", "0", "0.0", "0.0f"], lenientInt t = 0) text h

private theorem textTruth_intText (i : Int32) : textTruth (intText i) = (i != 0) := by
  by_cases hi : i = 0
  · rw [hi]
    rfl
  · rw [bne_iff_ne.mpr hi]
    by_contra h
    have hzero := lenientInt_of_not_textTruth (Bool.eq_false_iff.mpr h)
    rw [lenientInt_intText] at hzero
    exact hi hzero

def throughText? (live : ObjectId → Bool) (v : SlotValue) (k : Kind) : Option SlotValue :=
  (convert? live v .string).bind fun written => convert? live written k

/-- What comes back is what the text of the value reads as. -/
theorem throughText?_eq (live : ObjectId → Bool) {v : SlotValue} (hv : v ≠ .void) (k : Kind) :
    throughText? live v k = ofText? v.text k := by
  rw [← convert?_string live]
  cases v with
  | void => exact absurd rfl hv
  | _ => rfl

structure IntKept (live : ObjectId → Bool) (i : Int32) : Prop where
  int : throughText? live (.int i) .int = some (.int i)
  float : ∃ x, throughText? live (.int i) .float = some (.float x) ∧ convert? live (.int i) .float = some (.float x)
  bool : ∃ b, throughText? live (.int i) .bool = some (.bool b) ∧ convert? live (.int i) .bool = some (.bool b)

/-- An object id kept as a text is still the same id and the same integer. From that integer the id comes back as long
as it names an object. -/
structure ObjectKept (live : ObjectId → Bool) (id : ObjectId) : Prop where
  object : throughText? live (.object id) .object = some (.object id)
  int : ∃ i, throughText? live (.object id) .int = some (.int i) ∧ convert? live (.object id) .int = some (.int i) ∧
    convert? live (.int i) .object = some (.object (if live id then id else .none))

private theorem int_kept (live : ObjectId → Bool) (i : Int32) : IntKept live i := by
  have hread := throughText?_eq live (v := .int i) SlotValue.noConfusion
  constructor
  · rw [hread, SlotValue.text, ofText?, lenientInt_intText]
  · refine ⟨.ofInt i.toInt, ?_, rfl⟩
    rw [hread, SlotValue.text, ofText?, lenientFloat_decimalText (toList_intText i)]
  · refine ⟨i != 0, ?_, rfl⟩
    rw [hread, SlotValue.text, ofText?, textTruth_intText]

private theorem object_kept (live : ObjectId → Bool) (id : ObjectId) : ObjectKept live id := by
  have hread := throughText?_eq live (v := .object id) SlotValue.noConfusion
  constructor
  · rw [hread, SlotValue.text, ofText?, lenientInt_idText, UInt32.toUInt32_toInt32]
  · refine ⟨id.number.toInt32, ?_, rfl, ?_⟩
    · rw [hread, SlotValue.text, ofText?, lenientInt_idText]
    · change some (SlotValue.object (if live ⟨_⟩ then ⟨_⟩ else .none)) = _
      rw [UInt32.toUInt32_toInt32]

/-- Text keeps every integer and every object id, whatever objects there are. -/
theorem text_keeps_numbers (live : ObjectId → Bool) : (∀ i, IntKept live i) ∧ ∀ id, ObjectKept live id :=
  ⟨int_kept live, object_kept live⟩

end Conversion
end ScriptBridge
