import ScriptBridge.Conversion
import ScriptBridge.Proofs.NumericFront

/-! Floats at the front of texts, by way of bytes. A scan that moves over single bytes of the encoded text comes to
the end of the longest front that is a number, and never stops within a character. -/
namespace ScriptBridge.Number.Single

section Scan

def byteIs (p : Char → Bool) (bytes : List UInt8) (i : Nat) : Bool := bytes[i]?.any fun b => p (Char.ofNat b.toNat)

def isSignMark (c : Char) : Bool := c == '+' || c == '-'

def isPointMark (c : Char) : Bool := c == '.'

def isExponentMark (c : Char) : Bool := c == 'e' || c == 'E'

private theorem lt_length_of_byteIs {p : Char → Bool} {bytes : List UInt8} {i : Nat} (h : byteIs p bytes i = true) :
    i < bytes.length := by
  by_contra hi
  rw [byteIs, List.getElem?_eq_none (Nat.le_of_not_lt hi)] at h
  cases h

def signEnd (bytes : List UInt8) (i : Nat) : Nat := if byteIs isSignMark bytes i then i + 1 else i

def digitsEnd (bytes : List UInt8) (i : Nat) : Nat :=
  if byteIs Char.isDigit bytes i then digitsEnd bytes (i + 1) else i
termination_by bytes.length - i
decreasing_by
  have := lt_length_of_byteIs ‹_›
  omega

def pointEnd (bytes : List UInt8) (i : Nat) : Nat :=
  if byteIs isPointMark bytes i then digitsEnd bytes (i + 1) else i

/-- Where an exponent ends that may stand at an offset. It counts only with a digit. -/
def exponentEnd (bytes : List UInt8) (i : Nat) : Nat :=
  if byteIs isExponentMark bytes i then
    let start := signEnd bytes (i + 1)
    let stop := digitsEnd bytes start
    if start < stop then stop else i
  else i

/-- Where the number at the front of a text ends, if there is one. The point does not count as a digit. -/
def numberEnd? (bytes : List UInt8) : Option Nat :=
  let start := signEnd bytes 0
  let whole := digitsEnd bytes start
  let mantissa := pointEnd bytes whole
  let digits := (whole - start) + (mantissa - whole - 1)
  if digits = 0 then none else some (exponentEnd bytes mantissa)

end Scan

def encoded (cs : List Char) : List UInt8 := cs.flatMap String.utf8EncodeChar

def Ascii (p : Char → Bool) : Prop := ∀ c, p c = true → c.toNat < 128

private theorem ascii_isDigit : Ascii Char.isDigit := by
  intro c hc
  have hle : c.val ≤ '9'.val := (Bool.and_eq_true_iff.mp hc).2 |> of_decide_eq_true
  exact Nat.lt_of_le_of_lt (UInt32.le_iff_toNat_le.mp hle) (by decide)

private theorem ascii_isSignMark : Ascii isSignMark := by
  intro c hc
  rcases Bool.or_eq_true_iff.mp hc with h | h <;> rw [eq_of_beq h] <;> decide

private theorem ascii_isPointMark : Ascii isPointMark := by
  intro c hc
  rw [eq_of_beq hc]
  decide

private theorem ascii_isExponentMark : Ascii isExponentMark := by
  intro c hc
  rcases Bool.or_eq_true_iff.mp hc with h | h <;> rw [eq_of_beq h] <;> decide

private theorem utf8EncodeChar_ascii {c : Char} (h : c.toNat < 128) : String.utf8EncodeChar c = [c.val.toUInt8] := by
  refine String.utf8EncodeChar_eq_singleton (Char.utf8Size_eq_one_iff.mpr ?_)
  exact UInt32.le_iff_toNat_le.mpr (Nat.le_of_lt_succ h)

private theorem le_toNat_or (a : UInt8) {b : UInt8} (hb : 128 ≤ b.toNat) : 128 ≤ (a ||| b).toNat := by
  rw [UInt8.toNat_or]
  exact hb.trans Nat.right_le_or

/-- The first byte of any other character is none of the bytes of ASCII. -/
theorem utf8EncodeChar_high {c : Char} (h : 128 ≤ c.toNat) :
    ∃ b bs, String.utf8EncodeChar c = b :: bs ∧ 128 ≤ b.toNat := by
  rcases Char.utf8Size_eq c with h1 | h2 | h3 | h4
  · have : c.toNat ≤ 127 := UInt32.le_iff_toNat_le.mp (Char.utf8Size_eq_one_iff.mp h1)
    omega
  · exact ⟨_, _, String.utf8EncodeChar_eq_cons_cons h2, le_toNat_or _ (by decide)⟩
  · exact ⟨_, _, String.utf8EncodeChar_eq_cons_cons_cons h3, le_toNat_or _ (by decide)⟩
  · exact ⟨_, _, String.utf8EncodeChar_eq_cons_cons_cons_cons h4, le_toNat_or _ (by decide)⟩

section Encoded
variable {bytes : List UInt8} {i : Nat} {cs : List Char}

/-- A single byte tells as much of a kind of ASCII characters as the character that begins there. -/
theorem byteIs_encoded {p : Char → Bool} (hp : Ascii p) (h : bytes.drop i = encoded cs) :
    byteIs p bytes i = cs.head?.any p := by
  rw [byteIs, ← List.head?_drop, h]
  cases cs with
  | nil => rfl
  | cons c cs =>
    rw [encoded, List.flatMap_cons, List.head?_cons, Option.any_some]
    by_cases hc : c.toNat < 128
    · have hbyte : Char.ofNat c.val.toUInt8.toNat = c := by
        have hsmall : c.val.toNat < 2 ^ 8 := Nat.lt_trans hc (by decide)
        rw [UInt32.toNat_toUInt8, Nat.mod_eq_of_lt hsmall]
        exact Char.ofNat_toNat c
      rw [utf8EncodeChar_ascii hc]
      exact congrArg p hbyte
    · obtain ⟨b, bs, hb, hhigh⟩ := utf8EncodeChar_high (Nat.le_of_not_lt hc)
      have hbyte : p (Char.ofNat b.toNat) = false := by
        have hcode : (Char.ofNat b.toNat).toNat = b.toNat := by
          rw [Char.ofNat, dif_pos (.inl (b.toNat_lt.trans (by decide)))]
          rfl
        refine Bool.eq_false_iff.mpr fun hpb => ?_
        have hlow := hp _ hpb
        omega
      have hchar : p c = false := Bool.eq_false_iff.mpr fun hpc => hc (hp c hpc)
      rw [hb, hchar]
      exact hbyte

private theorem drop_ascii {c : Char} (hc : c.toNat < 128) (h : bytes.drop i = encoded (c :: cs)) :
    bytes.drop (i + 1) = encoded cs := by
  rw [encoded, List.flatMap_cons, utf8EncodeChar_ascii hc] at h
  rw [← List.drop_drop, h]
  rfl

/-- Each part of the scan goes over as many bytes as the part has characters. -/
theorem signEnd_encoded (h : bytes.drop i = encoded cs) :
    signEnd bytes i = i + (signText cs).length ∧ bytes.drop (signEnd bytes i) = encoded (takeSign cs).2 := by
  rw [signEnd, byteIs_encoded ascii_isSignMark h]
  cases cs with
  | nil => exact ⟨rfl, h⟩
  | cons c cs =>
    rw [List.head?_cons, Option.any_some]
    by_cases hc : isSignMark c = true
    · rw [if_pos hc]
      rcases Bool.or_eq_true_iff.mp hc with hc | hc <;> obtain rfl := eq_of_beq hc
      · exact ⟨rfl, drop_ascii (by decide) h⟩
      · exact ⟨rfl, drop_ascii (by decide) h⟩
    · have hbare : Bare (c :: cs) := by
        rintro _ ⟨⟩
        constructor <;> rintro rfl <;> exact hc rfl
      rw [if_neg hc, signText_bare hbare, takeSign_bare hbare]
      exact ⟨rfl, h⟩

private theorem digitsEnd_encoded (h : bytes.drop i = encoded cs) :
    digitsEnd bytes i = i + (cs.takeWhile Char.isDigit).length ∧
      bytes.drop (digitsEnd bytes i) = encoded (cs.dropWhile Char.isDigit) := by
  induction cs generalizing i with
  | nil =>
    rw [digitsEnd, byteIs_encoded ascii_isDigit h]
    exact ⟨rfl, h⟩
  | cons c cs ih =>
    rw [digitsEnd, byteIs_encoded ascii_isDigit h, List.head?_cons, Option.any_some]
    by_cases hc : c.isDigit = true
    · obtain ⟨hend, hdrop⟩ := ih (drop_ascii (ascii_isDigit c hc) h)
      rw [if_pos hc, List.takeWhile_cons_of_pos hc, List.dropWhile_cons_of_pos hc, List.length_cons]
      exact ⟨by omega, hdrop⟩
    · rw [if_neg hc, List.takeWhile_cons_of_neg hc, List.dropWhile_cons_of_neg hc]
      exact ⟨rfl, h⟩

private theorem pointEnd_encoded (h : bytes.drop i = encoded cs) :
    pointEnd bytes i = i + (fractionText cs).length ∧
      bytes.drop (pointEnd bytes i) = encoded (takeFraction cs).2 := by
  rw [pointEnd, byteIs_encoded ascii_isPointMark h]
  cases cs with
  | nil => exact ⟨rfl, h⟩
  | cons c cs =>
    rw [List.head?_cons, Option.any_some]
    by_cases hc : isPointMark c = true
    · rw [if_pos hc]
      obtain rfl := eq_of_beq hc
      obtain ⟨hend, hdrop⟩ := digitsEnd_encoded (drop_ascii (by decide) h)
      refine ⟨?_, hdrop⟩
      rw [hend, fractionText, List.length_cons]
      omega
    · have hbare : ∀ d ∈ (c :: cs).head?, d ≠ '.' := by
        rintro _ ⟨⟩ rfl
        exact hc rfl
      rw [if_neg hc, fractionText_unpointed hbare, takeFraction_unpointed hbare]
      exact ⟨rfl, h⟩

private theorem exponentEnd_encoded (h : bytes.drop i = encoded cs) :
    exponentEnd bytes i = i + (exponentText cs).length := by
  rw [exponentEnd, byteIs_encoded ascii_isExponentMark h]
  cases cs with
  | nil => rfl
  | cons c rest =>
    have hiff : isExponentMark c = true ↔ c = 'e' ∨ c = 'E' := by
      rw [isExponentMark, Bool.or_eq_true_iff, beq_iff_eq, beq_iff_eq]
    rw [List.head?_cons, Option.any_some]
    by_cases hc : isExponentMark c = true
    · obtain ⟨hsign, hdrop⟩ := signEnd_encoded (drop_ascii (ascii_isExponentMark c hc) h)
      obtain ⟨hdigits, -⟩ := digitsEnd_encoded hdrop
      rw [if_pos hc]
      dsimp only
      by_cases hne : (takeSign rest).2.takeWhile Char.isDigit = []
      · rw [exponentText_unmarked fun h => h.2 hne, hdigits, hne]
        exact if_neg (Nat.lt_irrefl _)
      · have hpos := List.length_pos_iff.mpr hne
        rw [exponentText_marked (hiff.mp hc) hne, hdigits, hsign, if_pos (Nat.lt_add_of_pos_right hpos),
          List.length_cons, List.length_append]
        omega
    · rw [if_neg hc, exponentText_unmarked fun h => hc (hiff.mpr h.1)]
      rfl

private theorem length_point {pt fs : List Char} (h : IsPoint pt fs) : pt.length - 1 = fs.length := by
  cases h <;> rfl

/-- The scan ends where the front that is taken for a number ends. -/
theorem numberEnd?_encoded (cs : List Char) :
    numberEnd? (encoded cs) = if numericFront cs = [] then none else some (numericFront cs).length := by
  have hdrop : (encoded cs).drop 0 = encoded cs := List.drop_zero
  obtain ⟨hsign, hunsigned⟩ := signEnd_encoded hdrop
  obtain ⟨hwhole, hrest⟩ := digitsEnd_encoded hunsigned
  obtain ⟨hpoint, hafter⟩ := pointEnd_encoded hrest
  have hexponent := exponentEnd_encoded hafter
  have hfraction := length_point (isPoint_fractionText (afterWhole cs))
  rw [← wholeDigits] at hwhole
  rw [← afterWhole] at hpoint hexponent
  rw [numberEnd?, hexponent, hpoint, hwhole, Nat.add_sub_cancel_left, Nat.add_sub_cancel_left, hfraction]
  by_cases hempty : wholeDigits cs = [] ∧ (takeFraction (afterWhole cs)).1 = []
  · rw [if_pos (numericFront_eq_nil hempty), hempty.1, hempty.2]
    rfl
  · have hcount : ¬ (wholeDigits cs).length + (takeFraction (afterWhole cs)).1.length = 0 := by
      rwa [Nat.add_eq_zero_iff, List.length_eq_zero_iff, List.length_eq_zero_iff]
    have hlength : (numericFront cs).length = (signText cs).length + ((wholeDigits cs).length +
        ((fractionText (afterWhole cs)).length + (exponentText (takeFraction (afterWhole cs)).2).length)) := by
      rw [numericFront_eq hempty, List.length_append, List.length_append, List.length_append]
    have hne : numericFront cs ≠ [] := by
      intro hnil
      rw [hnil, List.length_nil] at hlength
      omega
    rw [if_neg hcount, if_neg hne, hlength, hsign]
    congr 1
    omega

end Encoded

private theorem encoded_eq (s : String) : s.toUTF8.data.toList = encoded s.toList := by
  obtain ⟨cs, rfl⟩ : ∃ cs, s = String.ofList cs := ⟨s.toList, String.ofList_toList.symm⟩
  rw [String.toUTF8_eq_toByteArray, String.toByteArray_ofList, String.toList_ofList]
  exact List.toList_data_toByteArray

private theorem length_encoded {cs : List Char} (h : ∀ c ∈ cs, c.toNat < 128) : (encoded cs).length = cs.length := by
  induction cs with
  | nil => rfl
  | cons c cs ih =>
    obtain ⟨hc, hcs⟩ := List.forall_mem_cons.mp h
    rw [encoded, List.flatMap_cons, List.length_append, utf8EncodeChar_ascii hc, ← encoded, ih hcs, Nat.add_comm]
    rfl

/-- A number is written in characters of one byte each. -/
theorem IsNumeral.ascii {cs : List Char} (h : IsNumeral cs) : ∀ c ∈ cs, c.toNat < 128 :=
  h.forall_mem ascii_isDigit (by decide)

/-- A text can be cut behind a front that is a number, at the offset of so many bytes as the front has characters. -/
theorem exists_cut {s : String} {front : List Char} (hn : IsNumeral front) (h : front <+: s.toList) :
    ∃ stop : s.Pos, stop.offset.byteIdx = front.length ∧ (s.sliceTo stop).copy = String.ofList front := by
  obtain ⟨rest, hrest⟩ := h
  have happend : s = String.ofList front ++ String.ofList rest := by
    rw [← String.ofList_append, hrest, String.ofList_toList]
  have hsplit := String.Pos.splits_ofEqAppend happend
  refine ⟨.ofEqAppend happend, ?_, hsplit.copy_sliceTo_eq⟩
  rw [hsplit.offset_eq_rawEndPos]
  change (String.ofList front).toByteArray.size = front.length
  have hbytes := congrArg List.length (encoded_eq (String.ofList front))
  rw [String.toList_ofList, length_encoded hn.ascii] at hbytes
  exact hbytes

end ScriptBridge.Number.Single

namespace ScriptBridge.Conversion
open Number Number.Single

def unblanked (text : String) : String := String.ofList (text.toList.dropWhile Text.isBlank)

private theorem lenientFloat_of_front {text : String} (h : numericFront (unblanked text).toList ≠ []) :
    lenientFloat text = (read? (numericFront (unblanked text).toList)).getD (.zero false) := by
  rw [unblanked, String.toList_ofList] at h ⊢
  unfold lenientFloat
  split
  · exact absurd ‹_› h
  · rfl

private theorem lenientFloat_of_no_front {text : String} (h : numericFront (unblanked text).toList = []) :
    lenientFloat text = .zero false := by
  rw [unblanked, String.toList_ofList] at h
  rw [lenientFloat, h]

/-- The float of a text is read off its longest front behind blanks that has the form of a number, and is zero without
such a front. The scan of its bytes stops where a character ends, and what it leaves in front is always read. -/
theorem lenientFloat_longest (text : String) :
    (∀ p, p <+: (unblanked text).toList → ¬ IsNumeral p) ∧ numberEnd? (unblanked text).toUTF8.data.toList = none ∧
        lenientFloat text = .zero false ∨
      ∃ front x, IsLongest (unblanked text).toList front ∧ read? front = some x ∧ lenientFloat text = x ∧
        ∃ stop : (unblanked text).Pos, numberEnd? (unblanked text).toUTF8.data.toList = some stop.offset.byteIdx ∧
          ((unblanked text).sliceTo stop).copy = String.ofList front := by
  have hscan := numberEnd?_encoded (unblanked text).toList
  rw [← encoded_eq] at hscan
  by_cases hfront : numericFront (unblanked text).toList = []
  · left
    refine ⟨fun p hp hn => ?_, hscan.trans (if_pos hfront), lenientFloat_of_no_front hfront⟩
    have hnil : p <+: [] := hfront ▸ prefix_numericFront hn hp
    exact hn.ne_nil (List.prefix_nil.mp hnil)
  · right
    have hlongest := isLongest_numericFront hfront
    obtain ⟨x, hx⟩ := hlongest.numeral.reads
    obtain ⟨stop, hstop, hslice⟩ := exists_cut hlongest.numeral hlongest.isPrefix
    refine ⟨_, x, hlongest, hx, ?_, stop, ?_, hslice⟩
    · rw [lenientFloat_of_front hfront, hx, Option.getD_some]
    · rw [hscan, if_neg hfront, hstop]

end ScriptBridge.Conversion
