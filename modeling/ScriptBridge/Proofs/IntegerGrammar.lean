import Mathlib.Data.Int.ModEq
import Mathlib.Data.Nat.Digits.Defs
import Mathlib.Tactic.IntervalCases
import ScriptBridge.Number.Integer

/-! The grammar of integers in texts, and the number that a text stands for: of every text one front is the numeral,
and its value is taken modulo `2 ^ 32`. -/
namespace ScriptBridge.Number

/-- A character stands for a digit of a base. Letters count in both cases. -/
def IsDigit (base : Nat) (c : Char) (d : Nat) : Prop :=
  d < base ∧ (c = d.digitChar ∨ c = d.digitChar.toUpper)

private theorem eq_digitChar {c : Char} {d : Nat}
    (h : (if '0' ≤ c ∧ c ≤ '9' then some (c.toNat - '0'.toNat)
      else if 'a' ≤ c ∧ c ≤ 'f' then some (c.toNat - 'a'.toNat + 10)
      else if 'A' ≤ c ∧ c ≤ 'F' then some (c.toNat - 'A'.toNat + 10) else none) = some d) :
    c = d.digitChar ∨ c = d.digitChar.toUpper := by
  have le_iff (a b : Char) : a ≤ b ↔ a.toNat ≤ b.toNat := Iff.rfl
  simp only [← Char.toNat_inj, le_iff] at h ⊢
  generalize c.toNat = n at h ⊢
  split at h
  · rename_i hn
    obtain ⟨hl, hu⟩ : 48 ≤ n ∧ n ≤ 57 := hn
    cases h
    interval_cases n <;> exact .inl rfl
  · split at h
    · rename_i hn
      obtain ⟨hl, hu⟩ : 97 ≤ n ∧ n ≤ 102 := hn
      cases h
      interval_cases n <;> exact .inl rfl
    · split at h
      · rename_i hn
        obtain ⟨hl, hu⟩ : 65 ≤ n ∧ n ≤ 70 := hn
        cases h
        interval_cases n <;> exact .inr rfl
      · cases h

theorem digitValue?_eq_some_iff {base : Nat} (hb : base ≤ 16) (c : Char) (d : Nat) :
    digitValue? base c = some d ↔ IsDigit base c d := by
  rw [digitValue?, Option.filter_eq_some_iff, decide_eq_true_iff, IsDigit, and_comm]
  refine and_congr_right fun hd => ⟨eq_digitChar, fun h => ?_⟩
  have ht : d < 16 := hd.trans_le hb
  clear hd
  interval_cases d <;> rcases h with rfl | rfl <;> rfl

def marks : List (List Char × Nat) := [(['0', 'x'], 16), (['0', 'X'], 16), (['0', 'b'], 2), (['0', 'B'], 2)]

inductive Sign (rest : List Char) : Bool → List Char → Prop where
  | minus : Sign rest true ['-']
  | none (h : ¬ ['-'] <+: rest) : Sign rest false []

inductive Mark (rest : List Char) : Nat → List Char → Prop where
  | named {mark : List Char} {base : Nat} (h : (mark, base) ∈ marks) : Mark rest base mark
  | none (h : ∀ m ∈ marks, ¬ m.1 <+: rest) : Mark rest 10 []

structure Run (base : Nat) (rest : List Char) (digits : List Nat) (written : List Char) : Prop where
  digits : List.Forall₂ (IsDigit base) written digits
  whole : ∀ c ∈ rest.head?, ∀ d, ¬ IsDigit base c d

private theorem Mark.base_le {rest mark : List Char} {base : Nat} (h : Mark rest base mark) : base ≤ 16 := by
  cases h with
  | named h => exact (by decide : ∀ m ∈ marks, m.2 ≤ 16) _ h
  | none _ => decide

namespace Numeral

def Leads (n : Numeral) (cs rest : List Char) : Prop :=
  ∃ sign mark written, cs = sign ++ (mark ++ (written ++ rest)) ∧ Sign (mark ++ (written ++ rest)) n.negative sign ∧
    Mark (written ++ rest) n.base mark ∧ Run n.base rest n.digits written

/-- The number that the digits write, of any size. The first digit counts most. -/
def magnitude (n : Numeral) : Nat := Nat.ofDigits n.base n.digits.reverse

def integer (n : Numeral) : Int := if n.negative then -n.magnitude else n.magnitude

private theorem takeMinus_unsigned {cs : List Char} (h : ¬ ['-'] <+: cs) : takeMinus cs = (false, cs) := by
  unfold takeMinus
  split
  · exact absurd (List.prefix_append ['-'] _) h
  · rfl

private theorem takeMinus_eq_iff (cs : List Char) (negative : Bool) (rest : List Char) :
    takeMinus cs = (negative, rest) ↔ ∃ sign, cs = sign ++ rest ∧ Sign rest negative sign := by
  constructor
  · intro h
    by_cases hs : ['-'] <+: cs
    · obtain ⟨t, rfl⟩ := hs
      cases h
      exact ⟨['-'], rfl, .minus⟩
    · rw [takeMinus_unsigned hs] at h
      cases h
      exact ⟨[], rfl, .none hs⟩
  · rintro ⟨_, rfl, _ | h⟩
    · rfl
    · exact takeMinus_unsigned h

private theorem takeBase_marked {mark : List Char} {base : Nat} (h : (mark, base) ∈ marks) (rest : List Char) :
    takeBase (mark ++ rest) = (base, rest) := by
  simp only [marks, List.mem_cons, Prod.mk.injEq, List.not_mem_nil, or_false] at h
  rcases h with ⟨rfl, rfl⟩ | ⟨rfl, rfl⟩ | ⟨rfl, rfl⟩ | ⟨rfl, rfl⟩ <;> rfl

private theorem takeBase_unmarked {cs : List Char} (h : ∀ m ∈ marks, ¬ m.1 <+: cs) : takeBase cs = (10, cs) := by
  unfold takeBase
  split
  · exact absurd (List.prefix_append ['0', 'x'] _) (h (_, 16) (by decide))
  · exact absurd (List.prefix_append ['0', 'X'] _) (h (_, 16) (by decide))
  · exact absurd (List.prefix_append ['0', 'b'] _) (h (_, 2) (by decide))
  · exact absurd (List.prefix_append ['0', 'B'] _) (h (_, 2) (by decide))
  · rfl

private theorem takeBase_eq_iff (cs : List Char) (base : Nat) (rest : List Char) :
    takeBase cs = (base, rest) ↔ ∃ mark, cs = mark ++ rest ∧ Mark rest base mark := by
  constructor
  · intro h
    by_cases hm : ∀ m ∈ marks, ¬ m.1 <+: cs
    · rw [takeBase_unmarked hm] at h
      cases h
      exact ⟨[], rfl, .none hm⟩
    · push Not at hm
      obtain ⟨⟨mark, b⟩, hmem, t, rfl⟩ := hm
      rw [takeBase_marked hmem] at h
      cases h
      exact ⟨mark, rfl, .named hmem⟩
  · rintro ⟨_, rfl, h | h⟩
    · exact takeBase_marked h rest
    · exact takeBase_unmarked h

private theorem takeDigits_of_run {base : Nat} (hb : base ≤ 16) {rest written : List Char} {digits : List Nat}
    (h : Run base rest digits written) : takeDigits base (written ++ rest) = digits := by
  obtain ⟨digits, whole⟩ := h
  induction digits with
  | nil =>
    cases rest with
    | nil => rfl
    | cons c rest =>
      have hc : digitValue? base c = none := by
        rw [Option.eq_none_iff_forall_ne_some]
        intro d hd
        exact whole c rfl d ((digitValue?_eq_some_iff hb c d).mp hd)
      rw [List.nil_append, takeDigits, hc]
  | cons hd _ ih => rw [List.cons_append, takeDigits, (digitValue?_eq_some_iff hb _ _).mpr hd, ih]

private theorem exists_run {base : Nat} (hb : base ≤ 16) (cs : List Char) :
    ∃ written rest, cs = written ++ rest ∧ Run base rest (takeDigits base cs) written := by
  induction cs with
  | nil => exact ⟨[], [], rfl, .nil, fun c hc => nomatch hc⟩
  | cons c cs ih =>
    rw [takeDigits]
    cases hc : digitValue? base c with
    | none =>
      refine ⟨[], c :: cs, rfl, .nil, ?_⟩
      rintro _ ⟨⟩ d hd
      rw [(digitValue?_eq_some_iff hb c d).mpr hd] at hc
      cases hc
    | some d =>
      obtain ⟨written, rest, rfl, digits, whole⟩ := ih
      exact ⟨c :: written, rest, rfl, .cons ((digitValue?_eq_some_iff hb c d).mp hc) digits, whole⟩

private theorem ofText_eq {cs unsigned body : List Char} {negative : Bool} {base : Nat}
    (hs : takeMinus cs = (negative, unsigned)) (hm : takeBase unsigned = (base, body)) :
    ofText cs = ⟨negative, base, takeDigits base body⟩ := by
  rw [ofText, hs]
  dsimp only
  rw [hm]

/-- A text is taken apart into the numeral at its front, and there is no other one. -/
theorem ofText_eq_iff (cs : List Char) (n : Numeral) : ofText cs = n ↔ ∃ rest, n.Leads cs rest := by
  constructor
  · rintro rfl
    rcases hs : takeMinus cs with ⟨negative, unsigned⟩
    rcases hm : takeBase unsigned with ⟨base, body⟩
    rw [ofText_eq hs hm]
    obtain ⟨sign, rfl, sign_spec⟩ := (takeMinus_eq_iff cs negative unsigned).mp hs
    obtain ⟨mark, rfl, mark_spec⟩ := (takeBase_eq_iff unsigned base body).mp hm
    obtain ⟨written, rest, rfl, run⟩ := exists_run mark_spec.base_le body
    exact ⟨rest, sign, mark, written, rfl, sign_spec, mark_spec, run⟩
  · rintro ⟨rest, sign, mark, written, rfl, sign_spec, mark_spec, run⟩
    have hs := (takeMinus_eq_iff _ _ _).mpr ⟨sign, rfl, sign_spec⟩
    have hm := (takeBase_eq_iff _ _ _).mpr ⟨mark, rfl, mark_spec⟩
    rw [ofText_eq hs hm, takeDigits_of_run mark_spec.base_le run]

private theorem foldl_wrapped (base : Nat) (digits : List Nat) (a : Nat) :
    digits.foldl (fun acc d => acc * Int32.ofNat base + Int32.ofNat d) (Int32.ofNat a) =
      Int32.ofNat (digits.foldl (fun acc d => d + base * acc) a) := by
  induction digits generalizing a with
  | nil => rfl
  | cons d digits ih =>
    rw [List.foldl_cons, List.foldl_cons, ← ih, Nat.add_comm, Nat.mul_comm, Int32.ofNat_add, Int32.ofNat_mul]

/-- Wrapping around at every digit comes to wrapping around once. -/
theorem value_eq (n : Numeral) : n.value = .ofInt n.integer := by
  have digits : n.digits.foldl (fun acc d => acc * Int32.ofNat n.base + Int32.ofNat d) 0 =
      Int32.ofInt n.magnitude := by
    rw [Int32.ofInt_eq_ofNat, magnitude, Nat.ofDigits_eq_foldr, List.foldr_reverse]
    exact foldl_wrapped n.base n.digits 0
  rw [value, digits, integer]
  cases n.negative with
  | true => exact Int32.neg_ofInt
  | false => rfl

end Numeral

private theorem eq_ofInt_iff (i : Int32) (z : Int) : i = .ofInt z ↔ i.toInt ≡ z [ZMOD 2 ^ 32] := by
  rw [← Int32.toInt_inj, Int32.toInt_ofInt]
  constructor
  · intro h
    rw [h]
    exact Int.bmod_emod
  · intro h
    have hi : i.toInt.bmod Int32.size = i.toInt := i.toInt_bmod
    rw [← hi, ← Int.emod_bmod, ← Int.emod_bmod z]
    exact congrArg (Int.bmod · _) h

/-- Every text has exactly one numeral at its front, and it is read as the one 32-bit integer that is congruent to the
number that this numeral stands for, zero without digits. Nothing behind the numeral takes part. -/
theorem lenientInt_grammar (text : String) :
    ∃ n : Numeral, (∃ rest, n.Leads text.toList rest) ∧ (∀ m rest, m.Leads text.toList rest → m = n) ∧
      (∀ i : Int32, i = lenientInt text ↔ i.toInt ≡ n.integer [ZMOD 2 ^ 32]) ∧
      (n.digits = [] → lenientInt text = 0) := by
  refine ⟨.ofText text.toList, (Numeral.ofText_eq_iff _ _).mp rfl, fun m rest h => ?_, fun i => ?_, fun h => ?_⟩
  · exact ((Numeral.ofText_eq_iff _ m).mpr ⟨rest, h⟩).symm
  · rw [lenientInt, Numeral.value_eq]
    exact eq_ofInt_iff i _
  · have hzero : (Numeral.ofText text.toList).magnitude = 0 := by
      rw [Numeral.magnitude, h, List.reverse_nil, Nat.ofDigits_nil]
    rw [lenientInt, Numeral.value_eq, Numeral.integer, hzero]
    exact congrArg Int32.ofInt (ite_self _)

example : lenientInt "-0b101x" = -5 ∧ lenientInt "--5" = 0 ∧ lenientInt "4294967295" = -1 := by decide

end ScriptBridge.Number
