import Mathlib.Data.List.ReduceOption
import ScriptBridge.Proofs.TextPassage
import ScriptBridge.Toml.Document

/-! Documents of one table in their plainest form: a header, and then in each line a bare key with a string, a number
or a truth value. Whoever writes such lines reads back what they say. -/
namespace ScriptBridge.Toml

open Number (decimalValue)
open Number.Single (Digits)
open Text (repeatUntil repeatUntil_end repeatUntil_more repeatUntil_run expect)

section Number
variable {ds rest : List Char}

private theorem digitValue?_of_isDigit {c : Char} (h : c.isDigit = true) :
    Number.digitValue? 10 c = some (c.toNat - '0'.toNat) :=
  (Number.digitValue?_eq_some_iff (by decide) c _).mpr (Number.isDigit_of_decimal h)

private theorem digitsValue_of_digits (hd : Digits ds) : digitsValue 10 ds = decimalValue ds := by
  have same (n : Nat) : ds.foldl (fun n c => 10 * n + (Number.digitValue? 10 c).getD 0) n =
      ds.foldl (fun n c => 10 * n + (c.toNat - '0'.toNat)) n := by
    induction ds generalizing n with
    | nil => rfl
    | cons c ds ih =>
      obtain ⟨hc, hds⟩ := List.forall_mem_cons.mp hd
      simp only [List.foldl_cons, digitValue?_of_isDigit hc, Option.getD_some, ih hds]
  exact same 0

/-- No number but zero itself begins with a zero. -/
theorem head?_toDigits_ne_zero {n : Nat} (pos : 0 < n) : (Nat.toDigits 10 n).head? ≠ some '0' := by
  induction n using Nat.strongRecOn with
  | ind n ih =>
    rcases Nat.lt_or_ge n 10 with small | large
    · rw [Nat.toDigits_of_lt_base small]
      interval_cases n <;> decide
    · rw [Nat.toDigits_of_base_le (by decide) large, List.head?_append_of_ne_nil _ Nat.toDigits_ne_nil]
      exact ih (n / 10) (Nat.div_lt_self pos (by decide)) (Nat.div_pos large (by decide))

/-- What comes first in a line behind digits is a digit or the break of the line. -/
theorem isDigit_or_break (hd : Digits ds) {c : Char} {more : List Char} (h : ds ++ '\n' :: rest = c :: more) :
    c.isDigit = true ∨ c = '\n' := by
  cases ds with
  | nil =>
    cases h
    exact .inr rfl
  | cons d ds =>
    cases h
    exact .inl (hd c List.mem_cons_self)

private theorem readDigitTail_digits (hd : Digits ds) :
    readDigitTail Char.isDigit (ds ++ '\n' :: rest) = some (ds, '\n' :: rest) := by
  induction ds with
  | nil => rfl
  | cons c ds ih =>
    obtain ⟨hc, hds⟩ := List.forall_mem_cons.mp hd
    have spaced : c ≠ '_' := by
      rintro rfl
      cases hc
    rw [List.cons_append, readDigitTail.eq_3 _ _ _ (fun _ _ h => absurd h spaced), if_neg spaced, if_pos hc, ih hds]
    rfl

private theorem readDigits_digits (hd : Digits ds) (hne : ds ≠ []) :
    readDigits Char.isDigit (ds ++ '\n' :: rest) = some (ds, '\n' :: rest) := by
  obtain ⟨c, ds, rfl⟩ := List.exists_cons_of_ne_nil hne
  obtain ⟨hc, hds⟩ := List.forall_mem_cons.mp hd
  rw [List.cons_append, readDigits, if_pos hc, readDigitTail_digits hds]
  rfl

private theorem readSign_digits (hd : Digits ds) : readSign (ds ++ '\n' :: rest) = (false, ds ++ '\n' :: rest) := by
  refine readSign.eq_3 _ (fun more h => ?_) (fun more h => ?_)
  · exact absurd (isDigit_or_break hd h) (by decide)
  · exact absurd (isDigit_or_break hd h) (by decide)

private theorem readDecimal_toDigits (n : Nat) (rest : List Char) :
    readDecimal (Nat.toDigits 10 n ++ '\n' :: rest) = some ((false, Nat.toDigits 10 n), '\n' :: rest) := by
  have digits := Number.digits_toDigits n
  rcases Nat.eq_zero_or_pos n with rfl | pos
  · rfl
  · have unmarked (more : List Char) : Nat.toDigits 10 n ++ '\n' :: rest ≠ '0' :: more := by
      intro h
      apply head?_toDigits_ne_zero pos
      rw [← List.head?_append_of_ne_nil _ Nat.toDigits_ne_nil, h, List.head?_cons]
    simp only [readDecimal, readSign_digits digits, readDigits_digits digits Nat.toDigits_ne_nil]
    rfl

/-- A field of a date or time takes digits off the front of digits. -/
theorem digits_of_readField (hd : Digits ds) {places low high n : Nat} {more : List Char}
    (h : readField places low high (ds ++ '\n' :: rest) = some (n, more)) :
    ∃ left, Digits left ∧ more = left ++ '\n' :: rest := by
  simp only [readField] at h
  split at h
  · rename_i taken
    obtain ⟨length, digits, -, -⟩ := taken
    cases h
    have few : places ≤ ds.length := by
      by_contra long
      -- The field would go over the break of the line.
      have crossed : '\n' ∈ (ds ++ '\n' :: rest).take places := by
        rw [List.take_append, List.mem_append]
        obtain ⟨k, hk⟩ : ∃ k, places - ds.length = k + 1 := ⟨places - ds.length - 1, by omega⟩
        right
        rw [hk, List.take_succ_cons]
        exact List.mem_cons_self
      exact absurd (List.all_eq_true.mp digits _ crossed) (by decide)
    refine ⟨ds.drop places, fun c hc => hd c (List.mem_of_mem_drop hc), ?_⟩
    rw [List.drop_append_of_le_length few]
  · cases h

/-- A mark is neither a digit nor the break of a line. -/
theorem expect_digits (hd : Digits ds) {c : Char} {cs : List Char} (mark : c.isDigit = false ∧ c ≠ '\n') :
    expect (c :: cs) (ds ++ '\n' :: rest) = none := by
  have start : ds ++ '\n' :: rest ≠ [] := List.append_ne_nil_of_right_ne_nil ds (List.cons_ne_nil _ _)
  obtain ⟨d, more, same⟩ := List.exists_cons_of_ne_nil start
  have differ : c ≠ d := by
    rintro rfl
    rcases isDigit_or_break hd same with digit | rfl
    · rw [mark.1] at digit
      cases digit
    · exact mark.2 rfl
  rw [same, expect, if_neg differ]

private theorem readDatetime_digits (hd : Digits ds) : readDatetime (ds ++ '\n' :: rest) = none := by
  have date : readDate (ds ++ '\n' :: rest) = none := by
    rw [readDate]
    cases year : readField 4 0 9999 (ds ++ '\n' :: rest) with
    | none => rfl
    | some p =>
      obtain ⟨n, more⟩ := p
      obtain ⟨left, digits, rfl⟩ := digits_of_readField hd year
      simp only [Option.bind_eq_bind, Option.bind_some, expect_digits digits (c := '-') ⟨rfl, by decide⟩, Option.bind_none]
  have time : readTime (ds ++ '\n' :: rest) = none := by
    rw [readTime]
    cases hour : readField 2 0 23 (ds ++ '\n' :: rest) with
    | none => rfl
    | some p =>
      obtain ⟨n, more⟩ := p
      obtain ⟨left, digits, rfl⟩ := digits_of_readField hd hour
      simp only [Option.bind_eq_bind, Option.bind_some, expect_digits digits (c := ':') ⟨rfl, by decide⟩, Option.bind_none]
  simp only [readDatetime, date, time]

private theorem readFloat_toDigits (n : Nat) (rest : List Char) :
    readFloat (Nat.toDigits 10 n ++ '\n' :: rest) = none := by
  simp only [readFloat, readDecimal_toDigits]
  rfl

private theorem readFloatWord_digits (hd : Digits ds) : readFloatWord (ds ++ '\n' :: rest) = none := by
  have inf : expect "inf".toList (ds ++ '\n' :: rest) = none := expect_digits hd ⟨rfl, by decide⟩
  have nan : expect "nan".toList (ds ++ '\n' :: rest) = none := expect_digits hd ⟨rfl, by decide⟩
  simp only [readFloatWord, readSign_digits hd, inf, nan]
  rfl

/-- No mark of a base follows a zero among digits. -/
theorem digits_ne_based (hd : Digits ds) {c : Char} (mark : c.isDigit = false ∧ c ≠ '\n') (more : List Char) :
    ds ++ '\n' :: rest ≠ '0' :: c :: more := by
  intro h
  cases ds with
  | nil => cases h
  | cons d ds =>
    obtain ⟨-, h⟩ := List.cons.inj h
    rcases isDigit_or_break (List.forall_mem_cons.mp hd).2 h with digit | rfl
    · rw [mark.1] at digit
      cases digit
    · exact mark.2 rfl

private theorem readInteger_toDigits {n : Nat} (bounded : (n : Int) ≤ Int64.maxValue.toInt) (rest : List Char) :
    readInteger (Nat.toDigits 10 n ++ '\n' :: rest) = some ((n : Int), '\n' :: rest) := by
  have digits := Number.digits_toDigits n
  have unbased {c : Char} (mark : c.isDigit = false ∧ c ≠ '\n') (more : List Char) :
      Nat.toDigits 10 n ++ '\n' :: rest ≠ '0' :: c :: more := digits_ne_based digits mark more
  have inside : Int64.minValue.toInt ≤ (n : Int) ∧ (n : Int) ≤ Int64.maxValue.toInt :=
    ⟨le_trans (by decide) (Int.natCast_nonneg n), bounded⟩
  rw [readInteger, readDecimal_toDigits]
  · simp only [Option.bind_eq_bind, Option.bind_some, Option.pure_def, Bool.false_eq_true, if_false,
      digitsValue_of_digits digits, Number.decimalValue_toDigits, if_pos inside]
  · exact unbased ⟨rfl, by decide⟩
  · exact unbased ⟨rfl, by decide⟩
  · exact unbased ⟨rfl, by decide⟩

/-- A number in digits that 64 bits can hold, at the end of a line. -/
theorem readNumber_toDigits {n : Nat} (bounded : (n : Int) ≤ Int64.maxValue.toInt) (rest : List Char) :
    readNumber (Nat.toDigits 10 n ++ '\n' :: rest) = some (.integer n, '\n' :: rest) := by
  have digits := Number.digits_toDigits n
  simp only [readNumber, readDatetime_digits digits, readFloat_toDigits, readFloatWord_digits digits,
    readInteger_toDigits bounded]
  rfl

end Number

def isUnescaped (c : Char) : Bool := isPlain c && c != '"' && c != '\\'

inductive Plain where
  | string (s : String)
  | count (n : Nat)
  | truth (b : Bool)

namespace Plain

def text : Plain → String
  | .string s => "\"" ++ s ++ "\""
  | .count n => toString n
  | .truth b => if b then "true" else "false"

def value : Plain → Value
  | .string s => .string s
  | .count n => .integer n
  | .truth b => .boolean b

/-- A string has only characters that need no escape, and a number is one of 64 bits. -/
def Writable : Plain → Prop
  | .string s => s.toList.all isUnescaped = true
  | .count n => (n : Int) ≤ Int64.maxValue.toInt
  | .truth _ => True

end Plain

private theorem isSpace_of_ne {c : Char} (solid : c ≠ ' ' ∧ c ≠ '\t') : isSpace c = false := by
  simp [isSpace, solid]

private theorem skipSpace_cons {c : Char} (solid : isSpace c = false) (rest : List Char) :
    skipSpace (c :: rest) = c :: rest :=
  List.dropWhile_cons_of_neg (by simp [solid])

section Value
variable {rest : List Char}

private theorem readLineString_plain {cs : List Char} (plain : cs.all isUnescaped = true) :
    readLineString '"' (cs ++ '"' :: rest) = some (String.ofList cs, rest) := by
  rw [readLineString, @repeatUntil_run _ rest _ cs ('"' :: rest)]
  · rfl
  · intro c hc rest
    have itself := List.all_eq_true.mp plain c hc
    simp only [isUnescaped, Bool.and_eq_true, bne_iff_ne] at itself
    simp [itself]
  · rfl

private theorem readString_plain {cs : List Char} (plain : cs.all isUnescaped = true) :
    readString ('"' :: (cs ++ '"' :: '\n' :: rest)) = some (String.ofList cs, '\n' :: rest) := by
  rw [readString, readLineString_plain plain]
  -- A quote behind the first ends an empty string, and then the line ends, so there are no three of them.
  intro more h
  cases cs with
  | nil => cases h
  | cons c cs =>
    obtain ⟨rfl, -⟩ := List.cons.inj h
    cases plain

private theorem readScalar_toDigits {n : Nat} (bounded : (n : Int) ≤ Int64.maxValue.toInt) (rest : List Char) :
    readScalar (Nat.toDigits 10 n ++ '\n' :: rest) = some (.integer n, '\n' :: rest) := by
  have first {c : Char} (mark : c.isDigit = false ∧ c ≠ '\n') (more : List Char) :
      Nat.toDigits 10 n ++ '\n' :: rest ≠ c :: more := by
    intro h
    rcases isDigit_or_break (Number.digits_toDigits n) h with digit | rfl
    · rw [mark.1] at digit
      cases digit
    · exact mark.2 rfl
  rw [readScalar, readNumber_toDigits bounded]
  · exact first ⟨rfl, by decide⟩
  · exact first ⟨rfl, by decide⟩
  · exact first ⟨rfl, by decide⟩
  · exact first ⟨rfl, by decide⟩

private theorem readScalar_text {v : Plain} (writable : v.Writable) (rest : List Char) :
    readScalar (v.text.toList ++ '\n' :: rest) = some (v.value, '\n' :: rest) := by
  cases v with
  | string s =>
    have written : (Plain.string s).text.toList ++ '\n' :: rest = '"' :: (s.toList ++ '"' :: '\n' :: rest) := by
      simp [Plain.text]
    rw [written, readScalar, readString_plain writable, String.ofList_toList]
    rfl
  | count n =>
    have written : (Plain.count n).text.toList = Nat.toDigits 10 n := by
      simp [Plain.text]
    rw [written, readScalar_toDigits writable]
    rfl
  | truth b => cases b <;> rfl

/-- A value begins with a digit, with a quote, or like a word. -/
theorem Plain.exists_cons (v : Plain) :
    ∃ c more, v.text.toList = c :: more ∧ (c.isDigit = true ∨ c ∈ ['"', 't', 'f']) := by
  cases v with
  | string s => exact ⟨'"', s.toList ++ ['"'], by simp [text], by simp⟩
  | count n =>
    obtain ⟨c, more, spelled⟩ := List.exists_cons_of_ne_nil (Nat.toDigits_ne_nil (n := n) (b := 10))
    exact ⟨c, more, by simpa [text] using spelled, .inl (Number.digits_toDigits n c (spelled ▸ List.mem_cons_self))⟩
  | truth b =>
    cases b with
    | false => exact ⟨'f', "alse".toList, rfl, by simp⟩
    | true => exact ⟨'t', "rue".toList, rfl, by simp⟩

private theorem Plain.text_ne_cons (v : Plain) {c : Char} (other : c.isDigit = false ∧ c ∉ ['"', 't', 'f'])
    (rest more : List Char) : v.text.toList ++ rest ≠ c :: more := by
  intro same
  obtain ⟨d, tail, spelled, first⟩ := v.exists_cons
  rw [spelled, List.cons_append] at same
  obtain ⟨rfl, -⟩ := List.cons.inj same
  rcases first with digit | listed
  · rw [other.1] at digit
    cases digit
  · exact other.2 listed

/-- What is written as a value is read as it, up to the end of the line. -/
theorem readValue_text {v : Plain} (writable : v.Writable) (levels : Nat) (rest : List Char) :
    readValue levels (v.text.toList ++ '\n' :: rest) = some (v.value, '\n' :: rest) := by
  cases levels with
  | zero => rw [readValue, readScalar_text writable]
  | succ levels =>
    simp only [readValue]
    split
    · rename_i more h
      exact absurd h (v.text_ne_cons ⟨rfl, by decide⟩ _ more)
    · rename_i more h
      exact absurd h (v.text_ne_cons ⟨rfl, by decide⟩ _ more)
    · exact readScalar_text writable rest

end Value

structure IsBare (key : String) : Prop where
  given : key.toList ≠ []
  bare : key.toList.all isBareKeyChar = true

inductive Line where
  | header (name : String)
  | pair (key : String) (v : Plain)

namespace Line

def text : Line → String
  | .header name => "[" ++ name ++ "]\n"
  | .pair key v => key ++ " = " ++ v.text ++ "\n"

def statement : Line → Statement
  | .header name => .header [] name
  | .pair key v => .pair [] key v.value

def Writable : Line → Prop
  | .header name => IsBare name
  | .pair key v => IsBare key ∧ v.Writable

end Line

section Key
variable {key : String} {gap rest : List Char}

private theorem IsBare.exists_cons (h : IsBare key) : ∃ c more, key.toList = c :: more ∧ isBareKeyChar c = true := by
  obtain ⟨c, more, same⟩ := List.exists_cons_of_ne_nil h.given
  exact ⟨c, more, same, List.all_eq_true.mp h.bare c (same ▸ List.mem_cons_self)⟩

/-- What no bare key has. -/
theorem ne_of_isBareKeyChar {c d : Char} (bare : isBareKeyChar c = true) (other : isBareKeyChar d = false) : c ≠ d := by
  rintro rfl
  rw [bare] at other
  cases other

private theorem IsBare.ne_cons (h : IsBare key) {c : Char} (other : isBareKeyChar c = false) (more : List Char) :
    key.toList ++ rest ≠ c :: more := by
  intro same
  obtain ⟨d, tail, spelled, bare⟩ := h.exists_cons
  rw [spelled, List.cons_append] at same
  obtain ⟨rfl, -⟩ := List.cons.inj same
  exact ne_of_isBareKeyChar bare other rfl

private theorem isSpace_of_isBareKeyChar {c : Char} (bare : isBareKeyChar c = true) : isSpace c = false :=
  isSpace_of_ne ⟨ne_of_isBareKeyChar bare rfl, ne_of_isBareKeyChar bare rfl⟩

theorem IsBare.skipSpace (h : IsBare key) : skipSpace (key.toList ++ rest) = key.toList ++ rest := by
  obtain ⟨c, more, same, bare⟩ := h.exists_cons
  rw [same, List.cons_append, skipSpace_cons (isSpace_of_isBareKeyChar bare)]

private theorem readSimpleKey_bare (h : IsBare key) (ends : ∀ c ∈ gap.head?, isBareKeyChar c = false) :
    readSimpleKey (key.toList ++ gap) = some (key, gap) := by
  have none_left : gap.takeWhile isBareKeyChar = [] ∧ gap.dropWhile isBareKeyChar = gap := by
    cases gap with
    | nil => exact ⟨rfl, rfl⟩
    | cons c gap =>
      have other : isBareKeyChar c = false := ends c rfl
      simp [other]
  have all_bare := List.all_eq_true.mp h.bare
  rw [readSimpleKey, List.takeWhile_append_of_pos all_bare, List.dropWhile_append_of_pos all_bare, none_left.1, none_left.2,
    List.append_nil, String.ofList_toList, if_neg (by simpa using h.given)]
  · exact h.ne_cons rfl
  · exact h.ne_cons rfl

/-- A bare key is a path of one part. -/
theorem readKey_bare {after : List Char} (h : IsBare key) (ends : ∀ c ∈ gap.head?, isBareKeyChar c = false)
    (past : skipSpace gap = after) (whole : ∀ more, after ≠ '.' :: more) :
    readKey (key.toList ++ gap) = some (([], key), after) := by
  rw [readKey, h.skipSpace, readSimpleKey_bare h ends]
  simp only [Option.bind_eq_bind, Option.bind_some, past]
  rw [repeatUntil_end]
  · rfl
  · split
    · exact absurd rfl (whole _)
    · rfl

end Key

section Line
variable {rest : List Char}

theorem Plain.skipSpace (v : Plain) : Toml.skipSpace (v.text.toList ++ rest) = v.text.toList ++ rest := by
  obtain ⟨c, more, spelled, first⟩ := v.exists_cons
  have solid : c ≠ ' ' ∧ c ≠ '\t' := by
    constructor <;> rintro rfl <;> exact absurd first (by decide)
  rw [spelled, List.cons_append, skipSpace_cons (isSpace_of_ne solid)]

private theorem readPair_text {key : String} {v : Plain} (bare : IsBare key) (writable : v.Writable) (levels : Nat) :
    readPair (readValue levels) (key.toList ++ ' ' :: '=' :: ' ' :: (v.text.toList ++ '\n' :: rest)) =
      some ((([], key), v.value), '\n' :: rest) := by
  have read_key : readKey (key.toList ++ ' ' :: '=' :: ' ' :: (v.text.toList ++ '\n' :: rest)) =
      some (([], key), '=' :: ' ' :: (v.text.toList ++ '\n' :: rest)) :=
    readKey_bare bare (by simp; decide) rfl (fun more h => by cases h)
  have past : skipSpace (' ' :: (v.text.toList ++ '\n' :: rest)) = v.text.toList ++ '\n' :: rest := v.skipSpace
  simp only [readPair, read_key, expect, if_pos, Option.bind_eq_bind, Option.bind_some, past, readValue_text writable,
    Option.pure_def]

/-- A line says what it was written for. -/
theorem readStatement_text {l : Line} (writable : l.Writable) :
    readStatement (l.text.toList ++ rest) = some (l.statement, '\n' :: rest) := by
  cases l with
  | header name =>
    have written : (Line.header name).text.toList ++ rest = '[' :: (name.toList ++ ']' :: '\n' :: rest) := by
      simp [Line.text]
    have read_key : readKey (name.toList ++ ']' :: '\n' :: rest) = some (([], name), ']' :: '\n' :: rest) :=
      readKey_bare writable (by simp; decide) rfl (fun more h => by cases h)
    rw [written, readStatement, read_key]
    · rfl
    · exact fun more h => IsBare.ne_cons writable rfl more h
  | pair key v =>
    have written : (Line.pair key v).text.toList ++ rest =
        key.toList ++ ' ' :: '=' :: ' ' :: (v.text.toList ++ '\n' :: rest) := by
      simp [Line.text]
    rw [written, readStatement, readPair_text writable.1 writable.2]
    · rfl
    · exact fun more h => writable.1.ne_cons rfl _ h
    · exact fun more h => writable.1.ne_cons rfl _ h

/-- A line begins with its bracket or like a bare key. -/
theorem Line.exists_cons {l : Line} (writable : l.Writable) :
    ∃ c more, l.text.toList = c :: more ∧ (c = '[' ∨ isBareKeyChar c = true) := by
  cases l with
  | header name => exact ⟨'[', name.toList ++ [']', '\n'], by simp [text], .inl rfl⟩
  | pair key v =>
    obtain ⟨c, more, spelled, bare⟩ := writable.1.exists_cons
    exact ⟨c, more ++ [' ', '=', ' '] ++ v.text.toList ++ ['\n'], by simp [text, spelled], .inr bare⟩

private theorem afterNewline?_cons {c : Char} (given : c ≠ '\n' ∧ c ≠ '\r') (rest : List Char) :
    afterNewline? (c :: rest) = none := by
  apply afterNewline?.eq_3
  · intro more h
    exact given.1 (List.cons.inj h).1
  · intro more h
    exact given.2 (List.cons.inj h).1

private theorem readStatements_line {l : Line} (writable : l.Writable) {later : List (Option Statement)}
    {last : List Char} (others : readStatements rest = some (later, last)) :
    readStatements (l.text.toList ++ rest) = some (some l.statement :: later, last) := by
  obtain ⟨c, more, spelled, opens⟩ := Line.exists_cons writable
  have read : readStatement (c :: (more ++ rest)) = some (l.statement, '\n' :: rest) := by
    rw [← readStatement_text writable, spelled]
    rfl
  have solid : isSpace c = false := by
    rcases opens with rfl | bare
    · rfl
    · exact isSpace_of_isBareKeyChar bare
  -- The line is neither empty nor a comment.
  have given : c ≠ '#' ∧ c ≠ '\n' ∧ c ≠ '\r' := by
    rcases opens with rfl | bare
    · decide
    · exact ⟨ne_of_isBareKeyChar bare rfl, ne_of_isBareKeyChar bare rfl, ne_of_isBareKeyChar bare rfl⟩
  have line_end : readLineEnd ('\n' :: rest) = some rest := rfl
  rw [readStatements] at others ⊢
  rw [spelled, List.cons_append]
  have shorter : rest.length < (c :: (more ++ rest)).length := by
    rw [List.length_cons, List.length_append]
    omega
  refine repeatUntil_more _ _ rest ?_ shorter others
  rw [skipSpace_cons solid]
  simp only [List.head?_cons, Option.some.injEq, given.1, afterNewline?_cons given.2, Option.isSome_none,
    Bool.false_eq_true, or_self, if_false, read, Option.bind_eq_bind, Option.bind_some, line_end, Option.pure_def]

/-- Each line of a document gives its statement. -/
theorem readStatements_lines {ls : List Line} (writable : ∀ l ∈ ls, l.Writable) :
    readStatements (ls.flatMap fun l => l.text.toList) = some (ls.map fun l => some l.statement, []) := by
  induction ls with
  | nil => exact repeatUntil_end rfl
  | cons l ls ih =>
    obtain ⟨first, others⟩ := List.forall_mem_cons.mp writable
    rw [List.flatMap_cons, List.map_cons]
    exact readStatements_line first (ih others)

private theorem readDocument_lines {ls : List Line} (writable : ∀ l ∈ ls, l.Writable) :
    readDocument (String.join (ls.map Line.text)) =
      ((ls.map Line.statement).foldlM Assembly.take ⟨⟨.header, []⟩, []⟩).map (·.root) := by
  have written : (String.join (ls.map Line.text)).toList = ls.flatMap fun l => l.text.toList := by
    rw [String.toList_join, List.flatMap_map]
  have unmarked (more : List Char) : (ls.flatMap fun l => l.text.toList) ≠ '\ufeff' :: more := by
    intro h
    cases ls with
    | nil => cases h
    | cons l ls =>
      obtain ⟨c, tail, spelled, opens⟩ := Line.exists_cons (writable l List.mem_cons_self)
      rw [List.flatMap_cons, spelled, List.cons_append] at h
      obtain ⟨rfl, -⟩ := List.cons.inj h
      rcases opens with wrong | wrong <;> exact absurd wrong (by decide)
  have stated (ls : List Line) : (ls.map fun l => some l.statement).reduceOption = ls.map Line.statement := by
    induction ls with
    | nil => rfl
    | cons l ls ih => rw [List.map_cons, List.reduceOption_cons_of_some, ih, List.map_cons]
  rw [readDocument, written]
  split
  · rename_i more h
    exact absurd h (unmarked more)
  · simp only [readStatements_lines writable, stated, Option.bind_eq_bind, Option.bind_some]
    exact Option.map_eq_bind.symm

end Line

def oneTable (name : String) (entries : List (String × Value)) : Table :=
  ⟨.header, [(name, .table .header entries)]⟩

section Table
variable {name key : String} {entries : List (String × Value)}

private theorem take_header (name : String) :
    Assembly.take ⟨⟨.header, []⟩, []⟩ (.header [] name) = some ⟨oneTable name [], [name]⟩ :=
  rfl

private theorem take_pair (fresh : key ∉ entries.map Prod.fst) (v : Value) :
    Assembly.take ⟨oneTable name entries, [name]⟩ (.pair [] key v) =
      some ⟨oneTable name (entries ++ [(key, v)]), [name]⟩ := by
  have missing : entries.lookup key = none := by
    rw [List.lookup_eq_none_iff]
    intro p hp
    rw [bne_iff_ne]
    rintro rfl
    exact fresh (List.mem_map_of_mem hp)
  simp [Assembly.take, oneTable, Table.changeAt, Table.enter?, Table.addPair, Table.put, Table.find?, missing,
    Table.value]

/-- Pairs with keys of their own are entries of their table, in their order. -/
theorem take_pairs {pairs : List (String × Value)} (apart : ((entries ++ pairs).map Prod.fst).Nodup) :
    (pairs.map fun p => Statement.pair [] p.1 p.2).foldlM Assembly.take ⟨oneTable name entries, [name]⟩ =
      some ⟨oneTable name (entries ++ pairs), [name]⟩ := by
  induction pairs generalizing entries with
  | nil =>
    rw [List.append_nil]
    rfl
  | cons p pairs ih =>
    obtain ⟨key, v⟩ := p
    have fresh : key ∉ entries.map Prod.fst := by
      rw [List.map_append, List.map_cons] at apart
      intro earlier
      exact (List.nodup_append.mp apart).2.2 key earlier key List.mem_cons_self rfl
    rw [List.map_cons, List.foldlM_cons, take_pair fresh, Option.bind_eq_bind, Option.bind_some, ih, List.append_assoc,
      List.singleton_append]
    rwa [List.append_assoc, List.singleton_append]

/-- A table with its pairs line by line is read as that table. -/
theorem readDocument_oneTable {pairs : List (String × Plain)} (named : IsBare name)
    (writable : ∀ p ∈ pairs, IsBare p.1 ∧ p.2.Writable) (apart : (pairs.map Prod.fst).Nodup) :
    readDocument (String.join ((Line.header name :: pairs.map fun p => .pair p.1 p.2).map Line.text)) =
      some (oneTable name (pairs.map fun p => (p.1, p.2.value))) := by
  have lines : ∀ l ∈ Line.header name :: pairs.map fun p => .pair p.1 p.2, l.Writable := by
    rw [List.forall_mem_cons, List.forall_mem_map]
    exact ⟨named, writable⟩
  have said : (pairs.map fun p => Line.pair p.1 p.2).map Line.statement =
      (pairs.map fun p => (p.1, p.2.value)).map fun p => Statement.pair [] p.1 p.2 := by
    rw [List.map_map, List.map_map]
    rfl
  have header : (Line.header name).statement = .header [] name := rfl
  rw [readDocument_lines lines, List.map_cons, List.foldlM_cons, header, take_header, said, Option.bind_eq_bind,
    Option.bind_some, take_pairs]
  · rfl
  · rwa [List.nil_append, List.map_map]

end Table

end ScriptBridge.Toml
