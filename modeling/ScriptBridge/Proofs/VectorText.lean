import ScriptBridge.Conversion
import ScriptBridge.Proofs.TextPassage

/-! Vectors in texts. A text is cut at its separators into pieces, and a vector is read if the first three pieces are
numbers. What follows the third number is dropped, so more texts are read than those that are three numbers. -/
namespace ScriptBridge.Number.Single

def IsWord (cs : List Char) : Prop := String.ofList (cs.map Char.toLower) ∈ ["inf", "infinity", "nan"]

/-- Whatever stands for one number: a number written in digits, or a word with a sign that may be missing. -/
def IsLiteral (cs : List Char) : Prop :=
  IsNumeral cs ∨ ∃ negative sign word, cs = sign ++ word ∧ IsSign negative sign ∧ IsWord word

private theorem exists_readWord?_iff (negative : Bool) (cs : List Char) :
    (∃ x, readWord? negative cs = some x) ↔ IsWord cs := by
  simp only [readWord?, IsWord, List.mem_cons, List.not_mem_nil, or_false]
  split
  · rename_i h
    exact ⟨fun _ => h.elim .inl fun h => .inr (.inl h), fun _ => ⟨_, rfl⟩⟩
  · split
    · rename_i h
      exact ⟨fun _ => .inr (.inr h), fun _ => ⟨_, rfl⟩⟩
    · rename_i hinf hnan
      constructor
      · rintro ⟨x, ⟨⟩⟩
      · rintro (h | h | h)
        · exact absurd (.inl h) hinf
        · exact absurd (.inr h) hinf
        · exact absurd h hnan

def wordLetters : List Char := ['i', 'n', 'f', 't', 'y', 'a']

private theorem IsWord.letters {cs : List Char} (h : IsWord cs) : ∀ c ∈ cs, c.toLower ∈ wordLetters := by
  have covered : ∀ word ∈ ["inf", "infinity", "nan"], word.toList.all (wordLetters.contains ·) = true := by decide
  intro c hc
  have hm : c.toLower ∈ (String.ofList (cs.map Char.toLower)).toList := by
    rw [String.toList_ofList]
    exact List.mem_map_of_mem hc
  exact List.contains_iff_mem.mp (List.all_eq_true.mp (covered _ h) _ hm)

/-- A character without a case that is no letter of a word stands in no word. -/
theorem IsWord.ne {cs : List Char} (h : IsWord cs) {c : Char} (hc : c ∈ cs) {d : Char} (hd : ¬ d.isUpper = true)
    (hl : d ∉ wordLetters) : c ≠ d := by
  rintro rfl
  have same : c.toLower = c := dif_neg fun h => hd (decide_eq_true h)
  exact hl (same ▸ h.letters c hc)

private theorem isUpper_iff_toNat {c : Char} : c.isUpper = true ↔ 65 ≤ c.toNat ∧ c.toNat ≤ 90 := decide_eq_true_iff

private theorem not_isUpper_of_isDigit {c : Char} (h : c.isDigit = true) : ¬ c.isUpper = true := by
  obtain ⟨-, hhigh⟩ : 48 ≤ c.toNat ∧ c.toNat ≤ 57 := Char.isDigit_iff_toNat.mp h
  rw [isUpper_iff_toNat]
  omega

private theorem not_mem_wordLetters_of_isDigit {c : Char} (h : c.isDigit = true) : c ∉ wordLetters := by
  intro hm
  simp only [wordLetters, List.mem_cons, List.not_mem_nil, or_false] at hm
  rcases hm with rfl | rfl | rfl | rfl | rfl | rfl <;> exact absurd h (by decide)

theorem IsWord.not_digit {cs : List Char} (h : IsWord cs) : ∀ c ∈ cs, ¬ c.isDigit = true := by
  intro c hc hd
  exact h.ne hc (not_isUpper_of_isDigit hd) (not_mem_wordLetters_of_isDigit hd) rfl

theorem IsWord.bare {cs : List Char} (h : IsWord cs) : Bare cs := by
  intro c hc
  have hm := List.mem_of_mem_head? hc
  exact ⟨h.ne hm (by decide) (by decide), h.ne hm (by decide) (by decide)⟩

/-- A word is read as one, behind any sign. -/
theorem IsWord.read? {negative : Bool} {sign word : List Char} (hs : IsSign negative sign) (h : IsWord word) :
    read? (sign ++ word) = readWord? negative word := by
  have hdigit : ∀ c ∈ word.head?, ¬ c.isDigit = true := fun c hc => h.not_digit c (List.mem_of_mem_head? hc)
  have hpoint : ∀ c ∈ word.head?, c ≠ '.' := fun c hc => h.ne (List.mem_of_mem_head? hc) (by decide) (by decide)
  obtain ⟨hwhole, hrest⟩ := span_run (List.forall_mem_nil _) hdigit
  rw [List.nil_append] at hwhole hrest
  rw [Single.read?, takeSign_append hs h.bare]
  dsimp only
  rw [hwhole, hrest, takeFraction_unpointed hpoint]
  exact if_pos ⟨rfl, rfl⟩

private theorem isExponent_of_readExponent? {ex : List Char} {e : Int} (h : readExponent? ex = some e) :
    IsExponent ex := by
  cases ex with
  | nil => exact .none
  | cons c rest =>
    simp only [readExponent?] at h
    split at h
    · rename_i hc
      rw [← signText_append rest]
      exact .power hc.1 (isSign_signText rest) (List.all_eq_true.mp hc.2.2) hc.2.1
    · cases h

/-- Read as a number is exactly what stands for one. -/
theorem exists_read?_iff (cs : List Char) : (∃ x, read? cs = some x) ↔ IsLiteral cs := by
  constructor
  · rintro ⟨x, h⟩
    simp only [read?] at h
    split at h
    · right
      have hword := (exists_readWord?_iff _ _).mp ⟨x, h⟩
      exact ⟨_, _, _, (signText_append cs).symm, isSign_signText cs, hword⟩
    · rename_i hne
      left
      obtain ⟨e, he, -⟩ := Option.map_eq_some_iff.mp h
      refine (isNumeral_iff cs).mpr ⟨_, _, wholeDigits cs, fractionText (afterWhole cs), _, _, ?_, isSign_signText cs,
        digits_takeWhile _, isPoint_fractionText _, hne, isExponent_of_readExponent? he⟩
      change cs = signText cs ++ (wholeDigits cs ++ (fractionText (afterWhole cs) ++ (takeFraction (afterWhole cs)).2))
      rw [fractionText_append, wholeDigits, afterWhole, List.takeWhile_append_dropWhile, signText_append]
  · rintro (h | ⟨negative, sign, word, rfl, hs, hword⟩)
    · exact h.reads
    · rw [hword.read? hs]
      exact (exists_readWord?_iff _ _).mpr hword

section Separators
open Conversion (isSeparator)

private theorem not_isSeparator_of_isDigit {c : Char} (h : c.isDigit = true) : isSeparator c = false := by
  rw [isSeparator, Bool.or_eq_false_iff, beq_eq_false_iff_ne]
  refine ⟨?_, Bool.eq_false_iff.mpr (not_isBlank_of_isDigit h)⟩
  rintro rfl
  exact absurd h (by decide)

private theorem not_isSeparator_of_isUpper {c : Char} (h : c.isUpper = true) : isSeparator c = false := by
  obtain ⟨hlow, hhigh⟩ := isUpper_iff_toNat.mp h
  rw [isSeparator, Bool.or_eq_false_iff, beq_eq_false_iff_ne]
  refine ⟨?_, Bool.eq_false_iff.mpr (not_isBlank_of_printed (by omega) (by omega))⟩
  rintro rfl
  exact absurd h (by decide)

theorem IsWord.solid {cs : List Char} (h : IsWord cs) : ∀ c ∈ cs, isSeparator c = false := by
  intro c hc
  by_cases hup : c.isUpper = true
  · exact not_isSeparator_of_isUpper hup
  · have letters : wordLetters.all (!isSeparator ·) = true := by decide
    by_contra hsep
    exact h.ne hc hup (fun hl => hsep ((Bool.not_eq_true' _).mp (List.all_eq_true.mp letters c hl))) rfl

theorem IsSign.solid {negative : Bool} {sign : List Char} (h : IsSign negative sign) :
    ∀ c ∈ sign, isSeparator c = false := by
  cases h with
  | none => exact List.forall_mem_nil _
  | minus | plus => exact List.forall_mem_singleton.mpr (by decide)

theorem IsWord.ne_nil {cs : List Char} (h : IsWord cs) : cs ≠ [] := by
  rintro rfl
  simp [IsWord] at h

/-- A number has characters, and none of them separates. -/
theorem IsLiteral.solid {cs : List Char} (h : IsLiteral cs) : cs ≠ [] ∧ ∀ c ∈ cs, isSeparator c = false := by
  rcases h with h | ⟨negative, sign, word, rfl, hs, hword⟩
  · exact ⟨h.ne_nil, h.forall_mem (fun _ => not_isSeparator_of_isDigit) (by decide)⟩
  · exact ⟨fun h => hword.ne_nil (List.append_eq_nil_iff.mp h).2, List.forall_mem_append.mpr ⟨hs.solid, hword.solid⟩⟩

end Separators

end ScriptBridge.Number.Single

namespace ScriptBridge.Conversion
open Number Number.Single

def IsGap (cs : List Char) : Prop := ∀ c ∈ cs, isSeparator c = true

def Apart (cs : List Char) : Prop := ∀ c ∈ cs.head?, isSeparator c = true

/-- The pieces of a text, with any separators around them and at least one between two of them. -/
inductive Separated : List (List Char) → List Char → Prop where
  | gap {cs} (hg : IsGap cs) : Separated [] cs
  | piece {gap p rest ps} (hg : IsGap gap) (hne : p ≠ []) (solid : ∀ c ∈ p, isSeparator c = false)
      (apart : Apart rest) (h : Separated ps rest) : Separated (p :: ps) (gap ++ (p ++ rest))

private theorem pieces_append_of_isGap {gap : List Char} (hg : IsGap gap) (cs : List Char) :
    pieces (gap ++ cs) = pieces cs := by
  induction gap with
  | nil => rfl
  | cons c gap ih =>
    obtain ⟨hc, hgap⟩ := List.forall_mem_cons.mp hg
    rw [← ih hgap, List.cons_append, pieces, List.splitOnP_cons_eq_if_modifyHead, if_pos hc]
    exact List.filter_cons_of_neg (by simp)

private theorem pieces_append_of_solid {p rest : List Char} (hne : p ≠ []) (solid : ∀ c ∈ p, isSeparator c = false)
    (apart : Apart rest) : pieces (p ++ rest) = p :: pieces rest := by
  have kept (ps : List (List Char)) : (p :: ps).filter (!·.isEmpty) = p :: ps.filter (!·.isEmpty) :=
    List.filter_cons_of_pos (by simp [hne])
  cases rest with
  | nil =>
    rw [List.append_nil, pieces, List.splitOnP_eq_singleton solid]
    exact kept []
  | cons c rest =>
    have hc : IsGap [c] := List.forall_mem_singleton.mpr (apart c rfl)
    rw [pieces, List.splitOnP_append_cons_of_forall_mem solid c (apart c rfl), kept]
    exact congrArg (p :: ·) (pieces_append_of_isGap hc rest).symm

private theorem Separated.pieces_eq {ps : List (List Char)} {cs : List Char} (h : Separated ps cs) :
    pieces cs = ps := by
  induction h with
  | @gap cs hg =>
    rw [← List.append_nil cs, pieces_append_of_isGap hg]
    rfl
  | piece hg hne solid apart _ ih => rw [pieces_append_of_isGap hg, pieces_append_of_solid hne solid apart, ih]

/-- What remains of a text behind a run of one kind begins with the other kind. -/
theorem apart_dropWhile (cs : List Char) : Apart (cs.dropWhile (!isSeparator ·)) := by
  intro c hc
  have h := List.head?_dropWhile_not (!isSeparator ·) cs
  rw [Option.mem_def.mp hc] at h
  simpa using h

/-- Every text is its pieces with separators around them. -/
theorem separated_pieces (cs : List Char) : Separated (pieces cs) cs := by
  have hg : IsGap (cs.takeWhile isSeparator) := fun c hc => List.mem_takeWhile_imp hc
  have hcut := List.takeWhile_append_dropWhile (p := isSeparator) (l := cs)
  cases hrest : cs.dropWhile isSeparator with
  | nil =>
    rw [hrest, List.append_nil] at hcut
    rw [hcut] at hg
    have hgap := Separated.gap hg
    rwa [hgap.pieces_eq]
  | cons c rest =>
    have hc : isSeparator c = false := by
      have h := List.head?_dropWhile_not isSeparator cs
      rwa [hrest] at h
    have solid : ∀ d ∈ c :: rest.takeWhile (!isSeparator ·), isSeparator d = false := by
      refine List.forall_mem_cons.mpr ⟨hc, fun d hd => ?_⟩
      simpa using List.mem_takeWhile_imp hd
    have shorter : (rest.dropWhile (!isSeparator ·)).length < cs.length := by
      have hle := List.length_dropWhile_le (!isSeparator ·) rest
      have hlen := List.length_dropWhile_le isSeparator cs
      rw [hrest, List.length_cons] at hlen
      omega
    have h := Separated.piece hg (List.cons_ne_nil _ _) solid (apart_dropWhile rest) (separated_pieces _)
    rw [List.cons_append, List.takeWhile_append_dropWhile, ← hrest, hcut] at h
    rwa [h.pieces_eq]
termination_by cs.length

private theorem pieces_eq_iff (ps : List (List Char)) (cs : List Char) : pieces cs = ps ↔ Separated ps cs :=
  ⟨fun h => h ▸ separated_pieces cs, Separated.pieces_eq⟩

def IsTriple (v : Vector3) (cs : List Char) : Prop :=
  ∃ lead x gap y gap' z trail, cs = lead ++ (x ++ (gap ++ (y ++ (gap' ++ (z ++ trail))))) ∧
    IsGap lead ∧ (IsGap gap ∧ gap ≠ []) ∧ (IsGap gap' ∧ gap' ≠ []) ∧ IsGap trail ∧
    read? x = some v.x ∧ read? y = some v.y ∧ read? z = some v.z

/-- The texts for a vector: three numbers, or nothing for the zero vector. -/
def IsVectorText (v : Vector3) (text : String) : Prop :=
  text = "" ∧ v = .zero ∨ IsTriple v text.toList

/-- Three numbers, and after a separator something that is more than separators. -/
def IsOverlong (v : Vector3) (text : String) : Prop :=
  ∃ front rest, text.toList = front ++ rest ∧ IsTriple v front ∧ Apart rest ∧ ¬ IsGap rest

theorem Apart.append {gap cs : List Char} (hg : IsGap gap) (h : Apart cs) : Apart (gap ++ cs) := by
  cases gap with
  | nil => exact h
  | cons c gap => exact fun d hd => hg d (Option.mem_some.mp hd ▸ List.mem_cons_self)

private theorem apart_append_of_ne_nil {gap cs : List Char} (hg : IsGap gap) (hne : gap ≠ []) : Apart (gap ++ cs) := by
  obtain ⟨c, gap, rfl⟩ := List.exists_cons_of_ne_nil hne
  exact fun d hd => hg d (Option.mem_some.mp hd ▸ List.mem_cons_self)

private theorem Separated.cons_inv {p : List Char} {ps : List (List Char)} {cs : List Char}
    (h : Separated (p :: ps) cs) :
    ∃ gap rest, cs = gap ++ (p ++ rest) ∧ IsGap gap ∧ p ≠ [] ∧ (∀ c ∈ p, isSeparator c = false) ∧ Apart rest ∧
      Separated ps rest := by
  cases h with
  | piece hg hne solid apart h => exact ⟨_, _, rfl, hg, hne, solid, apart, h⟩

private theorem pieces_eq_nil_iff (cs : List Char) : pieces cs = [] ↔ IsGap cs := by
  rw [pieces_eq_iff]
  constructor
  · rintro ⟨hg⟩
    exact hg
  · exact .gap

section Triples
variable {v v' : Vector3} {cs front rest : List Char}

theorem IsTriple.ne_nil (h : IsTriple v cs) : cs ≠ [] := by
  obtain ⟨lead, x, gap, y, gap', z, trail, rfl, -, ⟨-, hne⟩, -⟩ := h
  simp [hne]

private theorem IsTriple.append_gap (h : IsTriple v front) (hg : IsGap rest) : IsTriple v (front ++ rest) := by
  obtain ⟨lead, x, gap, y, gap', z, trail, rfl, hlead, hgap, hgap', htrail, hreads⟩ := h
  refine ⟨lead, x, gap, y, gap', z, trail ++ rest, ?_, hlead, hgap, hgap', ?_, hreads⟩
  · simp only [List.append_assoc]
  · exact List.forall_mem_append.mpr ⟨htrail, hg⟩

/-- The pieces of three numbers come first, before those of what follows. -/
theorem IsTriple.pieces_append (h : IsTriple v front) (apart : Apart rest) :
    ∃ x y z, pieces (front ++ rest) = x :: y :: z :: pieces rest ∧
      read? x = some v.x ∧ read? y = some v.y ∧ read? z = some v.z := by
  obtain ⟨lead, x, gap, y, gap', z, trail, rfl, hlead, ⟨hgap, hne⟩, ⟨hgap', hne'⟩, htrail, hx, hy, hz⟩ := h
  obtain ⟨hxne, hxs⟩ := ((exists_read?_iff x).mp ⟨_, hx⟩).solid
  obtain ⟨hyne, hys⟩ := ((exists_read?_iff y).mp ⟨_, hy⟩).solid
  obtain ⟨hzne, hzs⟩ := ((exists_read?_iff z).mp ⟨_, hz⟩).solid
  refine ⟨x, y, z, ?_, hx, hy, hz⟩
  simp only [List.append_assoc]
  rw [pieces_append_of_isGap hlead, pieces_append_of_solid hxne hxs (apart_append_of_ne_nil hgap hne),
    pieces_append_of_isGap hgap, pieces_append_of_solid hyne hys (apart_append_of_ne_nil hgap' hne'),
    pieces_append_of_isGap hgap', pieces_append_of_solid hzne hzs (apart.append htrail), pieces_append_of_isGap htrail]

/-- Where something apart goes on with a piece, a separator stands before the piece. -/
theorem ne_nil_of_apart {gap p : List Char} (hne : p ≠ []) (solid : ∀ c ∈ p, isSeparator c = false)
    (apart : Apart (gap ++ (p ++ rest))) : gap ≠ [] := by
  rintro rfl
  obtain ⟨c, p, rfl⟩ := List.exists_cons_of_ne_nil hne
  have hsep := apart c rfl
  rw [solid c List.mem_cons_self] at hsep
  cases hsep

/-- Three numbers among the pieces of a text are its front, and the other pieces are those of the rest. -/
theorem exists_triple {x y z : List Char} {more : List (List Char)} (h : Separated (x :: y :: z :: more) cs)
    (hx : read? x = some v.x) (hy : read? y = some v.y) (hz : read? z = some v.z) :
    ∃ front rest, cs = front ++ rest ∧ IsTriple v front ∧ Apart rest := by
  obtain ⟨lead, cs, rfl, hlead, -, -, apart, h⟩ := h.cons_inv
  obtain ⟨gap, cs, rfl, hgap, hyne, hys, apart', h⟩ := h.cons_inv
  obtain ⟨gap', rest, rfl, hgap', hzne, hzs, apart'', -⟩ := h.cons_inv
  refine ⟨lead ++ (x ++ (gap ++ (y ++ (gap' ++ (z ++ []))))), rest, ?_, ?_, apart''⟩
  · simp only [List.append_assoc, List.nil_append]
  · exact ⟨lead, x, gap, y, gap', z, [], rfl, hlead, ⟨hgap, ne_nil_of_apart hyne hys apart⟩,
      ⟨hgap', ne_nil_of_apart hzne hzs apart'⟩, List.forall_mem_nil _, hx, hy, hz⟩

end Triples

private theorem readVector?_eq_some_iff {text : String} (hne : text ≠ "") (v : Vector3) :
    readVector? text = some v ↔ ∃ front rest, text.toList = front ++ rest ∧ IsTriple v front ∧ Apart rest := by
  rw [readVector?, if_neg hne]
  constructor
  · intro h
    split at h
    · rename_i x y z more hpieces
      simp only [Option.bind_eq_bind, Option.bind_eq_some_iff, Option.pure_def, Option.some.injEq] at h
      obtain ⟨vx, hx, vy, hy, vz, hz, rfl⟩ := h
      exact exists_triple ((pieces_eq_iff _ _).mp hpieces) hx hy hz
    · cases h
  · rintro ⟨front, rest, hcs, htriple, apart⟩
    obtain ⟨x, y, z, hpieces, hx, hy, hz⟩ := htriple.pieces_append apart
    rw [hcs, hpieces]
    dsimp only
    rw [hx, hy, hz]
    rfl

/-- A triple has no further piece. -/
theorem IsVectorText.length_pieces_le {v : Vector3} {text : String} (h : IsVectorText v text) :
    (pieces text.toList).length ≤ 3 := by
  rcases h with ⟨rfl, -⟩ | h
  · decide
  · have apart : Apart [] := nofun
    obtain ⟨x, y, z, hpieces, -⟩ := h.pieces_append apart
    rw [← List.append_nil text.toList, hpieces]
    exact le_refl 3

private theorem IsOverlong.lt_length_pieces {v : Vector3} {text : String} (h : IsOverlong v text) :
    3 < (pieces text.toList).length := by
  obtain ⟨front, rest, hcs, htriple, apart, hgap⟩ := h
  obtain ⟨x, y, z, hpieces, -⟩ := htriple.pieces_append apart
  have hrest := List.length_pos_iff.mpr (mt (pieces_eq_nil_iff rest).mp hgap)
  rw [hcs, hpieces, List.length_cons, List.length_cons, List.length_cons]
  omega

theorem readVector?_eq_some_iff_or (text : String) (v : Vector3) :
    readVector? text = some v ↔ IsVectorText v text ∨ IsOverlong v text := by
  by_cases hne : text = ""
  · subst hne
    constructor
    · rintro ⟨⟩
      exact .inl (.inl ⟨rfl, rfl⟩)
    · rintro ((⟨-, rfl⟩ | h) | ⟨front, rest, hcs, h, -⟩)
      · rfl
      · exact absurd rfl h.ne_nil
      · exact absurd (List.append_eq_nil_iff.mp hcs.symm).1 h.ne_nil
  · rw [readVector?_eq_some_iff hne]
    constructor
    · rintro ⟨front, rest, hcs, h, apart⟩
      by_cases hgap : IsGap rest
      · exact .inl (.inr (hcs ▸ h.append_gap hgap))
      · exact .inr ⟨front, rest, hcs, h, apart, hgap⟩
    · rintro ((⟨rfl, -⟩ | h) | ⟨front, rest, hcs, h, apart, -⟩)
      · exact absurd rfl hne
      · exact ⟨text.toList, [], (List.append_nil _).symm, h, nofun⟩
      · exact ⟨front, rest, hcs, h, apart⟩

/-- Three numbers, or nothing for the zero vector, are read as that vector. So is a text that goes on after the third
number, which is no text for any vector, and these are the only texts that are read amiss. Numbers are all literals. -/
theorem vectors_read (text : String) :
    (∀ cs, (∃ x, read? cs = some x) ↔ IsLiteral cs) ∧
    (∀ v, readVector? text = some v ↔ IsVectorText v text ∨ IsOverlong v text) ∧
    (∀ v v', IsOverlong v text → ¬ IsVectorText v' text) ∧
    ((∀ v, readVector? text = some v ↔ IsVectorText v text) ↔ ∀ v, ¬ IsOverlong v text) := by
  have apart : ∀ v v', IsOverlong v text → ¬ IsVectorText v' text := by
    intro v v' hover hvector
    have hmore := hover.lt_length_pieces
    have hless := hvector.length_pieces_le
    omega
  refine ⟨exists_read?_iff, readVector?_eq_some_iff_or text, apart, fun exact v hover => ?_, fun short v => ?_⟩
  · have hread := (readVector?_eq_some_iff_or text v).mpr (.inr hover)
    exact apart v v hover ((exact v).mp hread)
  · rw [readVector?_eq_some_iff_or]
    exact or_iff_left (short v)

/-- A fourth number goes unnoticed. -/
theorem fourth_number_dropped :
    ∃ v, readVector? "1 2 3 4" = some v ∧ ∀ v', ¬ IsVectorText v' "1 2 3 4" := by
  refine ⟨⟨.ofInt 1, .ofInt 2, .ofInt 3⟩, by decide +kernel, fun v' h => ?_⟩
  exact absurd h.length_pieces_le (by decide +kernel)

end ScriptBridge.Conversion
