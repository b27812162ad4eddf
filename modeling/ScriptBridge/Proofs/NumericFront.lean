import Mathlib.Data.List.TakeWhile
import ScriptBridge.Number.Decimal

/-! The form of a number written in digits. The front that is taken off a text for a number is the longest one of this
form, and whatever has the form is read as a number. -/
namespace ScriptBridge.Number.Single

def Digits (cs : List Char) : Prop := ∀ c ∈ cs, c.isDigit = true

inductive IsSign : Bool → List Char → Prop where
  | none : IsSign false []
  | minus : IsSign true ['-']
  | plus : IsSign false ['+']

/-- Digits with at most one point. At least one digit stands before or after it. -/
inductive IsMantissa : List Char → Prop where
  | whole {ds : List Char} (hd : Digits ds) (hne : ds ≠ []) : IsMantissa ds
  | pointed {ds fs : List Char} (hd : Digits ds) (hne : ds ≠ []) (hf : Digits fs) : IsMantissa (ds ++ '.' :: fs)
  | fraction {fs : List Char} (hf : Digits fs) (hne : fs ≠ []) : IsMantissa ('.' :: fs)

/-- A power of ten, which may be missing. Its digits may not. -/
inductive IsExponent : List Char → Prop where
  | none : IsExponent []
  | power {mark : Char} {negative : Bool} {sign ds : List Char} (hm : mark = 'e' ∨ mark = 'E')
      (hs : IsSign negative sign) (hd : Digits ds) (hne : ds ≠ []) : IsExponent (mark :: (sign ++ ds))

def IsNumeral (cs : List Char) : Prop :=
  ∃ negative sign mantissa exponent, cs = sign ++ (mantissa ++ exponent) ∧ IsSign negative sign ∧
    IsMantissa mantissa ∧ IsExponent exponent

structure IsLongest (cs front : List Char) : Prop where
  isPrefix : front <+: cs
  numeral : IsNumeral front
  longest : ∀ p, p <+: cs → IsNumeral p → p.length ≤ front.length

inductive IsPoint : List Char → List Char → Prop where
  | none : IsPoint [] []
  | point {fs : List Char} (hf : Digits fs) : IsPoint ('.' :: fs) fs

private theorem isMantissa_iff (m : List Char) :
    IsMantissa m ↔ ∃ ds pt fs, m = ds ++ pt ∧ Digits ds ∧ IsPoint pt fs ∧ ¬ (ds = [] ∧ fs = []) := by
  constructor
  · rintro (⟨hd, hne⟩ | ⟨hd, hne, hf⟩ | ⟨hf, hne⟩)
    · exact ⟨m, [], [], (List.append_nil m).symm, hd, .none, fun h => hne h.1⟩
    · exact ⟨_, _, _, rfl, hd, .point hf, fun h => hne h.1⟩
    · exact ⟨[], '.' :: _, _, rfl, fun c hc => (nomatch hc), .point hf, fun h => hne h.2⟩
  · rintro ⟨ds, pt, fs, rfl, hd, hp, hne⟩
    by_cases hds : ds = []
    · subst hds
      cases hp with
      | none => exact absurd ⟨rfl, rfl⟩ hne
      | point hf => exact .fraction hf fun h => hne ⟨rfl, h⟩
    · cases hp with
      | none => exact (List.append_nil ds).symm ▸ .whole hd hds
      | point hf => exact .pointed hd hds hf

/-- The parts of a number in the order in which they are taken. -/
theorem isNumeral_iff (cs : List Char) :
    IsNumeral cs ↔ ∃ negative sign ds pt fs ex, cs = sign ++ (ds ++ (pt ++ ex)) ∧ IsSign negative sign ∧ Digits ds ∧
      IsPoint pt fs ∧ ¬ (ds = [] ∧ fs = []) ∧ IsExponent ex := by
  constructor
  · rintro ⟨negative, sign, m, ex, rfl, hs, hm, he⟩
    obtain ⟨ds, pt, fs, rfl, hd, hp, hne⟩ := (isMantissa_iff m).mp hm
    exact ⟨negative, sign, ds, pt, fs, ex, by rw [List.append_assoc ds], hs, hd, hp, hne, he⟩
  · rintro ⟨negative, sign, ds, pt, fs, ex, rfl, hs, hd, hp, hne, he⟩
    exact ⟨negative, sign, ds ++ pt, ex, by rw [List.append_assoc ds], hs,
      (isMantissa_iff _).mpr ⟨ds, pt, fs, rfl, hd, hp, hne⟩, he⟩

section Runs
variable {α : Type} {p : α → Bool} {xs ys u : List α}

theorem span_run (hx : ∀ x ∈ xs, p x = true) (hy : ∀ y ∈ ys.head?, ¬ p y = true) :
    (xs ++ ys).takeWhile p = xs ∧ (xs ++ ys).dropWhile p = ys := by
  rw [List.takeWhile_append_of_pos hx, List.dropWhile_append_of_pos hx]
  cases ys with
  | nil => exact ⟨List.append_nil xs, rfl⟩
  | cons y ys =>
    have hp : ¬ p y = true := hy y rfl
    rw [List.takeWhile_cons_of_neg hp, List.dropWhile_cons_of_neg hp, List.append_nil]
    exact ⟨rfl, rfl⟩

private theorem head?_append_left (hne : xs ≠ []) (t : List α) : (xs ++ t).head? = xs.head? := by
  cases xs with
  | nil => exact absurd rfl hne
  | cons x xs => rfl

/-- A front that is a run lies in the run that stands there. -/
theorem prefix_takeWhile (hx : ∀ x ∈ xs, p x = true) (h : xs <+: u) : xs <+: u.takeWhile p := by
  obtain ⟨t, rfl⟩ := h
  rw [List.takeWhile_append_of_pos hx]
  exact List.prefix_append _ _

/-- A front that goes on behind a run has all of the run that stands there. -/
theorem prefix_run (hx : ∀ x ∈ xs, p x = true) (hy : ∀ y ∈ ys.head?, ¬ p y = true) (hne : ys ≠ [])
    (h : xs ++ ys <+: u) : xs = u.takeWhile p ∧ ys <+: u.dropWhile p := by
  obtain ⟨t, rfl⟩ := h
  rw [← head?_append_left hne t] at hy
  rw [List.append_assoc, (span_run hx hy).1, (span_run hx hy).2]
  exact ⟨rfl, List.prefix_append _ _⟩

end Runs

def Bare (cs : List Char) : Prop := ∀ c ∈ cs.head?, c ≠ '-' ∧ c ≠ '+'

theorem takeSign_bare {cs : List Char} (h : Bare cs) : takeSign cs = (false, cs) := by
  unfold takeSign
  split
  · exact absurd rfl (h _ rfl).1
  · exact absurd rfl (h _ rfl).2
  · rfl

theorem signText_bare {cs : List Char} (h : Bare cs) : signText cs = [] := by
  unfold signText
  split
  · exact absurd rfl (h _ rfl).1
  · exact absurd rfl (h _ rfl).2
  · rfl

theorem takeSign_append {negative : Bool} {sign cs : List Char} (hs : IsSign negative sign) (h : Bare cs) :
    takeSign (sign ++ cs) = (negative, cs) := by
  cases hs with
  | none => exact takeSign_bare h
  | minus | plus => rfl

theorem signText_append (cs : List Char) : signText cs ++ (takeSign cs).2 = cs := by
  unfold signText takeSign
  split <;> rfl

theorem isSign_signText (cs : List Char) : IsSign (takeSign cs).1 (signText cs) := by
  unfold signText takeSign
  split
  · exact .minus
  · exact .plus
  · exact .none

private theorem prefix_sign {negative : Bool} {sign xs u : List Char} (hs : IsSign negative sign) (hx : Bare xs)
    (hne : xs ≠ []) (h : sign ++ xs <+: u) : sign = signText u ∧ xs <+: (takeSign u).2 := by
  obtain ⟨t, rfl⟩ := h
  cases hs with
  | none =>
    have hb : Bare (xs ++ t) := by
      rw [Bare, head?_append_left hne]
      exact hx
    rw [List.nil_append, signText_bare hb, takeSign_bare hb]
    exact ⟨rfl, List.prefix_append _ _⟩
  | minus | plus => exact ⟨rfl, List.prefix_append _ _⟩

theorem Digits.bare {ds : List Char} (hd : Digits ds) : Bare ds := by
  intro c hc
  have hdigit := hd c (List.mem_of_mem_head? hc)
  constructor <;> rintro rfl <;> exact absurd hdigit (by decide)

theorem digits_takeWhile (cs : List Char) : Digits (cs.takeWhile Char.isDigit) := fun _ hc =>
  List.mem_takeWhile_imp hc

theorem IsExponent.head {ex : List Char} (h : IsExponent ex) : ∀ c ∈ ex.head?, c = 'e' ∨ c = 'E' := by
  cases h with
  | none => exact fun c hc => nomatch hc
  | power hm =>
    rintro _ ⟨⟩
    exact hm

theorem exponentText_marked {mark : Char} (hm : mark = 'e' ∨ mark = 'E') {cs : List Char}
    (h : (takeSign cs).2.takeWhile Char.isDigit ≠ []) :
    exponentText (mark :: cs) = mark :: (signText cs ++ (takeSign cs).2.takeWhile Char.isDigit) :=
  if_pos ⟨hm, h⟩

theorem exponentText_unmarked {c : Char} {cs : List Char}
    (h : ¬ ((c = 'e' ∨ c = 'E') ∧ (takeSign cs).2.takeWhile Char.isDigit ≠ [])) : exponentText (c :: cs) = [] :=
  if_neg h

private theorem exponentText_isPrefix (cs : List Char) : exponentText cs <+: cs := by
  cases cs with
  | nil => exact List.prefix_rfl
  | cons c rest =>
    by_cases h : (c = 'e' ∨ c = 'E') ∧ (takeSign rest).2.takeWhile Char.isDigit ≠ []
    · have hrest : signText rest ++ (takeSign rest).2.takeWhile Char.isDigit <+: signText rest ++ (takeSign rest).2 :=
        (List.prefix_append_right_inj _).mpr (List.takeWhile_prefix _)
      rw [signText_append] at hrest
      rw [exponentText_marked h.1 h.2]
      exact (List.prefix_cons_inj c).mpr hrest
    · rw [exponentText_unmarked h]
      exact List.nil_prefix

private theorem isExponent_exponentText (cs : List Char) : IsExponent (exponentText cs) := by
  cases cs with
  | nil => exact .none
  | cons c rest =>
    by_cases h : (c = 'e' ∨ c = 'E') ∧ (takeSign rest).2.takeWhile Char.isDigit ≠ []
    · rw [exponentText_marked h.1 h.2]
      exact .power h.1 (isSign_signText rest) (digits_takeWhile _) h.2
    · rw [exponentText_unmarked h]
      exact .none

/-- No exponent that stands first is longer than the one taken. -/
theorem prefix_exponentText {ex cs : List Char} (h : IsExponent ex) (hp : ex <+: cs) : ex <+: exponentText cs := by
  cases h with
  | none => exact List.nil_prefix
  | @power mark _ sign ds hm hs hd hne =>
    obtain ⟨rest, rfl, hrest⟩ := List.cons_prefix_iff.mp hp
    obtain ⟨hsign, hds⟩ := prefix_sign hs hd.bare hne hrest
    have hrun := prefix_takeWhile hd hds
    rw [exponentText_marked hm fun h => hne (List.prefix_nil.mp (h ▸ hrun)), hsign]
    exact (List.prefix_cons_inj mark).mpr ((List.prefix_append_right_inj _).mpr hrun)

theorem IsExponent.not_digit {ex : List Char} (h : IsExponent ex) : ∀ c ∈ ex.head?, ¬ c.isDigit = true := by
  intro c hc
  rcases h.head c hc with rfl | rfl <;> decide

theorem takeFraction_unpointed {cs : List Char} (h : ∀ c ∈ cs.head?, c ≠ '.') : takeFraction cs = ([], cs) := by
  unfold takeFraction
  split
  · exact absurd rfl (h _ rfl)
  · rfl

theorem fractionText_unpointed {cs : List Char} (h : ∀ c ∈ cs.head?, c ≠ '.') : fractionText cs = [] := by
  unfold fractionText
  split
  · exact absurd rfl (h _ rfl)
  · rfl

private theorem IsExponent.unpointed {ex : List Char} (h : IsExponent ex) : ∀ c ∈ ex.head?, c ≠ '.' := by
  intro c hc
  rcases h.head c hc with rfl | rfl <;> decide

private theorem takeFraction_append {pt fs ex : List Char} (hp : IsPoint pt fs) (he : IsExponent ex) :
    takeFraction (pt ++ ex) = (fs, ex) := by
  cases hp with
  | none => exact takeFraction_unpointed he.unpointed
  | point hf =>
    obtain ⟨htake, hdrop⟩ := span_run hf he.not_digit
    exact Prod.ext htake hdrop

theorem fractionText_append (cs : List Char) : fractionText cs ++ (takeFraction cs).2 = cs := by
  unfold fractionText takeFraction
  split
  · exact congrArg ('.' :: ·) List.takeWhile_append_dropWhile
  · rfl

theorem isPoint_fractionText (cs : List Char) : IsPoint (fractionText cs) (takeFraction cs).1 := by
  unfold fractionText takeFraction
  split
  · exact .point (digits_takeWhile _)
  · exact .none

/-- What follows the whole digits of a number stays within what is taken there. -/
theorem prefix_fractionText {pt fs ex cs : List Char} (hp : IsPoint pt fs) (he : IsExponent ex)
    (h : pt ++ ex <+: cs) : pt ++ ex <+: fractionText cs ++ exponentText (takeFraction cs).2 := by
  cases hp with
  | none =>
    rw [List.nil_append] at h ⊢
    by_cases hne : ex = []
    · rw [hne]
      exact List.nil_prefix
    · have hc : ∀ c ∈ cs.head?, c ≠ '.' := by
        obtain ⟨t, rfl⟩ := h
        rw [head?_append_left hne]
        exact he.unpointed
      rw [fractionText_unpointed hc, takeFraction_unpointed hc]
      exact prefix_exponentText he h
  | point hf =>
    obtain ⟨rest, rfl, (hrest : fs ++ ex <+: rest)⟩ := List.cons_prefix_iff.mp h
    refine (List.prefix_cons_inj '.').mpr ?_
    change fs ++ ex <+: rest.takeWhile Char.isDigit ++ exponentText (rest.dropWhile Char.isDigit)
    by_cases hne : ex = []
    · subst hne
      rw [List.append_nil] at hrest ⊢
      exact (prefix_takeWhile hf hrest).trans (List.prefix_append _ _)
    · obtain ⟨hrun, hex⟩ := prefix_run hf he.not_digit hne hrest
      rw [hrun]
      exact (List.prefix_append_right_inj _).mpr (prefix_exponentText he hex)

/-- What stands behind the digits of a number does not go on with a digit. -/
theorem IsPoint.not_digit {pt fs ex : List Char} (hp : IsPoint pt fs) (he : IsExponent ex) :
    ∀ c ∈ (pt ++ ex).head?, ¬ c.isDigit = true := by
  cases hp with
  | none => exact he.not_digit
  | point _ =>
    rintro _ ⟨⟩
    decide

private theorem bare_unsigned {ds pt fs ex : List Char} (hd : Digits ds) (hp : IsPoint pt fs) (he : IsExponent ex) :
    Bare (ds ++ (pt ++ ex)) := by
  by_cases hne : ds = []
  · subst hne
    cases hp with
    | none =>
      intro c hc
      rcases he.head c hc with rfl | rfl <;> decide
    | point _ =>
      rintro _ ⟨⟩
      decide
  · rw [Bare, head?_append_left hne]
    exact hd.bare

def wholeDigits (cs : List Char) : List Char := (takeSign cs).2.takeWhile Char.isDigit

def afterWhole (cs : List Char) : List Char := (takeSign cs).2.dropWhile Char.isDigit

theorem numericFront_eq {cs : List Char} (h : ¬ (wholeDigits cs = [] ∧ (takeFraction (afterWhole cs)).1 = [])) :
    numericFront cs = signText cs ++ (wholeDigits cs ++ (fractionText (afterWhole cs) ++
      exponentText (takeFraction (afterWhole cs)).2)) := by
  rw [← List.append_assoc, ← List.append_assoc]
  exact if_neg h

theorem numericFront_eq_nil {cs : List Char} (h : wholeDigits cs = [] ∧ (takeFraction (afterWhole cs)).1 = []) :
    numericFront cs = [] :=
  if_pos h

/-- The front taken is a front of the text. -/
theorem numericFront_isPrefix (cs : List Char) : numericFront cs <+: cs := by
  by_cases h : wholeDigits cs = [] ∧ (takeFraction (afterWhole cs)).1 = []
  · rw [numericFront_eq_nil h]
    exact List.nil_prefix
  · have htail : fractionText (afterWhole cs) ++ exponentText (takeFraction (afterWhole cs)).2 <+: afterWhole cs := by
      have := (List.prefix_append_right_inj (fractionText (afterWhole cs))).mpr
        (exponentText_isPrefix (takeFraction (afterWhole cs)).2)
      rwa [fractionText_append] at this
    have hbody : wholeDigits cs ++ (fractionText (afterWhole cs) ++ exponentText (takeFraction (afterWhole cs)).2) <+:
        (takeSign cs).2 := by
      have := (List.prefix_append_right_inj (wholeDigits cs)).mpr htail
      rwa [wholeDigits, afterWhole, List.takeWhile_append_dropWhile] at this
    have := (List.prefix_append_right_inj (signText cs)).mpr hbody
    rwa [← numericFront_eq h, signText_append] at this

private theorem isNumeral_numericFront {cs : List Char} (h : numericFront cs ≠ []) : IsNumeral (numericFront cs) := by
  by_cases hempty : wholeDigits cs = [] ∧ (takeFraction (afterWhole cs)).1 = []
  · exact absurd (numericFront_eq_nil hempty) h
  · exact (isNumeral_iff _).mpr ⟨_, _, _, _, _, _, numericFront_eq hempty, isSign_signText cs, digits_takeWhile _,
      isPoint_fractionText _, hempty, isExponent_exponentText _⟩

private theorem prefix_takeFraction {pt fs ex cs : List Char} (hp : IsPoint pt fs) (h : pt ++ ex <+: cs) :
    fs <+: (takeFraction cs).1 := by
  cases hp with
  | none => exact List.nil_prefix
  | point hf =>
    obtain ⟨rest, rfl, (hrest : fs ++ ex <+: rest)⟩ := List.cons_prefix_iff.mp h
    exact prefix_takeWhile hf ((List.prefix_append fs ex).trans hrest)

private theorem unsigned_ne_nil {ds pt fs ex : List Char} (hp : IsPoint pt fs) (hne : ¬ (ds = [] ∧ fs = [])) :
    ds ++ (pt ++ ex) ≠ [] := by
  intro hnil
  obtain ⟨rfl, hnil⟩ := List.append_eq_nil_iff.mp hnil
  cases hp with
  | none => exact hne ⟨rfl, rfl⟩
  | point hf => cases hnil

theorem IsNumeral.ne_nil {cs : List Char} (h : IsNumeral cs) : cs ≠ [] := by
  obtain ⟨negative, sign, ds, pt, fs, ex, rfl, -, -, hp, hne, -⟩ := (isNumeral_iff cs).mp h
  exact List.append_ne_nil_of_right_ne_nil _ (unsigned_ne_nil hp hne)

/-- A number is written in digits and five marks. -/
theorem IsNumeral.forall_mem {P : Char → Prop} (digit : ∀ c, c.isDigit = true → P c)
    (marks : P '-' ∧ P '+' ∧ P '.' ∧ P 'e' ∧ P 'E') {cs : List Char} (h : IsNumeral cs) : ∀ c ∈ cs, P c := by
  obtain ⟨minus, plus, point, small, big⟩ := marks
  have digits {ds : List Char} (hd : Digits ds) : ∀ c ∈ ds, P c := fun c hc => digit c (hd c hc)
  have signs {negative : Bool} {sign : List Char} (hs : IsSign negative sign) : ∀ c ∈ sign, P c := by
    cases hs with
    | none => exact fun c hc => nomatch hc
    | minus => exact List.forall_mem_singleton.mpr minus
    | plus => exact List.forall_mem_singleton.mpr plus
  obtain ⟨negative, sign, ds, pt, fs, ex, rfl, hs, hd, hp, -, he⟩ := (isNumeral_iff cs).mp h
  rw [List.forall_mem_append, List.forall_mem_append, List.forall_mem_append]
  refine ⟨signs hs, digits hd, ?_, ?_⟩
  · cases hp with
    | none => exact fun c hc => nomatch hc
    | point hf => exact List.forall_mem_cons.mpr ⟨point, digits hf⟩
  · cases he with
    | none => exact fun c hc => nomatch hc
    | power hm hs hd =>
      refine List.forall_mem_cons.mpr ⟨?_, List.forall_mem_append.mpr ⟨signs hs, digits hd⟩⟩
      rcases hm with rfl | rfl
      · exact small
      · exact big

/-- No front that has the form of a number is longer than the one taken. -/
theorem prefix_numericFront {p cs : List Char} (hn : IsNumeral p) (h : p <+: cs) : p <+: numericFront cs := by
  obtain ⟨negative, sign, ds, pt, fs, ex, rfl, hs, hd, hp, hne, he⟩ := (isNumeral_iff p).mp hn
  have hbody : ds ++ (pt ++ ex) ≠ [] := unsigned_ne_nil hp hne
  obtain ⟨rfl, hunsigned⟩ := prefix_sign hs (bare_unsigned hd hp he) hbody h
  by_cases htail : pt ++ ex = []
  · rw [htail, List.append_nil] at hunsigned hbody
    have hrun : ds <+: wholeDigits cs := prefix_takeWhile hd hunsigned
    rw [numericFront_eq fun hempty => hbody (List.prefix_nil.mp (hempty.1 ▸ hrun)), htail, List.append_nil]
    exact (List.prefix_append_right_inj _).mpr (hrun.trans (List.prefix_append _ _))
  · obtain ⟨hrun, hrest⟩ := prefix_run hd (hp.not_digit he) htail hunsigned
    have hempty : ¬ (wholeDigits cs = [] ∧ (takeFraction (afterWhole cs)).1 = []) := by
      rintro ⟨hwhole, hfraction⟩
      exact hne ⟨hrun.trans hwhole, List.prefix_nil.mp (hfraction ▸ prefix_takeFraction hp hrest)⟩
    rw [numericFront_eq hempty]
    refine (List.prefix_append_right_inj _).mpr ?_
    rw [hrun]
    exact (List.prefix_append_right_inj _).mpr (prefix_fractionText hp he hrest)

/-- If anything is taken, it is the longest front that has the form of a number. -/
theorem isLongest_numericFront {cs : List Char} (h : numericFront cs ≠ []) : IsLongest cs (numericFront cs) where
  isPrefix := numericFront_isPrefix cs
  numeral := isNumeral_numericFront h
  longest _ hp hn := (prefix_numericFront hn hp).length_le

example : numericFront "-.5e-3e+x".toList = "-.5e-3".toList ∧ numericFront "+.e1".toList = [] := by decide

theorem numericFront_of_isNumeral {cs : List Char} (h : IsNumeral cs) : numericFront cs = cs :=
  (numericFront_isPrefix cs).eq_of_length_le (prefix_numericFront h List.prefix_rfl).length_le

/-- A number is read off its parts: what its digits write without the point, scaled down by the digits behind it. -/
theorem read?_append {negative : Bool} {sign ds pt fs ex : List Char} (hs : IsSign negative sign) (hd : Digits ds)
    (hp : IsPoint pt fs) (hne : ¬ (ds = [] ∧ fs = [])) (he : IsExponent ex) :
    read? (sign ++ (ds ++ (pt ++ ex))) = (readExponent? ex).map fun exponent =>
      ofDecimal negative (decimalValue (ds ++ fs)) (exponent - fs.length) := by
  obtain ⟨hwhole, hrest⟩ := span_run hd (hp.not_digit he)
  rw [read?, takeSign_append hs (bare_unsigned hd hp he)]
  dsimp only
  rw [hwhole, hrest, takeFraction_append hp he]
  exact if_neg hne

theorem IsExponent.reads {ex : List Char} (h : IsExponent ex) : ∃ e, readExponent? ex = some e := by
  cases h with
  | none => exact ⟨0, rfl⟩
  | @power mark negative sign ds hm hs hd hne =>
    rw [readExponent?, takeSign_append hs hd.bare]
    exact ⟨_, if_pos ⟨hm, hne, List.all_eq_true.mpr hd⟩⟩

/-- Whatever has the form of a number is read as one. -/
theorem IsNumeral.reads {cs : List Char} (h : IsNumeral cs) : ∃ x, read? cs = some x := by
  obtain ⟨negative, sign, ds, pt, fs, ex, rfl, hs, hd, hp, hne, he⟩ := (isNumeral_iff cs).mp h
  obtain ⟨e, hread⟩ := he.reads
  rw [read?_append hs hd hp hne he, hread]
  exact ⟨_, rfl⟩

end ScriptBridge.Number.Single
