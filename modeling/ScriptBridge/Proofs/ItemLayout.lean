import ScriptBridge.Proofs.WholePhrases
import ScriptBridge.Source.Item

/-! What the signature of an item says about its tokens: which stand before its name, and how they declare each
parameter. -/
namespace ScriptBridge.Source

open Text (ReaderOf repeatUntil repeatUntil_end repeatUntil_more consumed)

theorem consumed_append (taken rest : List Token) : consumed (taken ++ rest) rest = taken := by
  simp [consumed]

inductive Listed {α : Type} (declares : α → List Token → Prop) : List α → List Token → Prop where
  | nil : Listed declares [] []
  | last {a : α} {ts : List Token} : declares a ts → Listed declares [a] ts
  | cons {a : α} {as : List α} {ts rest : List Token} {joined : Bool} : declares a ts → Listed declares as rest →
      Listed declares (a :: as) (ts ++ .mark ',' joined :: rest)

theorem Listed.closed {α : Type} {declares : α → List Token → Prop} {as : List α} {ts : List Token}
    (h : Listed (fun a ts => Closed ts ∧ declares a ts) as ts) : Closed ts := by
  induction h with
  | nil => exact .nil
  | last hd => exact hd.1
  | cons hd _ ih => exact hd.1.append (.token rfl ih)

theorem Listed.exists_declares {α : Type} {declares : α → List Token → Prop} {as : List α} {ts : List Token}
    (h : Listed declares as ts) : ∀ a ∈ as, ∃ part, declares a part := by
  induction h with
  | nil => simp
  | last declared => simpa using ⟨_, declared⟩
  | cons declared _ ih => exact List.forall_mem_cons.mpr ⟨⟨_, declared⟩, ih⟩

/-- Where no item is missing, those that there are are listed. -/
theorem Listed.reduceOption {α : Type} {declares : α → List Token → Prop} {as : List (Option α)} {ts : List Token}
    (h : Listed (fun o ts => Closed ts ∧ ∀ a, o = some a → declares a ts) as ts) (complete : none ∉ as) :
    Listed declares as.reduceOption ts := by
  induction h with
  | nil => exact .nil
  | @last o _ declared =>
    cases o with
    | none => simp at complete
    | some a => exact .last (declared.2 a rfl)
  | @cons o as _ _ _ declared _ ih =>
    cases o with
    | none => simp at complete
    | some a => exact .cons (declared.2 a rfl) (ih fun missing => complete (List.mem_cons_of_mem _ missing))

private def readListed {α : Type} (item : ReaderOf Token α) (stop : Skip) : ReaderOf Token (Option α) := fun ts =>
  if (stop ts).isSome then some (none, ts)
  else (item ts).bind fun (a, rest) =>
    if (stop rest).isSome then some (some a, rest) else (afterMark ',' rest).bind fun rest => some (some a, rest)

private theorem readListed_cases {α : Type} {item : ReaderOf Token α} {stop : Skip} {ts rest : List Token}
    {o : Option α} (h : readListed item stop ts = some (o, rest)) :
    o = none ∧ rest = ts ∨ (stop ts).isSome = false ∧ ∃ a mid, o = some a ∧ item ts = some (a, mid) ∧
      ((stop mid).isSome ∧ rest = mid ∨ ∃ joined, mid = .mark ',' joined :: rest) := by
  unfold readListed at h
  split at h
  · cases h
    exact .inl ⟨rfl, rfl⟩
  · rename_i going
    obtain ⟨⟨a, mid⟩, read, h⟩ := Option.bind_eq_some_iff.mp h
    refine .inr ⟨by simpa using going, a, mid, ?_⟩
    dsimp only at h
    split at h
    · cases h
      exact ⟨rfl, read, .inl ⟨‹_›, rfl⟩⟩
    · obtain ⟨after, comma, h⟩ := Option.bind_eq_some_iff.mp h
      cases h
      exact ⟨rfl, read, .inr (afterMark_eq_some_iff.mp comma)⟩

/-- Where the list has ended nothing more is read. -/
private theorem listed_of_repeatUntil {α : Type} {item : ReaderOf Token α} {stop : Skip}
    {declares : α → List Token → Prop}
    (h : ∀ ts a rest, item ts = some (a, rest) → ∃ taken, ts = taken ++ rest ∧ declares a taken) {ts last : List Token}
    {as : List α} (repeated : repeatUntil (readListed item stop) ts = some (as, last)) :
    ∃ inside, ts = inside ++ last ∧ Listed declares as inside ∧ ((stop ts).isSome → as = [] ∧ inside = []) := by
  fun_induction repeatUntil (readListed item stop) ts generalizing as with
  | case1 => cases repeated
  | case2 ts rest step =>
    cases repeated
    obtain ⟨-, rfl⟩ | ⟨-, _, _, he, -⟩ := readListed_cases step
    · exact ⟨[], rfl, .nil, fun _ => ⟨rfl, rfl⟩⟩
    · cases he
  | case3 => cases repeated
  | case4 ts a rest step shorter others last hr ih =>
    cases repeated
    obtain ⟨he, -⟩ | ⟨going, _, mid, he, read, next⟩ := readListed_cases step
    · cases he
    · cases he
      have not_ended (stopped : (stop ts).isSome) : False := Bool.false_ne_true (going.symm.trans stopped)
      obtain ⟨inside, rfl, listed, ended⟩ := ih hr
      obtain ⟨taken, rfl, declared⟩ := h _ _ _ read
      obtain ⟨stops, rfl⟩ | ⟨joined, rfl⟩ := next
      · obtain ⟨rfl, rfl⟩ := ended stops
        exact ⟨taken, rfl, .last declared, fun stopped => (not_ended stopped).elim⟩
      · refine ⟨taken ++ .mark ',' joined :: inside, by simp, .cons declared listed, fun stopped => ?_⟩
        exact (not_ended stopped).elim
  | case5 => cases repeated

/-- If each item is declared by the tokens that were read, so is the list of them. -/
theorem listed_of_readItems {α : Type} {item : ReaderOf Token α} {stop : Skip} {declares : α → List Token → Prop}
    (h : ∀ ts a rest, item ts = some (a, rest) → ∃ taken, ts = taken ++ rest ∧ declares a taken) {ts rest : List Token}
    {as : List α} (read : readItems item stop ts = some (as, rest)) :
    ∃ inside last, ts = inside ++ last ∧ Listed declares as inside ∧ stop last = some rest := by
  obtain ⟨⟨_, last⟩, repeated, read⟩ := Option.bind_eq_some_iff.mp read
  obtain ⟨_, ends, same⟩ := Option.bind_eq_some_iff.mp read
  cases same
  obtain ⟨inside, rfl, listed, -⟩ := listed_of_repeatUntil h repeated
  exact ⟨inside, last, rfl, listed, ends⟩

def borrowedSelf (joined : Bool) (lifetime : Option String) (isMutable : Bool) : List Token :=
  .mark '&' joined :: (lifetime.map Token.lifetime).toList ++
    (if isMutable then [.word false "mut"] else []) ++ [.word false "self"]

inductive Parameter.DeclaredBy : Parameter → List Token → Prop where
  | borrowed {attributes : List Token} {joined : Bool} {lifetime : Option String} {isMutable : Bool} :
      DeclaredBy (.receiver ⟨true, isMutable, false⟩) (attributes ++ borrowedSelf joined lifetime isMutable)
  | owned {isMutable hasType : Bool} {ts : List Token} : DeclaredBy (.receiver ⟨false, isMutable, hasType⟩) ts
  | typed {pattern type : List Token} : Closed type → DeclaredBy (.typed type) (pattern ++ type)

private theorem optionally_afterLifetime (ts : List Token) :
    ∃ lifetime : Option String, ts = (lifetime.map Token.lifetime).toList ++ optionally afterLifetime ts := by
  unfold optionally afterLifetime
  split
  · exact ⟨some _, rfl⟩
  · exact ⟨none, rfl⟩

private theorem optionally_afterKeyword (keyword : String) (ts : List Token) :
    ts = (if (afterKeyword keyword ts).isSome then [.word false keyword] else []) ++
      optionally (afterKeyword keyword) ts := by
  unfold optionally
  cases h : afterKeyword keyword ts with
  | none => rfl
  | some rest => exact afterKeyword_eq_some_iff.mp h

section
variable {type : Skip} (ht : Whole 0 type)
include ht

private theorem readReceiver_whole : ReadsWhole 0 (readReceiver type) := by
  intro ts
  unfold readReceiver
  extract_lets borrowed rest isMutable
  have hr : Took 0 ts rest := by
    unfold rest borrowed
    cases h : afterMark '&' ts with
    | none => simp
    | some rest => simpa using ((afterMark_whole '&').took h).andThen (optionally_took afterLifetime_whole rest)
  refine .andThen hr (.andThen (optionally_took (afterKeyword_whole "mut") rest) ?_)
  refine .bind (afterKeyword_whole "self" _) fun rest => ?_
  split
  · rename_i start h
    refine .andThen (?_ : Took 0 rest start) (.bind (ht start) fun rest => by simp)
    split at h
    · cases h
    · exact (afterMark_whole ':').took h
  · simp

private theorem declaredBy_of_readReceiver {ts rest : List Token} {r : Receiver}
    (read : readReceiver type ts = some (r, rest)) (attributes : List Token) :
    ∃ taken, ts = taken ++ rest ∧ Parameter.DeclaredBy (.receiver r) (attributes ++ taken) := by
  obtain ⟨taken, hts, -⟩ := ((readReceiver_whole ht).took read).exists_closed
  cases h : afterMark '&' ts with
  | none =>
    simp only [readReceiver, h, Option.map_none, Option.getD_none, Option.isSome_none, Option.bind_eq_bind,
      Option.bind_eq_some_iff, Bool.false_eq_true, if_false] at read
    obtain ⟨start, -, read⟩ := read
    split at read
    · simp only [Option.bind_eq_some_iff] at read
      obtain ⟨last, -, he⟩ := read
      cases he
      exact ⟨taken, hts, .owned⟩
    · cases read
      exact ⟨taken, hts, .owned⟩
  | some start =>
    simp only [readReceiver, h, Option.map_some, Option.getD_some, Option.isSome_some, if_true, Option.bind_eq_bind,
      Option.bind_eq_some_iff] at read
    obtain ⟨last, self, he⟩ := read
    cases he
    obtain ⟨joined, rfl⟩ := afterMark_eq_some_iff.mp h
    obtain ⟨lifetime, hl⟩ := optionally_afterLifetime start
    have hm := optionally_afterKeyword "mut" (optionally afterLifetime start)
    rw [afterKeyword_eq_some_iff.mp self] at hm
    generalize (afterKeyword "mut" (optionally afterLifetime start)).isSome = isMutable at hm ⊢
    refine ⟨borrowedSelf joined lifetime isMutable, ?_, .borrowed⟩
    rw [hl, hm]
    simp [borrowedSelf]

omit ht in
/-- What stands for the type of a parameter: dots or a type. -/
theorem readTyped_cases {start rest : List Token} {o : Option Parameter}
    (read : (match afterMarks dots start with
      | some rest => some (none, rest)
      | none => (type start).bind fun rest => some (some (.typed (consumed start rest)), rest)) = some (o, rest)) :
    o = none ∧ Took 0 start rest ∨ o = some (.typed (consumed start rest)) ∧ type start = some rest := by
  split at read
  · cases read
    exact .inl ⟨rfl, (afterMarks_whole _).took ‹_›⟩
  · obtain ⟨rest, taken, he⟩ := Option.bind_eq_some_iff.mp read
    cases he
    exact .inr ⟨rfl, taken⟩

omit ht in
/-- What a parameter is read from: attributes and a pattern, if there are any, and then a receiver or a type. -/
theorem readParameter_cases {ts rest : List Token} {o : Option Parameter}
    (read : readParameter type ts = some (o, rest)) :
    ∃ start, Took 0 ts start ∧ (o = none ∧ Took 0 start rest ∨
      (∃ r, o = some (.receiver r) ∧ readReceiver type start = some (r, rest)) ∨
      o = some (.typed (consumed start rest)) ∧ type start = some rest) := by
  simp only [readParameter, Option.bind_eq_bind] at read
  obtain ⟨mid, attributes, read⟩ := Option.bind_eq_some_iff.mp read
  have hm : Took 0 ts mid := afterAttributes_whole.took attributes
  split at read
  · cases read
    exact ⟨mid, hm, .inl ⟨rfl, (afterMarks_whole _).took ‹_›⟩⟩
  · cases read
    exact ⟨mid, hm, .inr (.inl ⟨_, rfl, ‹_›⟩)⟩
  · split at read
    · exact ⟨mid, hm, (readTyped_cases read).imp_right Or.inr⟩
    · obtain ⟨named, pattern, read⟩ := Option.bind_eq_some_iff.mp read
      obtain ⟨start, colon, read⟩ := Option.bind_eq_some_iff.mp read
      have hs : Took 0 mid start := ((afterPattern_whole _).took pattern).andThen ((afterMark_whole ':').took colon)
      exact ⟨start, hm.andThen hs, (readTyped_cases read).imp_right Or.inr⟩

private theorem declared_of_readParameter {ts rest : List Token} {o : Option Parameter}
    (read : readParameter type ts = some (o, rest)) :
    ∃ taken, ts = taken ++ rest ∧ Closed taken ∧ ∀ p, o = some p → p.DeclaredBy taken := by
  obtain ⟨start, front, cases⟩ := readParameter_cases read
  obtain ⟨pattern, rfl, closed⟩ := front.exists_closed
  obtain ⟨rfl, more⟩ | ⟨r, rfl, receiver⟩ | ⟨rfl, behind⟩ := cases
  · obtain ⟨taken, rfl, whole⟩ := more.exists_closed
    exact ⟨pattern ++ taken, (List.append_assoc ..).symm, closed.append whole, by rintro p ⟨⟩⟩
  · have whole := (readReceiver_whole ht).took receiver
    obtain ⟨taken, rfl, declared⟩ := declaredBy_of_readReceiver ht receiver pattern
    exact ⟨pattern ++ taken, (List.append_assoc ..).symm, closed.append whole.toClosed, by rintro p ⟨⟩; exact declared⟩
  · obtain ⟨taken, rfl, whole⟩ := (ht.took behind).exists_closed
    rw [consumed_append]
    exact ⟨pattern ++ taken, (List.append_assoc ..).symm, closed.append whole, by rintro p ⟨⟩; exact .typed whole⟩

private theorem readParameters_laid {ts rest : List Token} {parameters : List Parameter} {isVariadic : Bool}
    (read : readParameters type ts = some ((parameters, isVariadic), rest)) :
    ∃ inside, ts = inside ++ .closing .round :: rest ∧ Closed inside ∧
      (isVariadic = false → Listed Parameter.DeclaredBy parameters inside) ∧
      ∀ p ∈ parameters.tail, p.receiver? = none := by
  obtain ⟨⟨all, last⟩, items, checked⟩ := Option.bind_eq_some_iff.mp read
  obtain ⟨inside, mid, rfl, listed, ends⟩ := listed_of_readItems (fun _ _ _ => declared_of_readParameter ht) items
  obtain rfl := afterClosing_eq_some_iff.mp ends
  dsimp only at checked
  split at checked
  · cases checked
  · rename_i fits
    cases checked
    refine ⟨inside, rfl, listed.closed, fun fixed => listed.reduceOption ?_, by simpa using (not_or.mp fits).2⟩
    simpa using fixed

end

/-- The tokens of an item: those before its name, among them its visibility, and the parameters in parentheses, each as
it is declared. What follows the parameters is not told apart. -/
def Item.Laid (item : Item) : Prop :=
  ∃ attributes qualifiers generics inside after,
    item.tokens = attributes ++ item.visibility ++ qualifiers ++
      .word false "fn" :: .word item.signature.name.raw item.signature.name.name :: generics ++
      .opening .round :: inside ++ .closing .round :: after ∧
    Closed inside ∧ (item.signature.isVariadic = false → Listed Parameter.DeclaredBy item.signature.parameters inside)

private theorem afterDefault_whole {value : Skip} (h : Whole 0 value) : Whole 0 (afterDefault value) := by
  intro ts
  unfold afterDefault
  split
  · simp
  · rename_i equals
    exact .andThen ((afterMark_whole '=').took equals) (h _)

private theorem afterGenericParam_whole {p : Phrases} (w : p.AreWhole) : Whole 0 (afterGenericParam p) := by
  refine fun ts => .bind (afterAttributes_whole ts) fun ts => ?_
  split
  · exact afterLifetimeParam_whole _
  · refine .andThen .word (.bind (afterName_whole _) fun rest => .bind (afterMark_whole ':' rest) fun rest => ?_)
    exact .bind (w.type true rest) (afterDefault_whole afterConstantOrBlock_whole)
  · refine .bind (.orElse (afterName_whole _) (afterKeyword_whole "_" _)) fun rest => ?_
    extract_lets afterBounds
    have default (rest : List Token) : Leaves id 0 rest (afterBounds rest) := afterDefault_whole (w.type true) rest
    split
    · exact default rest
    · rename_i colon
      exact .andThen ((afterMark_whole ':').took colon) (.bind (afterSum_whole w.bound _) default)

private theorem readGenerics_whole {p : Phrases} (w : p.AreWhole) : ReadsWhole 0 (readGenerics p) := by
  intro ts
  unfold readGenerics
  split
  · simp
  · rename_i angle
    refine .andThen ((afterMark_whole '<').took angle) (readItems_whole (fun ts => ?_) (afterMark_whole '>') _)
    exact .valued (afterGenericParam_whole w ts)

private theorem readSignature_laid {ts rest : List Token} {s : Signature} (read : readSignature ts = some (s, rest)) :
    ∃ qualifiers generics inside after,
      ts = qualifiers ++ .word false "fn" :: .word s.name.raw s.name.name :: generics ++
        .opening .round :: inside ++ .closing .round :: after ∧
      Closed inside ∧ (s.isVariadic = false → Listed Parameter.DeclaredBy s.parameters inside) ∧
      ∀ p ∈ s.parameters.tail, p.receiver? = none := by
  simp only [readSignature, Option.bind_eq_bind] at read
  obtain ⟨start, fn, read⟩ := Option.bind_eq_some_iff.mp read
  have front := (optionally_took (afterKeyword_whole "const") ts).andThen
    ((optionally_took (afterKeyword_whole "async") _).andThen
      ((optionally_took (afterKeyword_whole "unsafe") _).andThen (optionally_took afterConvention_whole _)))
  obtain ⟨qualifiers, hq, -⟩ := front.exists_closed
  rw [afterKeyword_eq_some_iff.mp fn] at hq
  have types := Phrases.phrases_whole (ts.length + 1)
  split at read
  · rename_i raw name rest
    split at read
    · obtain ⟨⟨generics, _⟩, angles, read⟩ := Option.bind_eq_some_iff.mp read
      obtain ⟨_, parenthesis, read⟩ := Option.bind_eq_some_iff.mp read
      obtain ⟨⟨⟨parameters, isVariadic⟩, after⟩, parametersRead, read⟩ := Option.bind_eq_some_iff.mp read
      obtain ⟨_, -, read⟩ := Option.bind_eq_some_iff.mp read
      obtain ⟨_, -, read⟩ := Option.bind_eq_some_iff.mp read
      cases read
      obtain ⟨generics, rfl, -⟩ := ((readGenerics_whole types).took angles).exists_closed
      obtain rfl := afterOpening_eq_some_iff.mp parenthesis
      obtain ⟨inside, rfl, closed, listed, later⟩ := readParameters_laid (types.type true) parametersRead
      exact ⟨qualifiers, generics, inside, after, by simp [hq], closed, listed, later⟩
    · cases read
  · cases read

theorem afterMarks_pathMark_eq_some_iff {ts rest : List Token} :
    afterMarks pathMark ts = some rest ↔ ∃ joined, ts = .mark ':' true :: .mark ':' joined :: rest := by
  constructor
  · intro h
    unfold afterMarks pathMark at h
    split at h
    · simp at *
    · simp at *
    · rename_i he
      obtain ⟨rfl, rfl⟩ := List.cons.inj he
      obtain ⟨rfl, colon⟩ := Option.ite_none_right_eq_some.mp h
      obtain ⟨joined, rfl⟩ := afterMark_eq_some_iff.mp colon
      exact ⟨joined, rfl⟩
    · cases h
  · rintro ⟨joined, rfl⟩
    simp [pathMark, afterMarks, afterMark]

private theorem word_of_afterPlainPart {ts rest : List Token} (h : afterPlainPart ts = some rest) :
    ∃ raw name, ts = .word raw name :: rest ∧ ∀ other, afterPlainPart (.word raw name :: other) = some other := by
  unfold afterPlainPart at h
  split at h
  · rename_i t _
    obtain ⟨part, same⟩ := Option.ite_none_right_eq_some.mp h
    obtain rfl := Option.some.inj same
    cases t with
    | word raw name => exact ⟨raw, name, rfl, fun other => if_pos part⟩
    | _ => simp [isName] at part
  · cases h

private def readPlainPart : ReaderOf Token (Option Unit) := fun ts =>
  match afterMarks pathMark ts with
  | none => some (none, ts)
  | some rest => (afterPlainPart rest).map (some (), ·)

private theorem readPlainParts_local {b : Bracket} {ts rest : List Token} {parts : List Unit}
    (h : repeatUntil readPlainPart ts = some (parts, .closing b :: rest)) :
    ∃ path, ts = path ++ .closing b :: rest ∧
      ∀ other, repeatUntil readPlainPart (path ++ .closing b :: other) = some (parts, .closing b :: other) := by
  fun_induction repeatUntil readPlainPart ts generalizing parts with
  | case1 => cases h
  | case2 ts last step =>
    cases h
    unfold readPlainPart at step
    split at step
    · cases step
      exact ⟨[], rfl, fun other => repeatUntil_end rfl⟩
    · simp at step
  | case3 => cases h
  | case4 ts _ mid step shorter parts last repeated ih =>
    cases h
    obtain ⟨path, rfl, further⟩ := ih repeated
    unfold readPlainPart at step
    split at step
    · cases step
    · rename_i marks
      obtain ⟨_, part, same⟩ := Option.map_eq_some_iff.mp step
      cases same
      obtain ⟨joined, rfl⟩ := afterMarks_pathMark_eq_some_iff.mp marks
      obtain ⟨raw, name, rfl, anywhere⟩ := word_of_afterPlainPart part
      refine ⟨.mark ':' true :: .mark ':' joined :: .word raw name :: path, rfl, fun other => ?_⟩
      refine repeatUntil_more () parts (path ++ .closing b :: other) ?_ (by simp; omega) (further other)
      simp [readPlainPart, afterMarks, pathMark, afterMark, anywhere]
  | case5 => cases h

/-- A path is read without a look at what follows the bracket behind it. -/
theorem afterPlainPath_local {b : Bracket} {ts rest : List Token} (h : afterPlainPath ts = some (.closing b :: rest)) :
    ∃ path, ts = path ++ .closing b :: rest ∧
      ∀ other, afterPlainPath (path ++ .closing b :: other) = some (.closing b :: other) := by
  obtain ⟨start, part, h⟩ := Option.bind_eq_some_iff.mp h
  obtain ⟨⟨parts, last⟩, repeated, same⟩ := Option.bind_eq_some_iff.mp h
  cases same
  obtain ⟨path, rfl, further⟩ := readPlainParts_local repeated
  obtain ⟨raw, name, first, anywhere⟩ := word_of_afterPlainPart part
  have read {ts other : List Token}
      (hts : optionally (afterMarks pathMark) ts = .word raw name :: (path ++ .closing b :: other)) :
      afterPlainPath ts = some (.closing b :: other) := by
    change ((afterPlainPart (optionally (afterMarks pathMark) ts)).bind fun rest =>
      (repeatUntil readPlainPart rest).bind fun read => some read.2) = _
    rw [hts, anywhere, Option.bind_some, further, Option.bind_some]
  unfold optionally at first
  cases marks : afterMarks pathMark ts with
  | none =>
    rw [marks] at first
    obtain rfl : ts = _ := first
    exact ⟨.word raw name :: path, rfl, fun other => read (by simp [optionally, afterMarks, pathMark])⟩
  | some start =>
    rw [marks] at first
    obtain rfl : start = _ := first
    obtain ⟨joined, rfl⟩ := afterMarks_pathMark_eq_some_iff.mp marks
    refine ⟨.mark ':' true :: .mark ':' joined :: .word raw name :: path, rfl, fun other => read ?_⟩
    simp [optionally, afterMarks, pathMark, afterMark]

inductive Visibility : List Token → Prop where
  | inherited : Visibility []
  | everywhere : Visibility [.word false "pub"]
  | scope {scope : String} : ["crate", "self", "super"].contains scope →
      Visibility [.word false "pub", .opening .round, .word false scope, .closing .round]
  | path {path : List Token} :
      (∀ other, afterPlainPath (path ++ .closing .round :: other) = some (.closing .round :: other)) →
      Visibility (.word false "pub" :: .opening .round :: .word false "in" :: path ++ [.closing .round])

private theorem visibility_of_afterVisibility {ts rest : List Token} (h : afterVisibility ts = some rest) :
    ∃ visibility, ts = visibility ++ rest ∧ Visibility visibility := by
  unfold afterVisibility at h
  split at h
  · cases h
    exact ⟨[], rfl, .inherited⟩
  · rename_i pub
    obtain rfl := afterKeyword_eq_some_iff.mp pub
    split at h
    · split at h
      · rename_i known
        cases h
        exact ⟨_, rfl, .scope known⟩
      · cases h
        exact ⟨_, rfl, .everywhere⟩
    · obtain ⟨mid, path, close⟩ := Option.bind_eq_some_iff.mp h
      obtain rfl := afterClosing_eq_some_iff.mp close
      obtain ⟨path, rfl, anywhere⟩ := afterPlainPath_local path
      exact ⟨_, by simp, .path anywhere⟩
    · cases h
      exact ⟨_, rfl, .everywhere⟩

/-- The visibility is read the same before every function. -/
theorem Visibility.read {visibility : List Token} (h : Visibility visibility) (rest : List Token) :
    afterVisibility (visibility ++ .word false "fn" :: rest) = some (.word false "fn" :: rest) := by
  cases h with
  | inherited => rfl
  | everywhere => rfl
  | scope known => simp only [afterVisibility, afterKeyword, List.cons_append, List.nil_append, if_true, known]
  | @path path anywhere =>
    have none_of_closing (b : Bracket) (ts : List Token) : afterPlainPath (.closing b :: ts) = none := rfl
    rcases path with _ | ⟨t, path⟩
    · cases (none_of_closing _ _).symm.trans (anywhere [])
    · cases t with
      | closing b => cases (none_of_closing _ _).symm.trans (anywhere [])
      | _ => simp_all [afterVisibility, afterKeyword, afterClosing]

theorem Visibility.no_attribute {visibility : List Token} (h : Visibility visibility) (rest : List Token) :
    afterMark '#' (visibility ++ .word false "fn" :: rest) = none := by
  cases h <;> rfl

theorem readItem_laid {place : Place} {ts : List Token} {item : Item} (read : readItem place ts = some item) :
    item.tokens = ts ∧ item.Laid ∧ Visibility item.visibility ∧
      ∀ p ∈ item.signature.parameters.tail, p.receiver? = none := by
  obtain ⟨start, skipped, read⟩ := Option.bind_eq_some_iff.mp read
  obtain ⟨rest, visible, read⟩ := Option.bind_eq_some_iff.mp read
  obtain ⟨⟨signature, body⟩, signed, read⟩ := Option.bind_eq_some_iff.mp read
  obtain ⟨_, -, read⟩ := Option.bind_eq_some_iff.mp read
  obtain ⟨last, -, read⟩ := Option.bind_eq_some_iff.mp read
  cases last with
  | cons t last => cases read
  | nil =>
    cases read
    obtain ⟨attributes, rfl, -⟩ := (afterAttributes_whole.took skipped).exists_closed
    obtain ⟨visibility, rfl, shape⟩ := visibility_of_afterVisibility visible
    have front : Took 0 rest (if place = .member then optionally (afterKeyword "default") rest else rest) := by
      split
      · exact optionally_took (afterKeyword_whole "default") rest
      · exact .done
    obtain ⟨default, hd, -⟩ := front.exists_closed
    obtain ⟨qualifiers, generics, inside, after, hs, closed, listed, later⟩ := readSignature_laid signed
    rw [hs] at hd
    refine ⟨rfl, ⟨attributes, default ++ qualifiers, generics, inside, after, ?_, closed, listed⟩, ?_, later⟩
    · simp [consumed_append, hd]
    · simpa [consumed_append] using shape

namespace Signature

theorem map_typed_of_no_receiver {ps : List Parameter} (h : ∀ p ∈ ps, p.receiver? = none) :
    ps = (ps.filterMap Parameter.type?).map .typed := by
  induction ps with
  | nil => rfl
  | cons p ps ih =>
    cases p with
    | receiver r => cases h _ List.mem_cons_self
    | typed type => exact congrArg (_ :: ·) (ih fun p hp => h p (List.mem_cons_of_mem _ hp))

/-- The parameters are the receiver, if one comes first, and the types in order. -/
theorem parameters_eq {s : Signature} (h : ∀ p ∈ s.parameters.tail, p.receiver? = none) :
    s.parameters = ((s.parameters.head?.bind Parameter.receiver?).toList.map .receiver) ++ s.types.map .typed := by
  unfold types
  cases hp : s.parameters with
  | nil => rfl
  | cons p ps =>
    rw [hp] at h
    cases p with
    | receiver r => exact congrArg (_ :: ·) (map_typed_of_no_receiver h)
    | typed type => exact congrArg (_ :: ·) (map_typed_of_no_receiver h)

end Signature

end ScriptBridge.Source
