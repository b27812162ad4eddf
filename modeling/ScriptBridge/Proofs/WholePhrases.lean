import ScriptBridge.Source.PatternPhrase

/-! Every phrase is whole: what is taken as a type, a pattern or an attribute closes each bracket that it opens, and
closes no other, but for what is read up to the end of a group. -/
namespace ScriptBridge.Source

open Text (ReaderOf repeatUntil)

def Token.isPlain : Token → Bool
  | .opening _ | .closing _ => false
  | _ => true

/-- What is left after some tokens, which close each bracket that they open and so many more. -/
inductive Took : Nat → List Token → List Token → Prop where
  | done {ts : List Token} : Took 0 ts ts
  | token {n : Nat} {t : Token} {ts rest : List Token} : t.isPlain → Took n ts rest → Took n (t :: ts) rest
  | opened {n : Nat} {b : Bracket} {ts rest : List Token} : Took (n + 1) ts rest → Took n (.opening b :: ts) rest
  | closed {n : Nat} {b : Bracket} {ts rest : List Token} : Took n ts rest → Took (n + 1) (.closing b :: ts) rest

namespace Took

theorem trans {m n : Nat} {ts mid rest : List Token} (first : Took m ts mid) (second : Took n mid rest) :
    Took (m + n) ts rest := by
  induction first with
  | done => simpa using second
  | token plain _ ih => exact .token plain (ih second)
  | opened _ ih => exact .opened (by rw [Nat.add_right_comm]; exact ih second)
  | closed _ ih => rw [Nat.add_right_comm]; exact .closed (ih second)

theorem andThen {n : Nat} {ts mid rest : List Token} (first : Took 0 ts mid) (second : Took n mid rest) :
    Took n ts rest :=
  Nat.zero_add n ▸ first.trans second

/-- The tokens themselves, which may stand before anything. -/
theorem exists_taken {n : Nat} {ts rest : List Token} (h : Took n ts rest) :
    ∃ taken, ts = taken ++ rest ∧ ∀ other, Took n (taken ++ other) other := by
  induction h with
  | done => exact ⟨[], rfl, fun _ => .done⟩
  | @token _ t _ _ plain _ ih =>
    obtain ⟨taken, rfl, anywhere⟩ := ih
    exact ⟨t :: taken, rfl, fun other => .token plain (anywhere other)⟩
  | @opened _ b _ _ _ ih =>
    obtain ⟨taken, rfl, anywhere⟩ := ih
    exact ⟨.opening b :: taken, rfl, fun other => .opened (anywhere other)⟩
  | @closed _ b _ _ _ ih =>
    obtain ⟨taken, rfl, anywhere⟩ := ih
    exact ⟨.closing b :: taken, rfl, fun other => .closed (anywhere other)⟩

/-- The end of a group is looked for behind such tokens. -/
theorem afterInside {n : Nat} {ts rest : List Token} (h : Took n ts rest) (depth : Nat) :
    afterInside (depth + n) ts = Source.afterInside depth rest := by
  induction h generalizing depth with
  | done => rfl
  | @token _ t _ _ plain _ ih => cases t <;> simp_all [Source.afterInside, Token.isPlain]
  | opened _ ih => exact ih depth
  | closed _ ih => exact ih depth

section
variable {ts : List Token}

@[simp] theorem refl : Took 0 ts ts := .done
@[simp] theorem word {raw : Bool} {name : String} : Took 0 (.word raw name :: ts) ts := .token rfl .done
@[simp] theorem lifetime {name : String} : Took 0 (.lifetime name :: ts) ts := .token rfl .done
@[simp] theorem mark {c : Char} {joined : Bool} : Took 0 (.mark c joined :: ts) ts := .token rfl .done
@[simp] theorem text {l : TextLiteral} : Took 0 (.text l :: ts) ts := .token rfl .done
@[simp] theorem literal {s : String} : Took 0 (.literal s :: ts) ts := .token rfl .done
@[simp] theorem closing {b : Bracket} : Took 1 (.closing b :: ts) ts := .closed .done

end
end Took

def Closed (ts : List Token) : Prop := ∀ other, Took 0 (ts ++ other) other

theorem Took.exists_closed {ts rest : List Token} (h : Took 0 ts rest) : ∃ taken, ts = taken ++ rest ∧ Closed taken :=
  h.exists_taken

theorem Took.toClosed {taken rest : List Token} (h : Took 0 (taken ++ rest) rest) : Closed taken := by
  obtain ⟨_, same, closed⟩ := h.exists_closed
  exact List.append_cancel_right same ▸ closed

namespace Closed

theorem nil : Closed [] := fun _ => .done

theorem token {t : Token} {ts : List Token} (plain : t.isPlain) (h : Closed ts) : Closed (t :: ts) :=
  fun other => .token plain (h other)

theorem append {ts us : List Token} (first : Closed ts) (second : Closed us) : Closed (ts ++ us) := by
  intro other
  rw [List.append_assoc]
  exact (first _).andThen (second other)

theorem of_plain {ts : List Token} (h : ∀ t ∈ ts, t.isPlain) : Closed ts := by
  induction ts with
  | nil => exact nil
  | cons t ts ih => exact token (h t List.mem_cons_self) (ih fun t ht => h t (List.mem_cons_of_mem _ ht))

theorem flatMap {α : Type} {f : α → List Token} {as : List α} (h : ∀ a ∈ as, Closed (f a)) : Closed (as.flatMap f) := by
  induction as with
  | nil => exact nil
  | cons a as ih => exact (h a List.mem_cons_self).append (ih fun a ha => h a (List.mem_cons_of_mem _ ha))

end Closed

def Leaves {α : Type} (left : α → List Token) (n : Nat) (ts : List Token) (r : Option α) : Prop :=
  ∀ a, r = some a → Took n ts (left a)

/-- What is skipped is a whole phrase, with so many closing brackets after it. -/
def Whole (n : Nat) (skip : Skip) : Prop := ∀ ts, Leaves id n ts (skip ts)

def ReadsWhole {α : Type} (n : Nat) (read : ReaderOf Token α) : Prop := ∀ ts, Leaves Prod.snd n ts (read ts)

theorem Whole.took {n : Nat} {skip : Skip} {ts rest : List Token} (h : Whole n skip) (hs : skip ts = some rest) :
    Took n ts rest :=
  h ts rest hs

theorem ReadsWhole.took {α : Type} {n : Nat} {read : ReaderOf Token α} {ts rest : List Token} {a : α}
    (h : ReadsWhole n read) (hs : read ts = some (a, rest)) : Took n ts rest :=
  h ts _ hs

namespace Leaves
variable {α β : Type} {left : α → List Token} {left' : β → List Token} {n : Nat} {ts mid : List Token}

@[simp] theorem none : Leaves left n ts none := by rintro a ⟨⟩

@[simp] theorem some {a : α} : Leaves left n ts (some a) ↔ Took n ts (left a) := by simp [Leaves]

@[simp] theorem pure {a : α} : Leaves left n ts (pure a) ↔ Took n ts (left a) := some

theorem andThen {r : Option α} (first : Took 0 ts mid) (h : Leaves left n mid r) : Leaves left n ts r :=
  fun a ha => first.andThen (h a ha)

theorem opened {b : Bracket} {r : Option α} (h : Leaves left (n + 1) ts r) : Leaves left n (.opening b :: ts) r :=
  fun a ha => .opened (h a ha)

theorem opening {b : Bracket} {f : List Token → Option α} (h : ∀ rest, Leaves left (n + 1) rest (f rest)) :
    Leaves left n ts (afterOpening b ts >>= f) := by
  unfold afterOpening
  split
  · split
    · exact .opened (h _)
    · exact .none
  · exact .none

private theorem seq {m : Nat} {r : Option α} {f : α → Option β} (first : Leaves left m ts r)
    (h : ∀ a, Leaves left' n (left a) (f a)) : Leaves left' (m + n) ts (r >>= f) := by
  intro b hb
  obtain ⟨a, ha, hb⟩ := Option.bind_eq_some_iff.mp hb
  exact (first a ha).trans (h a b hb)

/-- The brackets are closed by what comes second. -/
theorem bind {r : Option α} {f : α → Option β} (first : Leaves left 0 ts r)
    (h : ∀ a, Leaves left' n (left a) (f a)) : Leaves left' n ts (r >>= f) :=
  Nat.zero_add n ▸ first.seq h

/-- The brackets are closed by what comes first. -/
theorem bindClosing {r : Option α} {f : α → Option β} (first : Leaves left n ts r)
    (h : ∀ a, Leaves left' 0 (left a) (f a)) : Leaves left' n ts (r >>= f) :=
  first.seq h

theorem orElse {r s : Option α} (hr : Leaves left n ts r) (hs : Leaves left n ts s) : Leaves left n ts (r <|> s) := by
  cases r with
  | none => simpa using hs
  | some a => simpa using hr

theorem map {r : Option α} {f : α → β} (h : Leaves (left' ∘ f) n ts r) : Leaves left' n ts (r.map f) := by
  intro b hb
  obtain ⟨a, ha, rfl⟩ := Option.map_eq_some_iff.mp hb
  exact h a ha

/-- Only what is left is kept. -/
theorem rest {r : Option (α × List Token)} (h : Leaves Prod.snd n ts r) : Leaves id n ts (r.map (·.2)) := map h

/-- A value is put beside what is left. -/
theorem valued {r : Option (List Token)} {a : List Token → α} (h : Leaves id n ts r) :
    Leaves Prod.snd n ts (r.map fun rest => (a rest, rest)) := map h

end Leaves

/-! Words, marks and groups. -/

theorem afterName_whole : Whole 0 afterName := by
  intro ts
  unfold afterName
  split
  · rename_i t _
    cases t <;> simp [isName, apply_ite]
  · simp

theorem afterKeyword_eq_some_iff {keyword : String} {ts rest : List Token} :
    afterKeyword keyword ts = some rest ↔ ts = .word false keyword :: rest := by
  unfold afterKeyword
  split <;> grind

theorem afterKeyword_whole (keyword : String) : Whole 0 (afterKeyword keyword) := by
  intro ts rest h
  obtain rfl := afterKeyword_eq_some_iff.mp h
  exact .word

theorem afterMark_eq_some_iff {c : Char} {ts rest : List Token} :
    afterMark c ts = some rest ↔ ∃ joined, ts = .mark c joined :: rest := by
  constructor
  · intro h
    unfold afterMark at h
    split at h
    · obtain ⟨rfl, same⟩ := Option.ite_none_right_eq_some.mp h
      exact ⟨_, by rw [Option.some.inj same]⟩
    · cases h
  · rintro ⟨joined, rfl⟩
    simp [afterMark]

theorem afterMark_whole (c : Char) : Whole 0 (afterMark c) := by
  intro ts rest h
  obtain ⟨joined, rfl⟩ := afterMark_eq_some_iff.mp h
  exact .mark

theorem afterMarks_whole (cs : List Char) : Whole 0 (afterMarks cs) := by
  intro ts
  fun_induction afterMarks cs ts with
  | case1 => simp
  | case2 c ts => exact afterMark_whole c ts
  | case3 c cs rest ne ih => exact .andThen .mark ih
  | case4 => simp
  | case5 => simp

theorem afterLifetime_whole : Whole 0 afterLifetime := by
  intro ts
  unfold afterLifetime
  split <;> simp

theorem afterOpening_eq_some_iff {b : Bracket} {ts rest : List Token} :
    afterOpening b ts = some rest ↔ ts = .opening b :: rest := by
  unfold afterOpening
  split <;> grind

theorem afterClosing_eq_some_iff {b : Bracket} {ts rest : List Token} :
    afterClosing b ts = some rest ↔ ts = .closing b :: rest := by
  unfold afterClosing
  split <;> grind

private theorem afterClosing_whole (b : Bracket) : Whole 1 (afterClosing b) := by
  intro ts rest h
  obtain rfl := afterClosing_eq_some_iff.mp h
  exact .closing

theorem optionally_took {skip : Skip} (h : Whole 0 skip) (ts : List Token) : Took 0 ts (optionally skip ts) := by
  unfold optionally
  cases hs : skip ts with
  | none => exact .done
  | some rest => exact h.took hs

private theorem afterInside_whole (depth : Nat) : Whole (depth + 1) (afterInside depth) := by
  intro ts
  fun_induction afterInside depth ts with
  | case1 depth b ts ih => exact fun rest h => .opened (ih rest h)
  | case2 b ts => simp
  | case3 depth b ts ih => exact fun rest h => .closed (ih rest h)
  | case4 depth t ts no_opening no_closing none_inside ih =>
    refine fun rest h => .token ?_ (ih rest h)
    cases t with
    | opening b => exact (no_opening b rfl).elim
    | closing b => cases depth <;> simp_all
    | _ => rfl
  | case5 => simp

private theorem afterGroup_whole : Whole 0 afterGroup := by
  intro ts
  unfold afterGroup
  split
  · exact .opened (afterInside_whole 0 _)
  · simp

private theorem afterSomeInside_whole : Whole 1 afterSomeInside := by
  intro ts
  unfold afterSomeInside
  split
  · simp
  · exact afterInside_whole 0 ts

/-! Lists, paths and attributes. -/

private theorem repeatUntil_whole {α : Type} {step : ReaderOf Token (Option α)} (h : ReadsWhole 0 step) :
    ReadsWhole 0 (repeatUntil step) := by
  intro ts
  fun_induction repeatUntil step ts with
  | case1 => simp
  | case2 ts rest hs => exact Leaves.some.mpr (h.took hs)
  | case3 => simp
  | case4 ts a rest hs shorter as last hr ih =>
    rw [hr] at ih
    have others : Took 0 rest last := Leaves.some.mp ih
    exact Leaves.some.mpr ((h.took hs).andThen others)
  | case5 => simp

theorem readItems_whole {α : Type} {item : ReaderOf Token α} {stop : Skip} {n : Nat} (hi : ReadsWhole 0 item)
    (hs : Whole n stop) : ReadsWhole n (readItems item stop) := by
  intro ts
  refine .bind (repeatUntil_whole (fun ts => ?_) ts) fun (items, rest) => .bindClosing (hs rest) fun last => by simp
  split
  · simp
  · refine .bind (hi ts) fun (a, rest) => ?_
    dsimp only
    split
    · simp
    · exact .bind (afterMark_whole ',' rest) fun last => by simp

private theorem afterItems_whole {item stop : Skip} {n : Nat} (hi : Whole 0 item) (hs : Whole n stop) :
    Whole n (afterItems item stop) :=
  fun ts => .rest (readItems_whole (fun ts => .valued (hi ts)) hs ts)

theorem afterSum_whole {item : Skip} (h : Whole 0 item) : Whole 0 (afterSum item) := by
  intro ts
  refine .bind (repeatUntil_whole (fun ts => ?_) ts) fun (_, rest) => by simpa using optionally_took h rest
  split
  · simp
  · rename_i more
    obtain ⟨mid, first, plus⟩ := Option.bind_eq_some_iff.mp more
    exact Leaves.some.mpr ((h.took first).andThen ((afterMark_whole '+').took plus))

private theorem afterPlainPart_whole : Whole 0 afterPlainPart := by
  intro ts
  unfold afterPlainPart
  split
  · rename_i t _
    cases t <;> simp [isName, apply_ite]
  · simp

private theorem afterPlainPath_whole : Whole 0 afterPlainPath := by
  intro ts
  refine .andThen (optionally_took (afterMarks_whole pathMark) ts) (.bind (afterPlainPart_whole _) fun first => ?_)
  refine .bind (repeatUntil_whole (fun ts => ?_) first) fun (_, rest) => by simp
  split
  · simp
  · rename_i more
    exact .andThen ((afterMarks_whole pathMark).took more) (.map (afterPlainPart_whole _))

private theorem afterAttribute_whole : Whole 0 afterAttribute := by
  refine fun ts => .bind (afterMark_whole '#' ts) fun rest => .opening fun rest => ?_
  refine .bind (.orElse (afterKeyword_whole "unsafe" rest) (afterPlainPath_whole rest)) fun rest => ?_
  split
  · exact .opened (.seq (afterInside_whole 0 _) (afterClosing_whole .square))
  · exact .andThen .mark (afterSomeInside_whole _)
  · exact afterClosing_whole .square rest

theorem afterAttributes_whole : Whole 0 afterAttributes := by
  refine fun ts => .rest (repeatUntil_whole (fun ts => ?_) ts)
  split
  · simp
  · exact .map (afterAttribute_whole ts)

/-! Constants, lifetimes and what types are for. -/

private theorem afterConstant_whole : Whole 0 afterConstant := by
  intro ts
  unfold afterConstant
  split <;> simp
  -- only a constant with a sign has two tokens
  exact .andThen .mark .literal

theorem afterConstantOrBlock_whole : Whole 0 afterConstantOrBlock := by
  intro ts
  unfold afterConstantOrBlock
  split
  · exact .opened (afterInside_whole 0 _)
  · exact afterConstant_whole ts

theorem afterLifetimeParam_whole : Whole 0 afterLifetimeParam := by
  refine fun ts => .bind (afterLifetime_whole ts) fun rest => ?_
  split
  · simp
  · rename_i colon
    exact .andThen ((afterMark_whole ':').took colon) (afterSum_whole afterLifetime_whole _)

private theorem afterBinder_whole : Whole 0 afterBinder := by
  have param : Whole 0 fun ts => afterAttributes ts >>= afterLifetimeParam :=
    fun ts => .bind (afterAttributes_whole ts) afterLifetimeParam_whole
  refine fun ts => .bind (afterKeyword_whole "for" ts) fun rest => .bind (afterMark_whole '<' rest) fun rest => ?_
  exact afterItems_whole param (afterMark_whole '>') rest

theorem afterConvention_whole : Whole 0 afterConvention := by
  refine fun ts => .bind (afterKeyword_whole "extern" ts) fun rest => ?_
  split <;> simp [*]

/-! Types and bounds, level by level. -/

namespace Phrases

structure AreWhole (inner : Phrases) : Prop where
  type : ∀ sums, Whole 0 (inner.type sums)
  bound : Whole 0 inner.bound

namespace AreWhole
variable {inner : Phrases} (w : inner.AreWhole)
include w

theorem afterReturn (sums : Bool) : Whole 0 (inner.afterReturn sums) := by
  intro ts
  unfold Phrases.afterReturn
  split
  · simp
  · rename_i arrow
    exact .andThen ((afterMarks_whole _).took arrow) (w.type sums _)

theorem afterCallTypes : Whole 0 inner.afterCallTypes := by
  refine fun ts => .opening fun rest => .bindClosing ?_ (w.afterReturn false)
  exact afterItems_whole (w.type true) (afterClosing_whole .round) rest

theorem afterOptionalCallTypes : Whole 0 inner.afterOptionalCallTypes := by
  intro ts
  unfold Phrases.afterOptionalCallTypes
  split
  · exact w.afterCallTypes _
  · rename_i path
    exact .andThen ((afterMarks_whole pathMark).took path) (w.afterCallTypes _)
  · simp

theorem afterTypeArgument : Whole 0 inner.afterTypeArgument := by
  intro ts
  unfold Phrases.afterTypeArgument
  split
  · exact w.type true _
  · simp
  · rename_i constant
    exact Leaves.some.mpr (afterConstantOrBlock_whole.took constant)
  · refine .bind (w.type true _) fun rest => ?_
    split
    · rename_i equals _
      exact .andThen ((afterMark_whole '=').took equals) (.orElse (afterConstantOrBlock_whole _) (w.type true _))
    · rename_i colon _ _
      exact .andThen ((afterMark_whole ':').took colon) (afterSum_whole w.bound _)
    · simp

theorem afterTypeArguments : Whole 0 inner.afterTypeArguments := by
  refine fun ts => .andThen (optionally_took (afterMarks_whole pathMark) ts) (.bind (afterMark_whole '<' _) ?_)
  exact afterItems_whole w.afterTypeArgument (afterMark_whole '>')

theorem readPart : ReadsWhole 0 inner.readPart := by
  intro ts
  unfold Phrases.readPart
  split
  · rename_i keyword
    cases ts with
    | nil => simp at keyword
    | cons t rest =>
      simp only [List.head?_cons, Option.any_some, List.map, List.mem_cons, List.not_mem_nil, or_false,
        decide_eq_true_eq] at keyword
      rcases keyword with rfl | rfl | rfl | rfl <;> simp
  · refine .bind (.orElse (afterName_whole ts) (afterKeyword_whole "Self" ts)) fun rest => ?_
    split
    · exact .bind (w.afterTypeArguments rest) fun last => by simp
    · simp

theorem readParts : ReadsWhole 0 inner.readParts := by
  refine fun ts => .bind (w.readPart ts) fun (first, rest) => ?_
  refine .bind (repeatUntil_whole (fun ts => ?_) rest) fun (others, rest) => by simp
  split
  · simp
  · simp
  · rename_i more
    exact .andThen ((afterMarks_whole pathMark).took more) (.map (w.readPart _))

theorem readPath : ReadsWhole 0 inner.readPath :=
  fun ts => .andThen (optionally_took (afterMarks_whole pathMark) ts) (w.readParts _)

theorem afterTrait : Whole 0 inner.afterTrait := by
  intro ts
  unfold Phrases.afterTrait
  extract_lets rest afterPath
  have path (rest : List Token) : Leaves id 0 rest (afterPath rest) := by
    refine .bind (w.readPath rest) fun (closed, rest) => ?_
    cases closed with
    | false => exact w.afterOptionalCallTypes rest
    | true => simp
  refine .andThen (optionally_took (afterMark_whole '?') ts) ?_
  split
  · exact .bind (afterBinder_whole _) path
  · exact path _

theorem readBound : ReadsWhole 0 inner.readBound := by
  intro ts
  unfold Phrases.readBound
  split
  · simp
  · refine .opened (.bind (w.afterTrait _) fun rest => ?_)
    exact .bindClosing (afterClosing_whole .round rest) fun last => by simp
  · exact .valued (w.afterTrait ts)

theorem readMoreBounds : ReadsWhole 0 inner.readMoreBounds := by
  refine fun ts => repeatUntil_whole (fun ts => ?_) ts
  split
  · simp
  · rename_i plus
    refine .andThen ((afterMark_whole '+').took plus) ?_
    split
    · exact .map (w.readBound _)
    · simp

theorem afterBounds (sums : Bool) : Whole 0 (inner.afterBounds sums) := by
  refine fun ts => .bind (w.readBound ts) fun (first, rest) => ?_
  dsimp only
  split
  · refine .bind (w.readMoreBounds rest) fun (others, rest) => ?_
    dsimp only
    split <;> simp
  · cases first <;> simp

theorem afterMoreBounds (sums : Bool) : Whole 0 (inner.afterMoreBounds sums) := by
  intro ts
  unfold Phrases.afterMoreBounds
  split
  · exact .rest (w.readMoreBounds ts)
  · simp

/-- What stands in parentheses is read up to after the last. -/
theorem afterParenthesised (sums : Bool) : Whole 1 (inner.afterParenthesised sums) := by
  intro ts
  unfold Phrases.afterParenthesised
  split
  · simp
  · exact .bind (w.afterBounds true _) (afterClosing_whole .round)
  · refine .bind (w.afterTrait _) fun rest => .bindClosing (afterClosing_whole .round rest) fun rest => ?_
    exact .rest (w.readMoreBounds rest)
  · refine .bind (w.type true ts) fun rest => ?_
    split
    · rename_i comma
      exact .andThen ((afterMark_whole ',').took comma) (afterItems_whole (w.type true) (afterClosing_whole .round) _)
    · exact .bindClosing (afterClosing_whole .round rest) (w.afterMoreBounds sums)

theorem afterFunctionTypeParam : Whole 0 inner.afterFunctionTypeParam := by
  refine fun ts => .bind (afterAttributes_whole ts) fun ts => ?_
  extract_lets named rest
  have hn : Leaves id 0 ts named :=
    .orElse (afterName_whole ts) (.orElse (afterKeyword_whole "_" ts) (afterKeyword_whole "self" ts))
  clear_value named
  have hr : Took 0 ts rest := by
    unfold rest
    split
    · split
      · simp
      · exact (hn _ rfl).andThen .mark
    · simp
  exact .andThen hr (.orElse (afterMarks_whole _ rest) (w.type true rest))

theorem afterFunctionType : Whole 0 inner.afterFunctionType := by
  refine fun ts => .andThen (optionally_took (afterKeyword_whole "unsafe") ts) ?_
  refine .andThen (optionally_took afterConvention_whole _) (.bind (afterKeyword_whole "fn" _) fun rest => ?_)
  refine .opening fun rest => .bindClosing ?_ (w.afterReturn false)
  exact afterItems_whole w.afterFunctionTypeParam (afterClosing_whole .round) rest

theorem afterQualified : Whole 0 inner.afterQualified := by
  refine fun ts => .bind (w.type true ts) fun rest => ?_
  extract_lets afterParts
  have parts (rest : List Token) : Leaves id 0 rest (afterParts rest) := by
    refine .bind (afterMark_whole '>' rest) fun rest => .bind (afterMarks_whole pathMark rest) fun rest => ?_
    exact .bind (w.readParts rest) fun (_, last) => by simp
  split
  · rename_i as
    exact .andThen ((afterKeyword_whole "as").took as) (.bind (.rest (w.readPath _)) parts)
  · exact parts rest

theorem afterNamedType (sums : Bool) : Whole 0 (inner.afterNamedType sums) := by
  intro ts
  unfold Phrases.afterNamedType
  split
  · exact .andThen .mark (.bind (w.afterQualified _) w.afterOptionalCallTypes)
  · refine .bind (w.readPath ts) fun path => ?_
    split
    · exact w.afterMoreBounds sums _
    · exact .andThen .mark (afterGroup_whole _)
    · exact .bind (w.afterOptionalCallTypes _) (w.afterMoreBounds sums)

theorem afterType (sums : Bool) : Whole 0 (inner.afterType sums) := by
  intro ts
  unfold Phrases.afterType
  split
  · exact .opened (w.afterParenthesised sums _)
  · refine .opened (.bind (w.type true _) fun rest => ?_)
    split
    · exact .andThen .mark (afterSomeInside_whole _)
    · exact afterClosing_whole .square rest
  · exact .andThen .mark (.bind (.orElse (afterKeyword_whole "const" _) (afterKeyword_whole "mut" _)) (w.type false))
  · refine .andThen .mark (.andThen (optionally_took afterLifetime_whole _) ?_)
    exact .andThen (optionally_took (afterKeyword_whole "mut") _) (w.type false _)
  · simp
  · exact w.afterBounds true _
  · simp
  · exact .andThen .word (w.afterBounds sums _)
  · exact .andThen .word (.andThen (optionally_took (afterMark_whole '*') _) (w.afterBounds sums _))
  · exact w.afterFunctionType _
  · exact w.afterFunctionType _
  · exact w.afterFunctionType _
  · exact .bind (afterBinder_whole _) fun rest => .orElse (w.afterFunctionType rest) (w.afterNamedType sums rest)
  · exact w.afterNamedType sums ts

end AreWhole

theorem phrases_whole (levels : Nat) : (phrases levels).AreWhole := by
  induction levels with
  | zero => exact ⟨fun _ _ => .none, fun _ => .none⟩
  | succ levels inner => exact ⟨inner.afterType, fun ts => .rest (inner.readBound ts)⟩

end Phrases

/-! Patterns. -/

private theorem afterBinding_whole {pattern : Skip} (h : Whole 0 pattern) : Whole 0 (afterBinding pattern) := by
  refine fun ts => .andThen (optionally_took (afterKeyword_whole "ref") ts) ?_
  refine .andThen (optionally_took (afterKeyword_whole "mut") _) ?_
  refine .bind (.orElse (afterName_whole _) (afterKeyword_whole "self" _)) fun rest => ?_
  split
  · rename_i binds
    exact .andThen ((afterMark_whole '@').took binds) (h _)
  · simp

private theorem afterAlternatives_whole {pattern : Skip} (h : Whole 0 pattern) :
    Whole 0 (afterAlternatives pattern) := by
  intro ts
  have first : Leaves id 0 ts (afterMarks ['.', '.'] ts <|> pattern (optionally (afterMark '|') ts)) :=
    .orElse (afterMarks_whole _ ts) (.andThen (optionally_took (afterMark_whole '|') ts) (h _))
  refine .bind first fun rest => .bind (repeatUntil_whole (fun ts => ?_) rest) fun (_, rest) => by simp
  split
  · simp
  · rename_i more
    exact .andThen ((afterMark_whole '|').took more) (.map (h _))

theorem afterPattern_whole (levels : Nat) : Whole 0 (afterPattern levels) := by
  induction levels with
  | zero => exact fun _ => .none
  | succ levels inner =>
    intro ts
    have items (b : Bracket) : Whole 1 (afterItems (afterAlternatives (afterPattern levels)) (afterClosing b)) :=
      afterItems_whole (afterAlternatives_whole inner) (afterClosing_whole b)
    unfold afterPattern
    dsimp only
    split
    · simp
    · exact .andThen .mark (.andThen (optionally_took (afterKeyword_whole "mut") _) (inner _))
    · exact .opened (items .round _)
    · exact .opened (items .square _)
    · split
      · rename_i constant
        exact Leaves.some.mpr (afterConstant_whole.took constant)
      · split
        · exact .andThen (afterPlainPath_whole.took ‹_›) (.opened (items .round _))
        · exact .andThen (afterPlainPath_whole.took ‹_›) (.opened (afterInside_whole 0 _))
        · exact .andThen (afterPlainPath_whole.took ‹_›) (.andThen .mark (afterGroup_whole _))
        · split
          · exact afterPlainPath_whole _
          · exact .orElse (afterBinding_whole inner _) (afterPlainPath_whole _)

end ScriptBridge.Source
