/-! Readers: functions that take something off the front of a list, mostly of a text, and leave the rest. -/
namespace ScriptBridge.Text

abbrev ReaderOf (τ α : Type) := List τ → Option (α × List τ)

abbrev Reader (α : Type) := ReaderOf Char α

/-- Repeats a reader until it gives `none` for a value. A repetition that consumes nothing fails, so the length of
the list bounds the run. -/
def repeatUntil {τ α : Type} (step : ReaderOf τ (Option α)) (cs : List τ) : Option (List α × List τ) :=
  match step cs with
  | none => none
  | some (none, rest) => some ([], rest)
  | some (some a, rest) =>
    if rest.length < cs.length then
      match repeatUntil step rest with
      | none => none
      | some (as, rest) => some (a :: as, rest)
    else none
termination_by cs.length

section RepeatUntil
variable {τ α : Type} {step : ReaderOf τ (Option α)} {cs last : List τ}

theorem repeatUntil_end {rest : List τ} (h : step cs = some (none, rest)) : repeatUntil step cs = some ([], rest) := by
  rw [repeatUntil, h]

theorem repeatUntil_more (a : α) (as : List α) (rest : List τ) (h : step cs = some (some a, rest))
    (shorter : rest.length < cs.length) (others : repeatUntil step rest = some (as, last)) :
    repeatUntil step cs = some (a :: as, last) := by
  rw [repeatUntil, h]
  simp only [if_pos shorter, others]

/-- A reader that takes one item after another takes all items up to what ends them. -/
theorem repeatUntil_run {step : ReaderOf τ (Option τ)} (items tail : List τ)
    (taken : ∀ a ∈ items, ∀ rest, step (a :: rest) = some (some a, rest)) (ends : step tail = some (none, last)) :
    repeatUntil step (items ++ tail) = some (items, last) := by
  induction items with
  | nil => exact repeatUntil_end ends
  | cons a items ih =>
    obtain ⟨first, others⟩ := List.forall_mem_cons.mp taken
    exact repeatUntil_more a items _ (first _) (Nat.lt_succ_self _) (ih others)

end RepeatUntil

def consumed {τ : Type} (cs rest : List τ) : List τ := cs.take (cs.length - rest.length)

def expect : List Char → List Char → Option (List Char)
  | [], cs => some cs
  | w :: ws, c :: cs => if w = c then expect ws cs else none
  | _ :: _, [] => none

end ScriptBridge.Text
