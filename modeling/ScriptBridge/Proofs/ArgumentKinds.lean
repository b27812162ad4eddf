import Mathlib.Data.List.Basic
import ScriptBridge.Call

/-! Conversions give values of the kind asked for. A list of arguments converts whole, or its first bad one is named. -/
namespace ScriptBridge

namespace Conversion

private theorem ofText?_kind {s : String} {k : Kind} {w : SlotValue} (h : ofText? s k = some w) : w.kind = k := by
  cases k with
  | vector =>
    obtain ⟨v, -, rfl⟩ := Option.map_eq_some_iff.mp h
    rfl
  | unregistered => cases h
  | _ =>
    cases h
    rfl

/-- Whatever converts, converts to a value of exactly the kind asked for. -/
theorem convert?_kind {live : ObjectId → Bool} {v w : SlotValue} {k : Kind} (h : convert? live v k = some w) :
    w.kind = k := by
  unfold convert? at h
  split at h
  · rename_i hk
    cases h
    exact hk
  · split at h <;> first
      | cases h; rfl
      | exact ofText?_kind h
      | cases h

theorem convert?_same (live : ObjectId → Bool) {v : SlotValue} {k : Kind} (h : v.kind = k) :
    convert? live v k = some v := by
  unfold convert?
  exact if_pos h

/-- A string is read as a text, the kind of strings not excepted. -/
theorem convert?_string (live : ObjectId → Bool) (s : String) (k : Kind) :
    convert? live (.string s) k = ofText? s k := by cases k <;> rfl

end Conversion

/-- A string that is only read converts to what it converts to as a value. -/
theorem Argument.convert?_eq (live : ObjectId → Bool) (a : Argument) (k : Kind) :
    a.convert? live k = Conversion.convert? live a.asValue k := by
  cases a with
  | value v => rfl
  | text s => exact (Conversion.convert?_string live s k).symm

theorem Argument.convert?_kind {live : ObjectId → Bool} {a : Argument} {k : Kind} {w : SlotValue}
    (h : a.convert? live k = some w) : w.kind = k := by
  rw [Argument.convert?_eq] at h
  exact Conversion.convert?_kind h

def conversions (live : ObjectId → Bool) (as : List Argument) (ks : List Kind) : List (Option SlotValue) :=
  as.zipWith (·.convert? live) ks

private theorem convertArguments_cons (live : ObjectId → Bool) (f : String) (p : Nat) (a : Argument)
    (as : List Argument) (k : Kind) (ks : List Kind) :
    convertArguments live f p (a :: as) (k :: ks) =
      match a.convert? live k with
      | none => .error (.argumentConversionFailed f p)
      | some v => (convertArguments live f (p + 1) as ks).map (v :: ·) := by
  rw [convertArguments]
  cases a.convert? live k with
  | none => rfl
  | some v => cases convertArguments live f (p + 1) as ks <;> rfl

/-- Either all arguments convert, to what is handed back, or the least position that does not convert is named. -/
theorem convertArguments_spec (live : ObjectId → Bool) (f : String) (p : Nat) (as : List Argument) (ks : List Kind) :
    (∃ vs, convertArguments live f p as ks = .ok vs ∧ conversions live as ks = vs.map some) ∨
      ∃ i, convertArguments live f p as ks = .error (.argumentConversionFailed f (p + i)) ∧
        (conversions live as ks)[i]? = some none ∧ ∀ j < i, ∃ v, (conversions live as ks)[j]? = some (some v) := by
  induction as generalizing ks p with
  | nil => exact .inl ⟨[], rfl, rfl⟩
  | cons a as ih =>
    cases ks with
    | nil => exact .inl ⟨[], rfl, rfl⟩
    | cons k ks =>
      rw [convertArguments_cons]
      cases ha : a.convert? live k with
      | none => exact .inr ⟨0, rfl, congrArg some ha, fun j hj => absurd hj (Nat.not_lt_zero j)⟩
      | some v =>
        obtain ⟨vs, hr, hc⟩ | ⟨i, hr, hi, hj⟩ := ih (p + 1) ks
        · refine .inl ⟨v :: vs, ?_, ?_⟩
          · rw [hr]
            rfl
          · exact congrArg₂ List.cons ha hc
        · refine .inr ⟨i + 1, ?_, hi, ?_⟩
          · rw [hr, Nat.add_assoc, Nat.add_comm 1 i]
            rfl
          · intro j hlt
            cases j with
            | zero => exact ⟨v, congrArg some ha⟩
            | succ j => exact hj j (Nat.lt_of_succ_lt_succ hlt)

theorem convertArguments_of_conversions {live : ObjectId → Bool} (f : String) (p : Nat) {as : List Argument}
    {ks : List Kind} {vs : List SlotValue} (h : conversions live as ks = vs.map some) :
    convertArguments live f p as ks = .ok vs := by
  obtain ⟨us, hr, hc⟩ | ⟨i, -, hi, -⟩ := convertArguments_spec live f p as ks
  · rw [hr, List.map_injective_iff.mpr (fun _ _ => Option.some.inj) (hc.symm.trans h)]
  · rw [h, List.getElem?_map] at hi
    cases hv : vs[i]? <;> simp [hv] at hi

/-- The least position that does not convert is the one named. -/
theorem convertArguments_of_least {live : ObjectId → Bool} (f : String) (p : Nat) {as : List Argument}
    {ks : List Kind} {i : Nat} (hi : (conversions live as ks)[i]? = some none)
    (hj : ∀ j < i, ∃ v, (conversions live as ks)[j]? = some (some v)) :
    convertArguments live f p as ks = .error (.argumentConversionFailed f (p + i)) := by
  obtain ⟨us, -, hc⟩ | ⟨k, hr, hk, hl⟩ := convertArguments_spec live f p as ks
  · rw [hc, List.getElem?_map] at hi
    cases hv : us[i]? <;> simp [hv] at hi
  · have hki : k = i := by
      rcases Nat.lt_trichotomy k i with h | h | h
      · obtain ⟨v, hv⟩ := hj k h
        rw [hk] at hv
        cases hv
      · exact h
      · obtain ⟨v, hv⟩ := hl i h
        rw [hi] at hv
        cases hv
    rw [hr, hki]

/-- The values that arguments convert to have the kinds asked for. -/
theorem kinds_of_conversions {live : ObjectId → Bool} {as : List Argument} {ks : List Kind} {vs : List SlotValue}
    (hn : as.length = ks.length) (h : conversions live as ks = vs.map some) : vs.map SlotValue.kind = ks := by
  induction as generalizing ks vs with
  | nil =>
    obtain rfl : ks = [] := List.length_eq_zero_iff.mp hn.symm
    obtain rfl : vs = [] := List.map_eq_nil_iff.mp h.symm
    rfl
  | cons a as ih =>
    cases ks with
    | nil => cases hn
    | cons k ks =>
      cases vs with
      | nil => cases h
      | cons v vs =>
        injection h with ha hr
        exact congrArg₂ List.cons (Argument.convert?_kind ha) (ih (Nat.succ.inj hn) hr)

end ScriptBridge
