import ScriptBridge.SlotTable

/-! Writes to slot tables. They change values and nothing else, and a fitting list of values is written whole. -/
namespace ScriptBridge.SlotTable

@[simp] theorem clear_clear (t : SlotTable) : t.clear.clear = t.clear := by
  simp [clear, Function.comp_def]

@[simp] theorem clear_put (t : SlotTable) (v : SlotValue) (i : Nat) : (t.put v i).clear = t.clear := by
  cases i with
  | zero => rfl
  | succ i =>
    simp only [clear, put, mk.injEq, true_and]
    apply List.ext_getElem?
    intro j
    rw [List.getElem?_map, List.getElem?_map, List.getElem?_modify]
    by_cases h : i = j
    · cases ht : t.params[j]? <;> simp [h]
    · simp [h]

/-- A value is put into its slot and no other. -/
theorem slot?_put (t : SlotTable) (v : SlotValue) (i j : Nat) :
    (t.put v i).slot? j = (t.slot? j).map fun s => if i = j then { s with value := v } else s := by
  cases i with
  | zero => cases j <;> simp [slot?, slots, put]
  | succ i => cases j <;> simp [slot?, slots, put, List.getElem?_modify]

/-- A write that is accepted puts the value, and the kinds agree. -/
theorem set_eq_ok {t t' : SlotTable} {i : Nat} {v : SlotValue} (h : t.set i v = .ok t') :
    t' = t.put v i ∧ ∃ s, t.slot? i = some s ∧ v.kind = s.kind := by
  unfold set at h
  split at h
  · cases h
  · rename_i s hs
    split at h
    · rename_i hk
      cases h
      exact ⟨rfl, s, hs, hk⟩
    · cases h

/-- A write is refused for the kind of its slot, or because there is no such slot. -/
theorem set_error {t : SlotTable} {i : Nat} {v : SlotValue} {e : BindError} (h : t.set i v = .error e) :
    ∃ slot expected found, e = .slotKindMismatch slot expected found := by
  unfold set at h
  split at h
  · cases h
    exact ⟨_, _, _, rfl⟩
  · split at h <;> cases h
    exact ⟨_, _, _, rfl⟩

/-- Filling fails as the write does at which it stops. -/
theorem fill_error {t : SlotTable} {p : Nat} {vs : List SlotValue} {e : BindError} (h : (t.fill p vs).1 = .error e) :
    ∃ slot expected found, e = .slotKindMismatch slot expected found := by
  induction vs generalizing t p with
  | nil => cases h
  | cons v vs ih =>
    rw [fill] at h
    split at h
    · exact ih h
    · rename_i refused
      cases h
      exact set_error refused

theorem clear_set {t t' : SlotTable} {i : Nat} {v : SlotValue} (h : t.set i v = .ok t') : t'.clear = t.clear := by
  rw [(set_eq_ok h).1, clear_put]

/-- Filling keeps the shape, also where it stops early. -/
theorem clear_fill (t : SlotTable) (p : Nat) (vs : List SlotValue) : (t.fill p vs).2.clear = t.clear := by
  induction vs generalizing t p with
  | nil => rfl
  | cons v vs ih =>
    rw [fill]
    split
    · rename_i t' h
      rw [ih, clear_set h]
    · rfl

/-- Filling from a parameter slot on leaves the result slot alone. -/
theorem result_fill (t : SlotTable) (p : Nat) (vs : List SlotValue) : (t.fill (p + 1) vs).2.result = t.result := by
  induction vs generalizing t p with
  | nil => rfl
  | cons v vs ih =>
    rw [fill]
    split
    · rename_i t' h
      rw [ih, (set_eq_ok h).1]
      rfl
    · rfl

def withArguments (t : SlotTable) (vs : List SlotValue) : SlotTable :=
  { t with params := t.params.zipWith (fun s v => { s with value := v }) vs }

def withResult (t : SlotTable) (v : SlotValue) : SlotTable := { t with result := { t.result with value := v } }

private theorem fill_after (r : Slot) (pre post : List Slot) (vs : List SlotValue)
    (h : vs.map SlotValue.kind = post.map Slot.kind) :
    (mk r (pre ++ post)).fill (pre.length + 1) vs =
      (.ok (), ⟨r, pre ++ post.zipWith (fun s v => { s with value := v }) vs⟩) := by
  induction vs generalizing pre post with
  | nil =>
    obtain rfl : post = [] := List.map_eq_nil_iff.mp h.symm
    rfl
  | cons v vs ih =>
    obtain ⟨s, post, rfl, hk, ht⟩ : ∃ s rest, post = s :: rest ∧ v.kind = s.kind ∧
        vs.map SlotValue.kind = rest.map Slot.kind := by
      cases post with
      | nil => cases h
      | cons s rest =>
        injection h with hk ht
        exact ⟨s, rest, rfl, hk, ht⟩
    have hs : (mk r (pre ++ s :: post)).set (pre.length + 1) v =
        .ok ⟨r, (pre ++ [{ s with value := v }]) ++ post⟩ := by
      have hg : (mk r (pre ++ s :: post)).slot? (pre.length + 1) = some s := by simp [slot?, slots]
      simp [set, hg, hk, put, List.modify_eq_take_drop]
    have hn := ih (pre ++ [{ s with value := v }]) post ht
    rw [List.length_append, List.length_singleton] at hn
    rw [fill, hs]
    simpa using hn

/-- Values of the kinds of the parameter slots are all written, and the result slot keeps its value. -/
theorem fill_eq (t : SlotTable) (vs : List SlotValue) (h : vs.map SlotValue.kind = t.params.map Slot.kind) :
    t.fill 1 vs = (.ok (), t.withArguments vs) :=
  fill_after t.result [] t.params vs h

private theorem clear_withArguments (t : SlotTable) (vs : List SlotValue)
    (h : vs.map SlotValue.kind = t.params.map Slot.kind) : (t.withArguments vs).clear = t.clear := by
  have hf := clear_fill t 1 vs
  rwa [fill_eq t vs h] at hf

/-- Written arguments leave no trace of the values that stood in the parameter slots before. -/
theorem params_withArguments_of_clear {t t' : SlotTable} (vs : List SlotValue) (h : t'.clear = t.clear) :
    (t'.withArguments vs).params = (t.withArguments vs).params := by
  have hp : t'.params.map (fun s => { s with value := SlotValue.void }) =
      t.params.map (fun s => { s with value := SlotValue.void }) := congrArg SlotTable.params h
  have hz (l : List Slot) : l.zipWith (fun s v => { s with value := v }) vs =
      (l.map (fun s => { s with value := SlotValue.void })).zipWith (fun s v => { s with value := v }) vs := by
    rw [List.zipWith_map_left]
  simp only [withArguments]
  rw [hz t'.params, hp, ← hz]

theorem withArguments_of_clear {t t' : SlotTable} (vs : List SlotValue) (h : t'.clear = t.clear)
    (hr : t'.result = t.result) : t'.withArguments vs = t.withArguments vs := by
  have hp := params_withArguments_of_clear vs h
  simp only [withArguments, mk.injEq] at hp ⊢
  exact ⟨hr, hp⟩

/-- The result slot takes exactly the values of its kind. -/
theorem setResult_eq (t : SlotTable) (v : SlotValue) :
    t.setResult v = if v.kind = t.result.kind then .ok (t.withResult v)
      else .error (.slotKindMismatch 0 t.result.kind v.kind) := rfl

theorem map_kind_of_clear {t t' : SlotTable} (h : t'.clear = t.clear) :
    t'.params.map Slot.kind = t.params.map Slot.kind := by
  have hp := congrArg (fun u : SlotTable => u.params.map Slot.kind) h
  simpa [clear, Function.comp_def] using hp

theorem clear_withArguments_of_clear {t t' : SlotTable} {vs : List SlotValue}
    (hk : vs.map SlotValue.kind = t.params.map Slot.kind) (h : t'.clear = t.clear) :
    (t'.withArguments vs).clear = (t.withArguments vs).clear := by
  have hk' : vs.map SlotValue.kind = t'.params.map Slot.kind := hk.trans (map_kind_of_clear h).symm
  rw [clear_withArguments t' vs hk', clear_withArguments t vs hk, h]

theorem result_kind_of_clear {t t' : SlotTable} (h : t'.clear = t.clear) : t'.result.kind = t.result.kind := by
  have hr := congrArg (fun u : SlotTable => u.result.kind) h
  exact hr

end ScriptBridge.SlotTable
