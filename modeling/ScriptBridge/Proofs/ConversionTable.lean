import ScriptBridge.Proofs.ArgumentKinds

/-! Which values convert to which kinds. A conversion settles the value: doing it once more changes nothing. -/
namespace ScriptBridge.Conversion

def casts : Kind → List Kind
  | .int => [.float, .bool, .object]
  | .float => [.int, .bool]
  | .bool => [.int, .float]
  | .object => [.int, .bool]
  | .void | .string | .vector | .unregistered => []

/-- A value converts to a kind. Only for a text that should become a vector does this depend on more than its kind. -/
inductive Convertible (v : SlotValue) : Kind → Prop where
  | same : Convertible v v.kind
  | dropped : Convertible v .void
  | written (hv : v ≠ .void) : Convertible v .string
  | read {s : String} {k : Kind} (hv : v = .string s) (hk : k ∈ [Kind.int, .float, .bool, .object]) : Convertible v k
  | readVector {s : String} (hv : v = .string s) (hs : (readVector? s).isSome = true) : Convertible v .vector
  | cast {k : Kind} (hk : k ∈ casts v.kind) : Convertible v k

/-- A text is read as every known kind, but as a vector only if it is one. -/
theorem convertible_of_ofText? {s : String} {k : Kind} (h : (ofText? s k).isSome = true) :
    Convertible (.string s) k := by
  cases k with
  | void => exact .dropped
  | string => exact .same
  | int | float | bool | object => exact .read rfl (by decide)
  | vector => exact .readVector rfl (Option.isSome_map.symm.trans h)
  | unregistered => cases h

private theorem convertible_of_convert? {live : ObjectId → Bool} {v : SlotValue} {k : Kind}
    (h : (convert? live v k).isSome = true) : Convertible v k := by
  unfold convert? at h
  split at h
  · rename_i hk
    exact hk ▸ .same
  · split at h
    case h_1 => exact .dropped
    case h_4 => exact convertible_of_ofText? h
    case h_5 v hv _ _ => exact .written hv
    all_goals first
      | exact .cast (List.mem_of_elem_eq_true rfl)
      | cases h

/-- Whether a value converts does not depend on which objects there are. -/
theorem isSome_convert?_iff (live : ObjectId → Bool) (v : SlotValue) (k : Kind) :
    (convert? live v k).isSome = true ↔ Convertible v k := by
  refine ⟨convertible_of_convert?, fun h => ?_⟩
  cases h with
  | same => rw [convert?_same live rfl, Option.isSome_some]
  | dropped => cases v <;> rfl
  | written hv =>
    cases v with
    | void => exact absurd rfl hv
    | _ => rfl
  | read hv hk =>
    subst hv
    cases k with
    | int | float | bool | object => rfl
    | _ => exact absurd hk (by decide)
  | readVector hv hs =>
    subst hv
    exact Option.isSome_map.trans hs
  | cast hk =>
    cases v <;> simp only [SlotValue.kind, casts, List.mem_cons, List.not_mem_nil, or_false] at hk
    case int => rcases hk with rfl | rfl | rfl <;> rfl
    all_goals rcases hk with rfl | rfl <;> rfl

structure Settles (live : ObjectId → Bool) : Prop where
  /-- A value converts to one of the kind asked for, which then stays as it is. -/
  kind : ∀ v k w, convert? live v k = some w → w.kind = k ∧ convert? live w k = some w
  same : ∀ v, convert? live v v.kind = some v
  domain : ∀ v k, (convert? live v k).isSome = true ↔ Convertible v k
  /-- An integer becomes the id of its 32 bits if that may be taken, and else the null id, which has the bits of
  zero. -/
  object : ∀ i : Int32, ∃ id : ObjectId, convert? live (.int i) .object = some (.object id) ∧
    (live ⟨i.toUInt32⟩ = true → id = ⟨i.toUInt32⟩) ∧ (live ⟨i.toUInt32⟩ = false → id = .none)

/-- Conversion gives the kind asked for wherever it is defined, and it is defined exactly on the convertible pairs. -/
theorem conversion_settles (live : ObjectId → Bool) : Settles live := by
  constructor
  · intro v k w h
    have hk : w.kind = k := convert?_kind h
    exact ⟨hk, convert?_same live hk⟩
  · exact fun v => convert?_same live rfl
  · exact isSome_convert?_iff live
  · intro i
    exact ⟨_, rfl, fun h => if_pos h, fun h => if_neg (Bool.eq_false_iff.mp h)⟩

end ScriptBridge.Conversion
