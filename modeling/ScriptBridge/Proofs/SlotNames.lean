import Mathlib.Data.List.Nodup
import ScriptBridge.Proofs.SlotLayout

/-! Which slot a name leads to: the first one whose name has its hash. Native parameters have names by position, and
each of these leads to its own slot. A script names its parameters as it likes, so that a name may lead to an earlier
slot. -/
namespace ScriptBridge
namespace SlotTable
variable {t : SlotTable} {i : Nat} {s : Slot} {key : UInt32}

structure IsFirst (t : SlotTable) (key : UInt32) (i : Nat) : Prop where
  here : ∃ s, t.slot? i = some s ∧ nameHash s.name = key
  unseen : ∀ j < i, ∀ s, t.slot? j = some s → nameHash s.name ≠ key

def FindsEach (t : SlotTable) : Prop := ∀ i s, t.slot? i = some s → t.find? s.key = some i

private theorem find?_eq_some_iff : t.find? key = some i ↔ t.IsFirst key i := by
  rw [find?, List.findIdx?_eq_some_iff_getElem]
  constructor
  · rintro ⟨inside, here, unseen⟩
    refine ⟨⟨t.slots[i], List.getElem?_eq_getElem inside, eq_of_beq here⟩, fun j hj s hs same => ?_⟩
    obtain ⟨_, rfl⟩ := List.getElem?_eq_some_iff.mp hs
    exact unseen j hj (beq_iff_eq.mpr same)
  · rintro ⟨⟨s, hs, here⟩, unseen⟩
    obtain ⟨inside, rfl⟩ := List.getElem?_eq_some_iff.mp hs
    refine ⟨inside, beq_iff_eq.mpr here, fun j hj same => ?_⟩
    exact unseen j hj _ (List.getElem?_eq_getElem (Nat.lt_trans hj inside)) (eq_of_beq same)

/-- The name of a slot leads to it exactly if no slot before it has a name of the same hash. -/
theorem find?_key_iff (hs : t.slot? i = some s) :
    t.find? s.key = some i ↔ ∀ j < i, ∀ s', t.slot? j = some s' → nameHash s'.name ≠ nameHash s.name := by
  rw [find?_eq_some_iff]
  exact ⟨IsFirst.unseen, fun unseen => ⟨⟨s, hs, rfl⟩, unseen⟩⟩

/-- The name of a slot leads somewhere, and never beyond the slot. -/
theorem find?_key (hs : t.slot? i = some s) : ∃ j ≤ i, t.find? s.key = some j := by
  have found : (t.find? s.key).isSome = true := by
    rw [find?, List.findIdx?_isSome, List.any_eq_true]
    exact ⟨s, List.mem_of_getElem? hs, beq_self_eq_true _⟩
  obtain ⟨j, hj⟩ := Option.isSome_iff_exists.mp found
  refine ⟨j, ?_, hj⟩
  by_contra beyond
  exact (find?_eq_some_iff.mp hj).unseen i (Nat.lt_of_not_le beyond) s hs rfl

/-- Every slot is found by its name exactly if no two names have one hash. -/
theorem findsEach_iff : t.FindsEach ↔ (t.slots.map Slot.key).Nodup := by
  rw [List.nodup_iff_getElem?_ne_getElem?]
  constructor
  · intro each j i hji hi heq
    rw [List.length_map] at hi
    rw [List.getElem?_map, List.getElem?_map, List.getElem?_eq_getElem hi,
      List.getElem?_eq_getElem (Nat.lt_trans hji hi)] at heq
    have hs : t.slot? i = some t.slots[i] := List.getElem?_eq_getElem hi
    have hj := List.getElem?_eq_getElem (Nat.lt_trans hji hi)
    exact (find?_key_iff hs).mp (each i _ hs) j hji _ hj (Option.some.inj heq)
  · intro distinct i s hs
    rw [find?_key_iff hs]
    intro j hji s' hs' heq
    obtain ⟨hi, -⟩ := List.getElem?_eq_some_iff.mp hs
    refine distinct j i hji (by rwa [List.length_map]) ?_
    rw [List.getElem?_map, List.getElem?_map]
    calc
      t.slots[j]?.map Slot.key = some s'.key := congrArg (Option.map Slot.key) hs'
      _ = some s.key := congrArg some heq
      _ = t.slots[i]?.map Slot.key := (congrArg (Option.map Slot.key) hs).symm

section Layout
variable {α : Type} {name : α → Nat → String} {kind : α → Kind} {type : α → Option HostType} {result : Kind}
  {resultType : Option HostType} {params : List α}

private theorem keys_layout : (layout name kind type result resultType params).slots.map Slot.key =
    nameHash "__return" :: (params.zipIdx 1).map fun (p, i) => nameHash (name p i) := by
  rw [slots, List.map_cons, layout, parameterSlots, List.map_map]
  rfl

/-- The reserved name leads to the slot of the result, whatever the parameters are called. -/
theorem find?_return (name : α → Nat → String) (kind : α → Kind) (type : α → Option HostType) (result : Kind)
    (resultType : Option HostType) (params : List α) :
    (layout name kind type result resultType params).find? (nameHash "__return") = some 0 :=
  find?_eq_some_iff.mpr ⟨⟨_, rfl, rfl⟩, fun _ hj => absurd hj (Nat.not_lt_zero _)⟩

end Layout

private theorem keys_nativeLayout (kinds : KindMap) (result : HostType) (params : List HostType) :
    (nativeLayout kinds result params).slots.map Slot.key =
      nameHash "__return" :: (List.range' 1 params.length).map fun i => nameHash (parameterName i) := by
  rw [nativeLayout, keys_layout, ← List.zipIdx_map_snd 1 params, List.map_map]
  rfl

private theorem keys_scriptLayout (result : Kind) (params : List (String × Kind)) :
    (scriptLayout result params).slots.map Slot.key = ("__return" :: params.map Prod.fst).map nameHash := by
  rw [scriptLayout, keys_layout, List.map_cons, List.map_map]
  conv_rhs => rw [← List.zipIdx_map_fst 1 params, List.map_map]
  rfl

/-- The hashes of the names by position differ from each other and from that of the reserved name. -/
theorem positional_keys_nodup :
    (nameHash "__return" :: (List.range' 1 15).map fun i => nameHash (parameterName i)).Nodup := by
  decide +kernel

private theorem findsEach_nativeLayout (kinds : KindMap) (result : HostType) {params : List HostType}
    (few : params.length ≤ 15) : (nativeLayout kinds result params).FindsEach := by
  rw [findsEach_iff, keys_nativeLayout]
  refine positional_keys_nodup.sublist (List.Sublist.cons_cons _ (List.Sublist.map _ ?_))
  exact List.range'_sublist_right.mpr few

structure ScriptNames (params : List (String × Kind)) (t : SlotTable) : Prop where
  reserved : t.find? (nameHash "__return") = some 0
  /-- The name of a slot leads to the first slot with a name of the same hash. -/
  first : ∀ i s, t.slot? i = some s → ∃ j ≤ i, t.find? s.key = some j ∧ t.IsFirst s.key j
  /-- A parameter is found by its name exactly if its hash is not that of the reserved name or of an earlier one. -/
  parameter_iff : ∀ i p, params[i]? = some p → (t.find? (nameHash p.1) = some (i + 1) ↔
    nameHash p.1 ≠ nameHash "__return" ∧ ∀ j < i, ∀ q, params[j]? = some q → nameHash q.1 ≠ nameHash p.1)
  all_iff : t.FindsEach ↔ (("__return" :: params.map Prod.fst).map nameHash).Nodup

private theorem scriptNames (result : Kind) (params : List (String × Kind)) :
    ScriptNames params (scriptLayout result params) where
  reserved := find?_return ..
  first i s hs := by
    obtain ⟨j, hj, found⟩ := find?_key hs
    exact ⟨j, hj, found, find?_eq_some_iff.mp found⟩
  parameter_iff i p hp := by
    have slot {j : Nat} {q : String × Kind} (hq : params[j]? = some q) :
        (scriptLayout result params).slot? (j + 1) = some ⟨q.1, q.2, none, .void⟩ :=
      @getElem?_parameterSlots (String × Kind) (fun p _ => p.1) Prod.snd (fun _ => none) 1 j params q hq
    refine (find?_key_iff (slot hp)).trans ⟨fun unseen => ⟨?_, ?_⟩, ?_⟩
    · exact (unseen 0 (Nat.succ_pos i) _ rfl).symm
    · intro j hj q hq
      exact unseen (j + 1) (Nat.succ_lt_succ hj) _ (slot hq)
    · rintro ⟨unreserved, unseen⟩ j hj s' hs'
      cases j with
      | zero =>
        cases hs'
        exact unreserved.symm
      | succ j =>
        have hi : j < params.length := Nat.lt_trans (Nat.lt_of_succ_lt_succ hj) (List.getElem?_eq_some_iff.mp hp).1
        rw [slot (List.getElem?_eq_getElem hi)] at hs'
        cases hs'
        exact unseen j (Nat.lt_of_succ_lt_succ hj) _ (List.getElem?_eq_getElem hi)
  all_iff := by rw [findsEach_iff, keys_scriptLayout]

/-- Each name of a native table with at most fifteen parameters leads to its own slot. In the table of a function that a
script declares, a name leads to the first slot whose name has the same hash, and the reserved name to the result. -/
theorem names_lead_to_slots :
    (∀ kinds result params t, ofSignature kinds result params = .ok t → params.length ≤ 15 →
      t.FindsEach ∧ t.find? (nameHash "__return") = some 0) ∧
    ∀ result params t, ofScript result params = .ok t → ScriptNames params t := by
  constructor
  · intro kinds result params t h few
    obtain ⟨-, -, rfl⟩ := ofSignature_eq_ok_iff.mp h
    exact ⟨findsEach_nativeLayout kinds result few, find?_return ..⟩
  · intro result params t h
    obtain ⟨-, -, rfl⟩ := ofScript_eq_ok_iff.mp h
    exact scriptNames result params

/-- Names of their own lead to their slots, in a native table as in one of a script. -/
theorem names_lead_to_slots_lerp :
    (∃ t, ofSignature .builtIn .float [.float, .vector] = .ok t ∧ t.find? (nameHash "_p2") = some 2) ∧
    ∃ t, ofScript .float [("from", .float), ("to", .float)] = .ok t ∧ t.find? (nameHash "to") = some 2 := by
  obtain ⟨native, script⟩ := names_lead_to_slots
  refine ⟨⟨_, rfl, ?_⟩, ⟨_, rfl, ?_⟩⟩
  · exact (native .builtIn .float [.float, .vector] _ rfl (by decide)).1 2 _ rfl
  · refine ((script .float [("from", .float), ("to", .float)] _ rfl).parameter_iff 1 _ rfl).mpr ⟨by decide +kernel, ?_⟩
    intro j hj q hq
    obtain rfl : j = 0 := by omega
    cases hq
    decide +kernel

/-- A script may give two parameters one name, which then leads to the first of them. -/
theorem repeated_name_misled :
    ∃ t s, ofScript .int [("step", .int), ("step", .int)] = .ok t ∧ t.slot? 2 = some s ∧ t.find? s.key = some 1 ∧
      ¬ t.FindsEach := by
  refine ⟨_, _, rfl, rfl, by decide +kernel, fun each => ?_⟩
  have found := each 2 _ rfl
  exact absurd found (by decide +kernel)

end SlotTable
end ScriptBridge
