/-! Finite maps as lists of pairs in which no key occurs twice. -/
namespace ScriptBridge

structure Directory (κ ν : Type) where
  entries : List (κ × ν)
  distinct : (entries.map Prod.fst).Nodup

namespace Directory

private theorem filter_distinct {κ ν : Type} (d : Directory κ ν) (p : κ × ν → Bool) :
    ((d.entries.filter p).map Prod.fst).Nodup :=
  d.distinct.sublist (List.filter_sublist.map Prod.fst)

variable {κ ν : Type} [DecidableEq κ]

def empty : Directory κ ν := ⟨[], List.nodup_nil⟩

def find? (d : Directory κ ν) (k : κ) : Option ν := d.entries.lookup k

def contains (d : Directory κ ν) (k : κ) : Bool := (d.find? k).isSome

def size (d : Directory κ ν) : Nat := d.entries.length

def keys (d : Directory κ ν) : List κ := d.entries.map Prod.fst

def erase (d : Directory κ ν) (k : κ) : Directory κ ν :=
  ⟨d.entries.filter (·.1 ≠ k), d.filter_distinct _⟩

def insert (d : Directory κ ν) (k : κ) (v : ν) : Directory κ ν where
  entries := (k, v) :: (d.erase k).entries
  distinct := by
    rw [List.map_cons, List.nodup_cons]
    refine ⟨?_, (d.erase k).distinct⟩
    simp [erase]

def modify (d : Directory κ ν) (k : κ) (f : ν → ν) : Directory κ ν where
  entries := d.entries.map fun e => (e.1, if e.1 = k then f e.2 else e.2)
  distinct := by
    rw [List.map_map]
    exact d.distinct

@[simp] theorem find?_empty (k : κ) : (empty : Directory κ ν).find? k = none := rfl

theorem lookup_cons_eq (e : κ × ν) (rest : List (κ × ν)) (l : κ) :
    (e :: rest).lookup l = if l = e.1 then some e.2 else rest.lookup l := by
  rw [List.lookup_cons]
  by_cases h : l = e.1
  · simp [h]
  · rw [beq_eq_false_iff_ne.mpr h, if_neg h]

theorem lookup_filter_ne (entries : List (κ × ν)) (k l : κ) :
    (entries.filter (·.1 ≠ k)).lookup l = if l = k then none else entries.lookup l := by
  induction entries with
  | nil => simp
  | cons e rest ih =>
    by_cases hk : e.1 = k
    · rw [List.filter_cons_of_neg (by simp [hk]), ih, lookup_cons_eq, hk]
      by_cases hl : l = k <;> simp [hl]
    · rw [List.filter_cons_of_pos (by simp [hk]), lookup_cons_eq, lookup_cons_eq, ih]
      by_cases hl : l = e.1
      · rw [if_pos hl, if_pos hl, if_neg (hl ▸ hk)]
      · rw [if_neg hl, if_neg hl]

private theorem lookup_map_snd (entries : List (κ × ν)) (k l : κ) (f : ν → ν) :
    (entries.map fun e => (e.1, if e.1 = k then f e.2 else e.2)).lookup l =
      if l = k then (entries.lookup l).map f else entries.lookup l := by
  induction entries with
  | nil => simp
  | cons e rest ih =>
    rw [List.map_cons, lookup_cons_eq, lookup_cons_eq, ih]
    by_cases hl : l = e.1
    · subst hl
      by_cases hk : e.1 = k <;> simp [hk]
    · rw [if_neg hl, if_neg hl]

/-- What is erased is gone, and the rest stays. -/
theorem find?_erase (d : Directory κ ν) (k l : κ) :
    (d.erase k).find? l = if l = k then none else d.find? l :=
  lookup_filter_ne d.entries k l

/-- The value that was put in last is found. -/
theorem find?_insert (d : Directory κ ν) (k l : κ) (v : ν) :
    (d.insert k v).find? l = if l = k then some v else d.find? l := by
  refine (lookup_cons_eq (k, v) _ l).trans ?_
  by_cases hl : l = k
  · rw [if_pos hl, if_pos hl]
  · rw [if_neg hl, if_neg hl]
    exact (d.find?_erase k l).trans (if_neg hl)

/-- A change reaches the value under its key and no other. -/
theorem find?_modify (d : Directory κ ν) (k l : κ) (f : ν → ν) :
    (d.modify k f).find? l = if l = k then (d.find? l).map f else d.find? l :=
  lookup_map_snd d.entries k l f

theorem isSome_find?_modify (d : Directory κ ν) (k l : κ) (f : ν → ν) :
    ((d.modify k f).find? l).isSome = (d.find? l).isSome := by
  rw [find?_modify]
  split
  · exact Option.isSome_map
  · rfl

theorem mem_keys (d : Directory κ ν) (k : κ) : k ∈ d.keys ↔ (d.find? k).isSome = true := by
  rw [find?, List.lookup_isSome_iff]
  simp [keys]

/-- To put a value in and change it is to put in the changed value. -/
theorem modify_insert (d : Directory κ ν) (k : κ) (v : ν) (f : ν → ν) :
    (d.insert k v).modify k f = d.insert k (f v) := by
  simp only [modify, insert, erase, List.map_cons, if_true, mk.injEq, List.cons.injEq, true_and]
  refine (List.map_congr_left fun e he => ?_).trans (List.map_id _)
  have other : e.1 ≠ k := of_decide_eq_true (List.mem_filter.mp he).2
  rw [if_neg other]
  rfl

@[simp] theorem keys_modify (d : Directory κ ν) (k : κ) (f : ν → ν) : (d.modify k f).keys = d.keys := by
  simp only [keys, modify, List.map_map]
  rfl

private theorem lookup_eq_none {entries : List (κ × ν)} {k : κ} (h : k ∉ entries.map Prod.fst) :
    entries.lookup k = none := by
  refine List.lookup_eq_none_iff.mpr fun e he => bne_iff_ne.mpr ?_
  rintro rfl
  exact h (List.mem_map_of_mem he)

private theorem eq_of_lookup {entries entries' : List (κ × ν)} (distinct : (entries.map Prod.fst).Nodup)
    (keys : entries'.map Prod.fst = entries.map Prod.fst) (values : ∀ k, entries'.lookup k = entries.lookup k) :
    entries' = entries := by
  induction entries generalizing entries' with
  | nil => exact List.map_eq_nil_iff.mp keys
  | cons e rest ih =>
    obtain ⟨e', rest', rfl, head, tail⟩ := List.map_eq_cons_iff.mp keys
    obtain ⟨fresh, others⟩ := List.nodup_cons.mp distinct
    have value := values e.1
    rw [lookup_cons_eq, lookup_cons_eq, if_pos head.symm, if_pos rfl] at value
    obtain rfl : e' = e := Prod.ext head (Option.some.inj value)
    refine congrArg (e' :: ·) (ih others tail fun k => ?_)
    by_cases hk : k = e'.1
    · subst hk
      rw [lookup_eq_none fresh, lookup_eq_none (tail ▸ fresh)]
    · have value := values k
      rwa [lookup_cons_eq, lookup_cons_eq, if_neg hk, if_neg hk] at value

/-- A directory is given by its keys in their order and the values that it has for them. -/
theorem eq_of_find? {d d' : Directory κ ν} (keys : d'.keys = d.keys) (values : ∀ k, d'.find? k = d.find? k) :
    d' = d := by
  obtain ⟨entries, distinct⟩ := d
  obtain ⟨entries', distinct'⟩ := d'
  obtain rfl := eq_of_lookup distinct keys values
  rfl

end Directory
end ScriptBridge
