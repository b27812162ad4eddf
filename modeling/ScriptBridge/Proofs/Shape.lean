import ScriptBridge.Call
import ScriptBridge.Proofs.Registration
import ScriptBridge.Proofs.SlotWrites

/-! The shape of a registry: all of it but the values in the slots. Writing through the setters never changes it. -/
namespace ScriptBridge

def Entry.blank {P : Type} (e : Entry P) : Entry P := { e with table := e.table.clear }

structure Registry.Alike {P : Type} (r r' : Registry P) : Prop where
  config : r'.config = r.config
  kinds : r'.kinds = r.kinds
  entries : ∀ key, (r'.find? key).map Entry.blank = (r.find? key).map Entry.blank

namespace Registry.Alike
variable {P : Type} {r r' r'' : Registry P}

theorem refl (r : Registry P) : Alike r r := ⟨rfl, rfl, fun _ => rfl⟩

theorem trans (h : Alike r r') (j : Alike r' r'') : Alike r r'' :=
  ⟨j.config.trans h.config, j.kinds.trans h.kinds, fun key => (j.entries key).trans (h.entries key)⟩

theorem symm (h : Alike r r') : Alike r' r := ⟨h.config.symm, h.kinds.symm, fun key => (h.entries key).symm⟩

theorem find? (h : Alike r r') {key : EntryKey} {e' : Entry P} (he : r'.find? key = some e') :
    ∃ e, r.find? key = some e ∧ e'.blank = e.blank := by
  have hk := h.entries key
  rw [he] at hk
  obtain ⟨e, hf, hb⟩ := Option.map_eq_some_iff.mp hk.symm
  exact ⟨e, hf, hb.symm⟩

end Registry.Alike

namespace Entry
variable {P : Type} {e e' : Entry P}

theorem key_of_blank (h : e'.blank = e.blank) : e'.key = e.key := (congrArg Entry.key h :)

theorem signature_of_blank (h : e'.blank = e.blank) : e'.signature = e.signature := (congrArg Entry.signature h :)

theorem arity_of_blank (h : e'.blank = e.blank) : e'.arity = e.arity := congrArg Signature.arity (signature_of_blank h)

theorem qualified_of_blank (h : e'.blank = e.blank) : e'.qualified = e.qualified := (congrArg Entry.qualified h :)

theorem behaviour_of_blank (h : e'.blank = e.blank) : e'.behaviour = e.behaviour := (congrArg Entry.behaviour h :)

theorem clear_of_blank (h : e'.blank = e.blank) : e'.table.clear = e.table.clear := (congrArg Entry.table h :)

private theorem ofTable_clear (t : SlotTable) : Signature.ofTable t.clear = Signature.ofTable t := by
  simp [Signature.ofTable, SlotTable.clear, Function.comp_def]

theorem coherent_of_blank (h : e'.blank = e.blank) (he : e.Coherent) : e'.Coherent := by
  unfold Coherent at he ⊢
  rw [signature_of_blank h, he, ← ofTable_clear e'.table, clear_of_blank h, ofTable_clear]

end Entry

/-- What is coherent before slots change is so afterwards. -/
theorem Registry.Alike.coherent {P : Type} {r r' : Registry P} (h : r.Alike r') (hr : Coherent r.entries) :
    Coherent r'.entries := by
  intro key e' he'
  obtain ⟨e, he, hb⟩ := h.find? he'
  obtain ⟨hk, hc⟩ := hr key e he
  exact ⟨(Entry.key_of_blank hb).trans hk, Entry.coherent_of_blank hb hc⟩

namespace World
variable {P H : Type}

def hold (w : World P H) (key : EntryKey) : World P H := { w with held := key :: w.held }

def release (w : World P H) (key : EntryKey) : World P H := { w with held := w.held.erase key }

/-- The state in which the code of an entry starts: its table in use and its arguments written. -/
def enter (w : World P H) (key : EntryKey) (values : List SlotValue) : World P H := ((w.hold key).fill key values).2

def borrow (w : World P H) (id : ObjectId) : World P H :=
  { w with objects := { w.objects with borrowed := id :: w.objects.borrowed } }

def giveBack (w : World P H) (id : ObjectId) : World P H :=
  { w with objects := { w.objects with borrowed := w.objects.borrowed.erase id } }

theorem borrowing_none {α : Type} {w : World P H} {id : ObjectId} (body : HostObject → World P H → α × World P H)
    (h : w.objects.available? id = none) : w.borrowing id body = (none, w) := by
  simp only [borrowing, h]

theorem borrowing_some {α : Type} {w : World P H} {id : ObjectId} {object : HostObject}
    (body : HostObject → World P H → α × World P H) (h : w.objects.available? id = some object) :
    w.borrowing id body = (some (body object (w.borrow id)).1, (body object (w.borrow id)).2.giveBack id) := by
  simp only [borrowing, h]
  rfl

theorem giveBack_borrow (w : World P H) (id : ObjectId) : (w.borrow id).giveBack id = w := by
  simp only [borrow, giveBack, List.erase_cons_head]

section Typed
variable {α : Type} {w : World P H} {c : HostClass} {id : ObjectId} {object : HostObject}
  (body : c.State → World P H → α × World P H)

theorem borrowingAs_none (h : w.objects.available? id = none) : w.borrowingAs c id body = (none, w) := by
  simp only [borrowingAs, borrowing_none _ h, Option.join_none]

theorem borrowingAs_some {state : c.State} (h : w.objects.available? id = some object)
    (hc : object.stateOf? c = some state) : w.borrowingAs c id body =
      (some (body state (w.borrow id)).1, (body state (w.borrow id)).2.giveBack id) := by
  simp only [borrowingAs, borrowing_some _ h, hc, Option.join_some]

/-- An object of another class is left as it is. -/
theorem borrowingAs_other (h : w.objects.available? id = some object) (hc : object.stateOf? c = none) :
    w.borrowingAs c id body = (none, w) := by
  simp only [borrowingAs, borrowing_some _ h, hc, Option.join_some, giveBack_borrow]

end Typed

/-- To look at the state of an object is to use the object for a moment. -/
theorem borrowingAs_read (w : World P H) (c : HostClass) (id : ObjectId) :
    w.borrowingAs c id (fun state w => (state, w)) = ((w.objects.available? id).bind (·.stateOf? c), w) := by
  cases h : w.objects.available? id with
  | none => rw [borrowingAs_none _ h, Option.bind_none]
  | some object =>
    rw [Option.bind_some]
    cases hc : object.stateOf? c with
    | none => rw [borrowingAs_other _ h hc]
    | some state => rw [borrowingAs_some _ h hc, giveBack_borrow]

theorem find?_putTable (w : World P H) (key l : EntryKey) (t : SlotTable) :
    (w.putTable key t).registry.find? l =
      if l = key then (w.registry.find? l).map (fun e => { e with table := t }) else w.registry.find? l :=
  Directory.find?_modify w.registry.entries key l _

theorem table?_putTable (w : World P H) (key l : EntryKey) (t : SlotTable) :
    (w.putTable key t).table? l = if l = key then (w.table? l).map (fun _ => t) else w.table? l := by
  unfold table?
  rw [find?_putTable]
  split
  · rw [Option.map_map, Option.map_map]
    rfl
  · rfl

theorem resultValue_putTable {w : World P H} {key : EntryKey} {t : SlotTable} (ht : w.table? key = some t)
    (t' : SlotTable) : (w.putTable key t').resultValue key = t'.result.value := by
  simp only [resultValue, table?_putTable, if_true, ht]
  rfl

/-- A table replaced by one of its own shape leaves the registry alike. -/
theorem alike_putTable {w : World P H} {key : EntryKey} {t t' : SlotTable} (ht : w.table? key = some t)
    (h : t'.clear = t.clear) : w.registry.Alike (w.putTable key t').registry := by
  refine ⟨rfl, rfl, fun l => ?_⟩
  rw [find?_putTable]
  split
  · rename_i hl
    subst hl
    obtain ⟨e, he, rfl⟩ := Option.map_eq_some_iff.mp ht
    rw [he]
    exact congrArg some (congrArg (fun t => { e with table := t }) h)
  · rfl

theorem fill_snd (w : World P H) (key : EntryKey) (values : List SlotValue) :
    (w.fill key values).2 = ((w.table? key).map fun t => w.putTable key (t.fill 1 values).2).getD w := by
  unfold fill
  cases w.table? key <;> rfl

theorem enter_eq (w : World P H) (key : EntryKey) (values : List SlotValue) :
    w.enter key values =
      ((w.table? key).map fun t => (w.hold key).putTable key (t.fill 1 values).2).getD (w.hold key) :=
  fill_snd (w.hold key) key values

/-- Entering takes the table and touches neither the objects nor the journal nor the host. -/
theorem enter_rest (w : World P H) (key : EntryKey) (values : List SlotValue) :
    (w.enter key values).held = key :: w.held ∧ (w.enter key values).objects = w.objects ∧
      (w.enter key values).journal = w.journal ∧ (w.enter key values).host = w.host := by
  rw [enter_eq]
  cases w.table? key <;> exact ⟨rfl, rfl, rfl, rfl⟩

theorem enter_alike (w : World P H) (key : EntryKey) (values : List SlotValue) :
    w.registry.Alike (w.enter key values).registry := by
  rw [enter_eq]
  cases ht : w.table? key with
  | none => exact .refl _
  | some t => exact alike_putTable (w := w.hold key) ht (t.clear_fill 1 values)

/-- Entering writes the arguments of the entry and no other table. -/
theorem enter_table? (w : World P H) (key l : EntryKey) (values : List SlotValue) :
    (w.enter key values).table? l =
      if l = key then (w.table? l).map (fun t => (t.fill 1 values).2) else w.table? l := by
  rw [enter_eq]
  cases ht : w.table? key with
  | none =>
    split
    · rename_i hl
      subst hl
      rw [ht]
      exact ht
    · rfl
  | some t =>
    refine (table?_putTable (w.hold key) key l _).trans ?_
    split
    · rename_i hl
      subst hl
      rw [ht]
      exact congrArg (Option.map _) ht
    · rfl

/-- Entering leaves alone every table in use, since it takes a free one. -/
theorem enter_table?_of_held {w : World P H} {key l : EntryKey} (values : List SlotValue) (free : key ∉ w.held)
    (held : l ∈ w.held) : (w.enter key values).table? l = w.table? l := by
  rw [enter_table?, if_neg]
  rintro rfl
  exact free held

end World
end ScriptBridge
