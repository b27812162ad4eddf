import Mathlib.Data.List.Induction
import Mathlib.Data.List.Nodup
import ScriptBridge.HostLibrary
import ScriptBridge.ObjectTable

/-! Identity of host objects. Over every run an id stands for one object only, from its registration to its removal, and
the table by address never names an object that is gone. -/
namespace ScriptBridge.ObjectTable

/-- What happens to a table of objects. Objects come to lie at any address; between registration and removal they are
put in use, given back, and changed by their methods. -/
inductive Event where
  | register (address : Address) (object : HostObject) (namespaces : List UInt32)
  | remove (c : HostClass) (id : ObjectId)
  | borrow (id : ObjectId)
  | giveBack (id : ObjectId)
  | put (id : ObjectId) (object : HostObject)

def Event.registers : Event → Bool
  | .register .. => true
  | _ => false

def apply (t : ObjectTable) : Event → ObjectTable
  | .register address object namespaces => (t.register address object namespaces).2
  | .remove c id => (t.remove c id).2
  | .borrow id => { t with borrowed := id :: t.borrowed }
  | .giveBack id => { t with borrowed := t.borrowed.erase id }
  | .put id object => t.put id object

def after (t : ObjectTable) (events : List Event) : ObjectTable := events.foldl apply t

def handsOut? (t : ObjectTable) : Event → Option ObjectId
  | .register address object namespaces => some (t.register address object namespaces).1
  | _ => none

def handedOut (t : ObjectTable) : List Event → List ObjectId
  | [] => []
  | e :: rest => (t.handsOut? e).toList ++ (t.apply e).handedOut rest

def registrations (events : List Event) : Nat := events.countP Event.registers

/-- An id was handed out in a run that began without objects, and not removed since. -/
def Stands (events : List Event) (id : ObjectId) : Prop :=
  ∃ before e later, events = before ++ e :: later ∧ (empty.after before).handsOut? e = some id ∧
    ∀ c, Event.remove c id ∉ later

theorem after_append (t : ObjectTable) (events : List Event) (e : Event) :
    t.after (events ++ [e]) = (t.after events).apply e := by
  rw [after, List.foldl_append]
  rfl

theorem registrations_append (events : List Event) (e : Event) :
    registrations (events ++ [e]) = registrations events + e.registers.toNat := by
  rw [registrations, List.countP_append]
  cases h : e.registers <;> simp [registrations, h]

/-- Registrations count up, and nothing else touches the counter. -/
theorem handsOut?_eq (t : ObjectTable) (e : Event) :
    t.handsOut? e = if e.registers then some ⟨t.lastId + 1⟩ else none := by
  cases e <;> rfl

private theorem lastId_apply (t : ObjectTable) (e : Event) :
    (t.apply e).lastId = if e.registers then t.lastId + 1 else t.lastId := by
  cases e with
  | remove c id =>
    simp only [apply, remove]
    split <;> rfl
  | _ => rfl

private theorem lastId_after (events : List Event) :
    (empty.after events).lastId = UInt32.ofNat (registrations events) := by
  induction events using List.reverseRecOn with
  | nil => rfl
  | append_singleton events e ih =>
    rw [after_append, lastId_apply, registrations_append, ih]
    cases e.registers
    · rfl
    · exact (UInt32.ofNat_add ..).symm

/-- The ids of a run are the numbers that follow the last id given before it. -/
theorem handedOut_eq (t : ObjectTable) {n : Nat} (h : t.lastId = UInt32.ofNat n) (events : List Event) :
    t.handedOut events =
      (List.range' (n + 1) (registrations events)).map fun i => ⟨UInt32.ofNat i⟩ := by
  induction events generalizing t n with
  | nil => rfl
  | cons e rest ih =>
    have hl := t.lastId_apply e
    rw [handedOut, handsOut?_eq]
    cases hr : e.registers with
    | false =>
      rw [hr, if_neg Bool.false_ne_true, h] at hl
      rw [ih _ hl]
      simp [registrations, hr]
    | true =>
      rw [hr, if_pos rfl, h] at hl
      rw [ih _ (hl.trans (UInt32.ofNat_add n 1).symm), h]
      simp [registrations, hr, List.range'_succ, UInt32.ofNat_add]

theorem stands_append {events : List Event} {e : Event} {id : ObjectId} :
    Stands (events ++ [e]) id ↔
      (empty.after events).handsOut? e = some id ∨ Stands events id ∧ ∀ c, e ≠ .remove c id := by
  constructor
  · rintro ⟨before, e', later, hs, handed, kept⟩
    rcases later.eq_nil_or_concat' with rfl | ⟨later, last, rfl⟩
    · obtain ⟨rfl, he⟩ := List.append_inj' hs rfl
      cases he
      exact .inl handed
    · rw [← List.cons_append, ← List.append_assoc] at hs
      obtain ⟨rfl, he⟩ := List.append_inj' hs rfl
      cases he
      refine .inr ⟨⟨before, e', later, rfl, handed, fun c hc => kept c ?_⟩, fun c hc => kept c ?_⟩
      · exact List.mem_append_left _ hc
      · rw [hc]
        exact List.mem_append_right _ (List.mem_singleton_self _)
  · rintro (handed | ⟨⟨before, e', later, rfl, handed, kept⟩, other⟩)
    · exact ⟨events, e, [], rfl, handed, fun c => List.not_mem_nil⟩
    · refine ⟨before, e', later ++ [e], by simp, handed, fun c hc => ?_⟩
      rcases List.mem_append.mp hc with hc | hc
      · exact kept c hc
      · exact other c (List.mem_singleton.mp hc).symm

section Lookup
variable {t : ObjectTable} {id l : ObjectId}

theorem find?_remove (t : ObjectTable) (c : HostClass) (id l : ObjectId) :
    (t.remove c id).2.records.find? l = if l = id then none else t.records.find? l := by
  unfold remove
  split
  · rename_i absent
    split
    · rename_i hl
      rw [hl]
      exact absent
    · rfl
  · exact t.records.find?_erase id l

theorem address_put (t : ObjectTable) (id l : ObjectId) (object : HostObject) :
    (t.put id object).addressOf? l = t.addressOf? l := by
  rw [addressOf?, put, Directory.find?_modify]
  split
  · rw [Option.map_map]
    rfl
  · rfl

def Located (t : ObjectTable) : Prop := ∀ a id, t.findByAddress? a = some id → t.addressOf? id = some a

/-- After a removal an address leads where it did before, unless to the object removed. -/
theorem Located.findByAddress?_remove (ht : t.Located) (c : HostClass) (id l : ObjectId) (a : Address) :
    (t.remove c id).2.findByAddress? a = some l ↔ t.findByAddress? a = some l ∧ l ≠ id := by
  unfold remove
  split
  · rename_i absent
    refine ⟨fun h => ⟨h, ?_⟩, And.left⟩
    rintro rfl
    have located := ht a l h
    rw [addressOf?, absent] at located
    cases located
  · rename_i record found
    have own : t.findByAddress? a = some id → a = record.address := by
      intro h
      have located := ht a id h
      rw [addressOf?, found] at located
      exact (Option.some.inj located).symm
    dsimp only [findByAddress?] at own ⊢
    split
    · rename_i latest
      rw [Directory.find?_erase]
      by_cases ha : a = record.address
      · subst ha
        simp [latest, eq_comm]
      · rw [if_neg ha]
        refine ⟨fun h => ⟨h, ?_⟩, And.left⟩
        rintro rfl
        exact ha (own h)
    · rename_i shadowed
      -- a younger object has taken the address over and keeps it
      refine ⟨fun h => ⟨h, ?_⟩, And.left⟩
      rintro rfl
      exact shadowed (own h ▸ h)

end Lookup

/-- What holds of the table after a run: the objects in it are those that stand, under numbers given already, and
addresses lead to objects that lie there. -/
structure Consistent (events : List Event) : Prop where
  stands : ∀ id, (empty.after events).contains id = true ↔ Stands events id
  given : ∀ id, (empty.after events).contains id = true → 0 < id.number.toNat ∧ id.number.toNat ≤ registrations events
  located : (empty.after events).Located

namespace Consistent
variable {events : List Event}

theorem nil : Consistent [] := by
  refine ⟨fun id => ?_, fun id h => (nomatch h), fun a id h => (nomatch h)⟩
  simp [Stands, after, contains, Directory.contains, empty]

/-- The next id is the number of registrations, which no object has. -/
theorem next (h : Consistent events) (hn : registrations events + 1 < UInt32.size) :
    ((empty.after events).lastId + 1).toNat = registrations events + 1 ∧
      (empty.after events).records.find? ⟨(empty.after events).lastId + 1⟩ = none := by
  have number : ((empty.after events).lastId + 1).toNat = registrations events + 1 := by
    rw [lastId_after, ← UInt32.ofNat_one, ← UInt32.ofNat_add, UInt32.toNat_ofNat_of_lt' hn]
  refine ⟨number, ?_⟩
  by_contra taken
  have given := (h.given _ (Option.isSome_iff_ne_none.mpr taken)).2
  dsimp only at given
  omega

/-- A registration adds the next id and nothing else. -/
theorem register (h : Consistent events) (address : Address) (object : HostObject) (namespaces : List UInt32)
    (hn : registrations events + 1 < UInt32.size) : Consistent (events ++ [.register address object namespaces]) := by
  obtain ⟨number, absent⟩ := h.next hn
  have count : registrations (events ++ [.register address object namespaces]) = registrations events + 1 :=
    registrations_append ..
  constructor
  · intro id
    rw [stands_append, ← h.stands id, after_append, handsOut?_eq]
    simp only [contains, Directory.contains, apply, ObjectTable.register, Directory.find?_insert]
    by_cases hid : id = ⟨(empty.after events).lastId + 1⟩
    · simp [hid, Event.registers]
    · simp [hid, Ne.symm hid, Event.registers]
  · intro id hc
    rw [count]
    rw [after_append] at hc
    simp only [contains, Directory.contains, apply, ObjectTable.register, Directory.find?_insert] at hc
    split at hc
    · rename_i hid
      rw [hid]
      dsimp only
      omega
    · have given := h.given id hc
      omega
  · intro a id ha
    rw [after_append] at ha ⊢
    simp only [findByAddress?, addressOf?, apply, ObjectTable.register, Directory.find?_insert] at ha ⊢
    split at ha
    · rename_i hd
      cases ha
      rw [if_pos rfl, hd]
      rfl
    · have located := h.located a id ha
      rw [if_neg]
      · exact located
      · rintro rfl
        rw [addressOf?, absent] at located
        cases located

theorem remove (h : Consistent events) (c : HostClass) (id : ObjectId) : Consistent (events ++ [.remove c id]) := by
  have count : registrations (events ++ [.remove c id]) = registrations events := registrations_append ..
  constructor
  · intro l
    rw [stands_append, ← h.stands l, after_append, handsOut?_eq]
    simp only [contains, Directory.contains, apply, find?_remove]
    by_cases hl : l = id
    · simp [hl, Event.registers]
    · simp [hl, Ne.symm hl, Event.registers]
  · intro l hc
    rw [count]
    rw [after_append] at hc
    simp only [contains, Directory.contains, apply, find?_remove] at hc
    split at hc
    · cases hc
    · exact h.given l hc
  · intro a l ha
    rw [after_append] at ha ⊢
    obtain ⟨ha, hl⟩ := (h.located.findByAddress?_remove c id l a).mp ha
    simp only [addressOf?, apply, find?_remove, if_neg hl]
    exact h.located a l ha

/-- What leaves the ids and the addresses alone leaves the table consistent. -/
theorem other (h : Consistent events) {e : Event} (hr : e.registers = false) (hm : ∀ c id, e ≠ .remove c id)
    (ha : ∀ t l, (ObjectTable.apply t e).addressOf? l = t.addressOf? l)
    (hf : ∀ t a, (ObjectTable.apply t e).findByAddress? a = t.findByAddress? a) : Consistent (events ++ [e]) := by
  have count : registrations (events ++ [e]) = registrations events := by
    rw [registrations_append, hr]
    rfl
  have same (l : ObjectId) : ((empty.after events).apply e).contains l = (empty.after events).contains l := by
    simpa [contains, Directory.contains, addressOf?] using congrArg Option.isSome (ha (empty.after events) l)
  constructor
  · intro l
    rw [stands_append, ← h.stands l, after_append, handsOut?_eq, hr, same]
    simp [hm]
  · intro l hc
    rw [after_append, same] at hc
    rw [count]
    exact h.given l hc
  · intro a l hl
    rw [after_append, hf] at hl
    rw [after_append, ha]
    exact h.located a l hl

theorem append (h : Consistent events) (e : Event) (hn : registrations (events ++ [e]) < UInt32.size) :
    Consistent (events ++ [e]) := by
  cases e with
  | register address object namespaces =>
    refine h.register address object namespaces ?_
    rwa [registrations_append] at hn
  | remove c id => exact h.remove c id
  | borrow id | giveBack id =>
    exact h.other rfl (fun c l he => nomatch he) (fun t l => rfl) (fun t a => rfl)
  | put id object =>
    exact h.other rfl (fun c l he => nomatch he) (fun t l => t.address_put id l object) (fun t a => rfl)

end Consistent

/-- Every run in which fewer ids are given than there are leaves a consistent table. -/
theorem consistent {events : List Event} (hn : registrations events < UInt32.size) : Consistent events := by
  induction events using List.reverseRecOn with
  | nil => exact .nil
  | append_singleton events e ih =>
    have fewer : registrations events < UInt32.size := by
      rw [registrations_append] at hn
      omega
    exact (ih fewer).append e hn

structure Gone (t : ObjectTable) (id : ObjectId) : Prop where
  contains : t.contains id = false
  isLive : t.isLive id = false
  entry : t.entry? id = none
  address : t.addressOf? id = none
  located : ∀ a, t.findByAddress? a ≠ some id

structure SameFor (t t' : ObjectTable) (id : ObjectId) : Prop where
  contains : t'.contains id = t.contains id
  isLive : t'.isLive id = t.isLive id
  entry : t'.entry? id = t.entry? id
  address : t'.addressOf? id = t.addressOf? id
  located : ∀ a, t'.findByAddress? a = some id ↔ t.findByAddress? a = some id

structure Identifies (events : List Event) : Prop where
  /-- No id is given twice, and the null id is never given. -/
  given : (empty.handedOut events).Nodup ∧ ObjectId.none ∉ empty.handedOut events
  /-- The objects of the table are those that stand, however it is asked for them. -/
  stands : ∀ id, (empty.after events).contains id = true ↔ Stands events id
  isLive : ∀ id, (empty.after events).isLive id = (empty.after events).contains id
  entry : ∀ id, (Option.isSome <| entry? (empty.after events) id) = (empty.after events).contains id
  address : ∀ id, ((empty.after events).addressOf? id).isSome = (empty.after events).contains id
  size : ∃ ids : List ObjectId, ids.Nodup ∧ (∀ id, id ∈ ids ↔ Stands events id) ∧
    (empty.after events).size = ids.length
  /-- An address leads to an object that stands and lies there. -/
  located : ∀ a id, (empty.after events).findByAddress? a = some id →
    Stands events id ∧ (empty.after events).addressOf? id = some a
  /-- A removal, whether it gives the state back or not, ends the meaning of one id and of no other. -/
  removed : ∀ c id, ((empty.after events).remove c id).2.Gone id ∧
    ∀ l ≠ id, (empty.after events).SameFor ((empty.after events).remove c id).2 l

variable {t : ObjectTable}

theorem handedOut_nodup {events : List Event} (hn : registrations events < UInt32.size) :
    (empty.handedOut events).Nodup ∧ ObjectId.none ∉ empty.handedOut events := by
  have number {i : Nat} (hi : i ∈ List.range' 1 (registrations events)) :
      (UInt32.ofNat i).toNat = i ∧ 0 < i := by
    obtain ⟨hl, hu⟩ := List.mem_range'_1.mp hi
    have small : i < UInt32.size := by omega
    exact ⟨UInt32.toNat_ofNat_of_lt' small, hl⟩
  rw [handedOut_eq empty (n := 0) rfl]
  constructor
  · refine List.Nodup.map_on (fun i hi j hj hij => ?_) (List.nodup_range' ..)
    rw [← (number hi).1, ← (number hj).1, ObjectId.mk.inj hij]
  · intro hm
    obtain ⟨i, hi, h⟩ := List.mem_map.mp hm
    have zero := congrArg UInt32.toNat (ObjectId.mk.inj h)
    rw [(number hi).1] at zero
    exact (Nat.ne_of_gt (number hi).2) zero

theorem gone_of_absent {id : ObjectId} (absent : t.records.find? id = none)
    (nowhere : ∀ a, t.findByAddress? a ≠ some id) : t.Gone id := by
  refine ⟨?_, ?_, ?_, ?_, nowhere⟩
  all_goals simp [isLive, ObjectId.isLive, contains, Directory.contains, entry?, addressOf?, absent]

theorem Located.gone (ht : t.Located) (c : HostClass) (id : ObjectId) : (t.remove c id).2.Gone id := by
  apply gone_of_absent
  · rw [find?_remove, if_pos rfl]
  · intro a ha
    exact ((ht.findByAddress?_remove c id id a).mp ha).2 rfl

theorem Located.same (ht : t.Located) (c : HostClass) {id l : ObjectId} (hl : l ≠ id) :
    t.SameFor (t.remove c id).2 l := by
  have same : (t.remove c id).2.records.find? l = t.records.find? l := by rw [find?_remove, if_neg hl]
  refine ⟨?_, ?_, ?_, ?_, fun a => ?_⟩
  rotate_left 4
  · rw [ht.findByAddress?_remove c id l a]
    exact and_iff_left hl
  all_goals simp [isLive, ObjectId.isLive, contains, Directory.contains, entry?, addressOf?, same]

/-- Over every run in which fewer ids are given than there are, ids identify objects. -/
theorem ids_identify {events : List Event} (hn : registrations events < UInt32.size) : Identifies events := by
  have h := consistent hn
  have null : (empty.after events).contains .none = false := by
    rw [Bool.eq_false_iff]
    intro hc
    exact absurd (h.given _ hc).1 (Nat.lt_irrefl 0)
  constructor
  · exact handedOut_nodup hn
  · exact h.stands
  · intro id
    by_cases hid : id = .none
    · rw [hid, null]
      rfl
    · have present : id.isNone = false := by
        cases id
        simpa [ObjectId.isNone, ObjectId.none] using hid
      rw [isLive, ObjectId.isLive, present]
      rfl
  · intro id
    exact Option.isSome_map
  · intro id
    exact Option.isSome_map
  · refine ⟨(empty.after events).records.keys, (empty.after events).records.distinct, fun id => ?_, ?_⟩
    · rw [Directory.mem_keys]
      exact h.stands id
    · exact (List.length_map Prod.fst).symm
  · intro a id ha
    have located := h.located a id ha
    refine ⟨(h.stands id).mp ?_, located⟩
    exact Option.isSome_map.symm.trans (congrArg Option.isSome located)
  · intro c id
    exact ⟨h.located.gone c id, fun l hl => h.located.same c hl⟩

section Instance
open HostLibrary

private def shadowing : List Event :=
  [.register (.cell 0) ⟨markerClass, ()⟩ [nameHash "Marker"], .register (.cell 0) ⟨markerClass, ()⟩ [nameHash "Marker"],
    .remove textClass ⟨1⟩]

/-- The address still leads to the younger one, which is the one that stands, until it is removed too. -/
theorem ids_identify_shadowed :
    Stands shadowing ⟨2⟩ ∧ ¬ Stands shadowing ⟨1⟩ ∧ (empty.after shadowing).findByAddress? (.cell 0) = some ⟨2⟩ ∧
      ((empty.after shadowing).remove markerClass ⟨2⟩).2.findByAddress? (.cell 0) = none := by
  have h : Identifies shadowing := ids_identify (by decide)
  have latest : (empty.after shadowing).findByAddress? (.cell 0) = some ⟨2⟩ := by decide +kernel
  refine ⟨(h.located _ _ latest).1, fun stands => ?_, latest, by decide +kernel⟩
  have present := (h.stands ⟨1⟩).mpr stands
  exact absurd present (by decide +kernel)

end Instance

end ScriptBridge.ObjectTable
