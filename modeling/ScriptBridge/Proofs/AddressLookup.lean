import ScriptBridge.Proofs.ObjectIdentity

/-! Where addresses lead. An address leads to the object that came to lie there last until this one is removed, and then
nowhere, even if an older object still lies there. -/
namespace ScriptBridge.ObjectTable

structure LeadsTo (t : ObjectTable) (a : Address) (id : ObjectId) : Prop where
  found : t.findByAddress? a = some id
  lies : t.addressOf? id = some a

section Step
variable {t : ObjectTable} {a : Address} {id : ObjectId}

/-- A removal only affects the address of the object removed, and only if the address leads to it. -/
theorem findByAddress?_remove (t : ObjectTable) (c : HostClass) (id : ObjectId) (a : Address) :
    (t.remove c id).2.findByAddress? a =
      if t.findByAddress? a = some id ∧ t.addressOf? id = some a then none else t.findByAddress? a := by
  unfold remove
  split
  · rename_i absent
    have nowhere : t.addressOf? id = none := by rw [addressOf?, absent, Option.map_none]
    rw [if_neg]
    rintro ⟨-, lies⟩
    cases nowhere.symm.trans lies
  · rename_i record found
    have lies : t.addressOf? id = some record.address := by rw [addressOf?, found, Option.map_some]
    change (if t.findByAddress? record.address = some id then t.byAddress.erase record.address
      else t.byAddress).find? a = _
    rw [lies]
    by_cases ha : a = record.address
    · subst ha
      by_cases latest : t.findByAddress? record.address = some id
      · rw [if_pos latest, if_pos ⟨latest, rfl⟩, Directory.find?_erase, if_pos rfl]
      · have other : ¬ (t.findByAddress? record.address = some id ∧ some record.address = some record.address) :=
          fun h => latest h.1
        rw [if_neg latest, if_neg other]
        rfl
    · have other : ¬ (t.findByAddress? a = some id ∧ some record.address = some a) :=
        fun h => ha (Option.some.inj h.2).symm
      rw [if_neg other]
      split
      · exact (Directory.find?_erase ..).trans (if_neg ha)
      · rfl

private theorem leadsTo_register (t : ObjectTable) (a : Address) (object : HostObject) (namespaces : List UInt32) :
    (t.apply (.register a object namespaces)).LeadsTo a ⟨t.lastId + 1⟩ := by
  constructor <;>
    simp only [findByAddress?, addressOf?, apply, register, Directory.find?_insert, if_true, Option.map_some]

/-- An address goes on leading to an object while no other one comes to lie there and the id is neither removed nor given
again. -/
theorem LeadsTo.apply (h : t.LeadsTo a id) {e : Event} (alone : ∀ object namespaces, e ≠ .register a object namespaces)
    (kept : ∀ c, e ≠ .remove c id) (fresh : t.handsOut? e ≠ some id) : (t.apply e).LeadsTo a id := by
  cases e with
  | register b object namespaces =>
    have ha : a ≠ b := by
      rintro rfl
      exact alone object namespaces rfl
    have hid : id ≠ ⟨t.lastId + 1⟩ := by
      rintro rfl
      exact fresh rfl
    constructor
    · simp only [findByAddress?, ObjectTable.apply, register, Directory.find?_insert, if_neg ha]
      exact h.found
    · simp only [addressOf?, ObjectTable.apply, register, Directory.find?_insert, if_neg hid]
      exact h.lies
  | remove c l =>
    have hl : id ≠ l := by
      rintro rfl
      exact kept c rfl
    constructor
    · refine (t.findByAddress?_remove c l a).trans ?_
      rw [h.found, if_neg fun hk => hl (Option.some.inj hk.1)]
    · simp only [addressOf?, ObjectTable.apply, find?_remove, if_neg hl]
      exact h.lies
  | borrow l | giveBack l => exact ⟨h.found, h.lies⟩
  | put l object => exact ⟨h.found, (t.address_put l id object).trans h.lies⟩

theorem LeadsTo.remove (h : t.LeadsTo a id) (c : HostClass) : (t.apply (.remove c id)).findByAddress? a = none :=
  (t.findByAddress?_remove c id a).trans (if_pos ⟨h.found, h.lies⟩)

/-- An address that leads nowhere goes on doing so until an object comes to lie there. -/
theorem findByAddress?_apply_of_none (h : t.findByAddress? a = none) {e : Event}
    (alone : ∀ object namespaces, e ≠ .register a object namespaces) : (t.apply e).findByAddress? a = none := by
  cases e with
  | register b object namespaces =>
    have ha : a ≠ b := by
      rintro rfl
      exact alone object namespaces rfl
    simp only [findByAddress?, ObjectTable.apply, register, Directory.find?_insert, if_neg ha]
    exact h
  | remove c l =>
    refine (t.findByAddress?_remove c l a).trans ?_
    rw [h, ite_self]
  | borrow l | giveBack l | put l object => exact h

/-- An object comes to lie at an address only by its registration. -/
theorem addressOf?_apply {e : Event} (h : (t.apply e).addressOf? id = some a) :
    (∃ object namespaces, e = .register a object namespaces) ∨ t.addressOf? id = some a := by
  cases e with
  | register b object namespaces =>
    simp only [addressOf?, ObjectTable.apply, register, Directory.find?_insert] at h
    split at h
    · cases h
      exact .inl ⟨object, namespaces, rfl⟩
    · exact .inr h
  | remove c l =>
    simp only [addressOf?, ObjectTable.apply, find?_remove] at h
    split at h
    · cases h
    · exact .inr h
  | borrow l | giveBack l => exact .inr h
  | put l object => exact .inr ((t.address_put l id object).symm.trans h)

end Step

section Run
variable {t : ObjectTable} {a : Address} {id : ObjectId} {later : List Event}

private theorem findByAddress?_after_of_none (h : t.findByAddress? a = none)
    (alone : ∀ object namespaces, .register a object namespaces ∉ later) : (t.after later).findByAddress? a = none := by
  induction later generalizing t with
  | nil => exact h
  | cons e rest ih =>
    refine ih (findByAddress?_apply_of_none h ?_) fun object namespaces he => ?_
    · rintro object namespaces rfl
      exact alone object namespaces List.mem_cons_self
    · exact alone object namespaces (List.mem_cons_of_mem _ he)

/-- Where no other object came to lie at the address and the id was not given again, the address leads to the object at
the end of a run if it was not removed, and nowhere if it was. -/
theorem LeadsTo.after (h : t.LeadsTo a id) (alone : ∀ object namespaces, .register a object namespaces ∉ later)
    (fresh : id ∉ t.handedOut later) :
    (∀ c, .remove c id ∉ later) ∧ (t.after later).LeadsTo a id ∨
      (∃ c, .remove c id ∈ later) ∧ (t.after later).findByAddress? a = none := by
  induction later generalizing t with
  | nil => exact .inl ⟨fun c => List.not_mem_nil, h⟩
  | cons e rest ih =>
    rw [handedOut, List.mem_append, not_or] at fresh
    have here : ∀ object namespaces, e ≠ .register a object namespaces := by
      rintro object namespaces rfl
      exact alone object namespaces List.mem_cons_self
    have there : ∀ object namespaces, .register a object namespaces ∉ rest := fun object namespaces he =>
      alone object namespaces (List.mem_cons_of_mem _ he)
    by_cases removed : ∃ c, e = .remove c id
    · obtain ⟨c, rfl⟩ := removed
      exact .inr ⟨⟨c, List.mem_cons_self⟩, findByAddress?_after_of_none (t := t.apply _) (h.remove c) there⟩
    · have kept : ∀ c, e ≠ .remove c id := fun c he => removed ⟨c, he⟩
      have goes_on := h.apply here kept fun hs => fresh.1 (Option.mem_toList.mpr hs)
      obtain ⟨later_kept, leads⟩ | ⟨⟨c, gone⟩, none⟩ := ih goes_on there fresh.2
      · refine .inl ⟨fun c hc => ?_, leads⟩
        obtain he | hc := List.mem_cons.mp hc
        · exact kept c he.symm
        · exact later_kept c hc
      · exact .inr ⟨⟨c, List.mem_cons_of_mem _ gone⟩, none⟩

private theorem handedOut_append (t : ObjectTable) (events more : List Event) :
    t.handedOut (events ++ more) = t.handedOut events ++ (t.after events).handedOut more := by
  induction events generalizing t with
  | nil => rfl
  | cons e rest ih =>
    rw [List.cons_append, handedOut, handedOut, ih, List.append_assoc]
    rfl

end Run

/-- The last object that came to lie at an address in a run that began without objects: its id, which was not given again,
and what happened after it came. -/
def Arrived (events : List Event) (a : Address) (id : ObjectId) (later : List Event) : Prop :=
  ∃ before object namespaces, events = before ++ .register a object namespaces :: later ∧
    (empty.after before).handsOut? (.register a object namespaces) = some id ∧
    (∀ object namespaces, .register a object namespaces ∉ later) ∧
    id ∉ (empty.after (before ++ [.register a object namespaces])).handedOut later

private theorem Arrived.leads {events later : List Event} {a : Address} {id : ObjectId}
    (h : Arrived events a id later) : (∀ c, .remove c id ∉ later) ∧ (empty.after events).LeadsTo a id ∨
      (∃ c, .remove c id ∈ later) ∧ (empty.after events).findByAddress? a = none := by
  obtain ⟨before, object, namespaces, rfl, handed, alone, fresh⟩ := h
  cases handed
  rw [after_append] at fresh
  have arrival := leadsTo_register (empty.after before) a object namespaces
  have run : empty.after (before ++ .register a object namespaces :: later) =
      ((empty.after before).apply (.register a object namespaces)).after later := List.foldl_append
  rw [run]
  exact arrival.after alone fresh

/-- Where an object lies, one came to lie. -/
theorem registered_of_addressOf? {events : List Event} {a : Address} {id : ObjectId}
    (h : (empty.after events).addressOf? id = some a) :
    ∃ object namespaces, .register a object namespaces ∈ events := by
  induction events using List.reverseRecOn with
  | nil => cases h
  | append_singleton events e ih =>
    rw [after_append] at h
    obtain ⟨object, namespaces, rfl⟩ | before := addressOf?_apply h
    · exact ⟨object, namespaces, List.mem_append_right _ (List.mem_singleton_self _)⟩
    · obtain ⟨object, namespaces, he⟩ := ih before
      exact ⟨object, namespaces, List.mem_append_left _ he⟩

/-- Of the objects that came to lie at an address one was the last. -/
theorem exists_last_register {events : List Event} {a : Address}
    (h : ∃ object namespaces, .register a object namespaces ∈ events) :
    ∃ before object namespaces later, events = before ++ .register a object namespaces :: later ∧
      ∀ object namespaces, .register a object namespaces ∉ later := by
  induction events using List.reverseRecOn with
  | nil =>
    obtain ⟨_, _, he⟩ := h
    cases he
  | append_singleton events e ih =>
    by_cases last : ∃ object namespaces, e = .register a object namespaces
    · obtain ⟨object, namespaces, rfl⟩ := last
      exact ⟨events, object, namespaces, [], rfl, fun _ _ => List.not_mem_nil⟩
    · have earlier : ∃ object namespaces, .register a object namespaces ∈ events := by
        obtain ⟨object, namespaces, he⟩ := h
        obtain he | he := List.mem_append.mp he
        · exact ⟨object, namespaces, he⟩
        · exact absurd ⟨object, namespaces, (List.mem_singleton.mp he).symm⟩ last
      obtain ⟨before, object, namespaces, later, rfl, alone⟩ := ih earlier
      refine ⟨before, object, namespaces, later ++ [e], by simp, fun object namespaces he => ?_⟩
      obtain he | he := List.mem_append.mp he
      · exact alone object namespaces he
      · exact last ⟨object, namespaces, (List.mem_singleton.mp he).symm⟩

private theorem exists_arrived {events : List Event} (hn : registrations events < UInt32.size) {a : Address}
    {id : ObjectId}
    (h : (empty.after events).addressOf? id = some a) : ∃ latest later, Arrived events a latest later := by
  obtain ⟨before, object, namespaces, later, rfl, alone⟩ := exists_last_register (registered_of_addressOf? h)
  refine ⟨⟨(empty.after before).lastId + 1⟩, later, before, object, namespaces, rfl, rfl, alone, fun again => ?_⟩
  have distinct := (handedOut_nodup hn).1
  rw [handedOut_append, handedOut, ← after_append] at distinct
  -- the id would be given by the registration and once more after it
  have twice := (List.nodup_append.mp (List.nodup_append.mp distinct).2.1).2.2
  exact twice _ List.mem_cons_self _ again rfl

structure AddressesLead (events : List Event) : Prop where
  /-- The last object that came to an address lies there and is found there, if it was not removed. -/
  kept : ∀ a id later, Arrived events a id later → (∀ c, .remove c id ∉ later) → (empty.after events).LeadsTo a id
  /-- If it was, the address leads nowhere, whatever else lies there. -/
  removed : ∀ a id later c, Arrived events a id later → .remove c id ∈ later →
    (empty.after events).findByAddress? a = none
  /-- While fewer ids are given than there are, one of the two is so wherever an object lies. -/
  live : registrations events < UInt32.size → ∀ id a, (empty.after events).addressOf? id = some a →
    ∃ latest later, Arrived events a latest later ∧
      ((∀ c, .remove c latest ∉ later) ∧ (empty.after events).LeadsTo a latest ∨
        (∃ c, .remove c latest ∈ later) ∧ (empty.after events).findByAddress? a = none)

/-- Over every run an address leads to the object that came to lie there last, until it is removed. -/
theorem addresses_lead_to_latest (events : List Event) : AddressesLead events := by
  constructor
  · intro a id later arrived kept
    obtain ⟨-, leads⟩ | ⟨⟨c, removed⟩, -⟩ := arrived.leads
    · exact leads
    · exact absurd removed (kept c)
  · intro a id later c arrived removed
    obtain ⟨kept, -⟩ | ⟨-, none⟩ := arrived.leads
    · exact absurd removed (kept c)
    · exact none
  · intro hn id a lies
    obtain ⟨latest, later, arrived⟩ := exists_arrived hn lies
    exact ⟨latest, later, arrived, arrived.leads⟩

section Instance
open HostLibrary

private def unshadowing : List Event :=
  [.register (.cell 0) ⟨markerClass, ()⟩ [nameHash "Marker"], .register (.cell 0) ⟨markerClass, ()⟩ [nameHash "Marker"],
    .remove markerClass ⟨2⟩]

/-- The older one is still in the table and lies at the address, which does not lead to it. -/
theorem live_object_not_found_by_address :
    (empty.after unshadowing).contains ⟨1⟩ = true ∧ (empty.after unshadowing).addressOf? ⟨1⟩ = some (.cell 0) ∧
      (empty.after unshadowing).findByAddress? (.cell 0) = none := by
  decide +kernel

end Instance

end ScriptBridge.ObjectTable
