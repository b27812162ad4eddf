import ScriptBridge.Proofs.Publication

/-! Default records and the two ways in which entries get them. To register a binding with a record is to register it
and to attach the record, except that it fails as a whole. An entry gets one record and keeps it. -/
namespace ScriptBridge.Builder
variable {P : Type} {b : Builder P} {binding : Binding P} {record : DefaultRecord} {key : EntryKey} {entry : Entry P}

def Admits (b : Builder P) (entry : Entry P) : Prop :=
  b.config.duplicatePolicy = .reject → b.entries.find? entry.key = none

def replacements (b : Builder P) (entry : Entry P) : List Diagnostic :=
  (b.entries.find? entry.key).toList.map fun _ =>
    ⟨.warning, s!"'{entry.qualified}' registered twice, replacing the earlier entry"⟩

private theorem publish_of_admits (h : b.Admits entry) : b.publish entry =
    ⟨.ok entry.key, b.replacements entry, { b with entries := b.entries.insert entry.key entry }⟩ := by
  unfold publish replacements
  cases taken : b.entries.find? entry.key with
  | none => rfl
  | some existing =>
    cases policy : b.config.duplicatePolicy with
    | reject => cases taken.symm.trans (h policy)
    | lastWins => rfl

private theorem publish_of_not_admits (h : ¬ b.Admits entry) : ∃ e, b.publish entry = b.fail e := by
  simp only [Admits, Classical.not_imp] at h
  obtain ⟨policy, taken⟩ := h
  obtain ⟨existing, found⟩ := Option.ne_none_iff_exists'.mp taken
  refine ⟨.registrationConflict existing.scope existing.name, ?_⟩
  simp only [publish, found, policy]

/-- A registration either publishes the entry that fits, or fails for want of one or of its key. -/
theorem register_cases (b : Builder P) (binding : Binding P) :
    (∃ entry, b.Fits (.register binding) entry ∧ b.Admits entry ∧ b.register binding =
      ⟨.ok entry.key, b.replacements entry, { b with entries := b.entries.insert entry.key entry }⟩) ∨
    (∀ entry, b.Fits (.register binding) entry → ¬ b.Admits entry) ∧ ∃ e, b.register binding = b.fail e := by
  unfold register
  cases checked : b.nativeEntry binding with
  | error e =>
    refine .inr ⟨fun entry fits => ?_, e, rfl⟩
    cases checked.symm.trans (nativeEntry_eq_ok_iff.mpr fits)
  | ok entry =>
    have fits := nativeEntry_eq_ok_iff.mp checked
    by_cases admits : b.Admits entry
    · exact .inl ⟨entry, fits, admits, publish_of_admits admits⟩
    · refine .inr ⟨fun entry' fits' => ?_, publish_of_not_admits admits⟩
      obtain rfl := Option.some.inj (fits.asked.symm.trans fits'.asked)
      exact admits

private theorem register_of_fits (fits : b.Fits (.register binding) entry) (admits : b.Admits entry) :
    b.register binding =
    ⟨.ok entry.key, b.replacements entry, { b with entries := b.entries.insert entry.key entry }⟩ := by
  simp only [register, nativeEntry_eq_ok_iff.mpr fits]
  exact publish_of_admits admits

/-- A record is attached exactly if it suits an entry that is there without one. -/
theorem attachDefaults_eq_ok_iff : (b.attachDefaults key record).result = .ok () ↔
    ∃ entry, b.entries.find? key = some entry ∧ entry.defaults = none ∧ b.Suits entry record := by
  have hs := b.served (.attachDefaults key record)
  have hr : (b.attachDefaults key record).result = .ok () ↔
      (b.serve (.attachDefaults key record)).result = .ok none := by
    rw [serve]
    cases h : (b.attachDefaults key record).result <;> simp [Outcome.map, Except.map, h]
  rw [hr]
  generalize b.serve (.attachDefaults key record) = o at hs ⊢
  cases hs with
  | unfit registers => cases registers
  | conflict fits | published fits => cases fits.asked
  | missing absent => simp [fail, absent]
  | documented found has =>
    constructor
    · intro h
      cases h
    · rintro ⟨entry, found', none, -⟩
      obtain rfl := Option.some.inj (found.symm.trans found')
      rw [none] at has
      cases has
  | unsuited found none refused =>
    constructor
    · intro h
      cases h
    · rintro ⟨entry, found', -, suits⟩
      obtain rfl := Option.some.inj (found.symm.trans found')
      cases refused.symm.trans suits
  | attached found none suits => exact ⟨fun _ => ⟨_, found, none, suits⟩, fun _ => rfl⟩

private theorem attachDefaults_of_suits (found : b.entries.find? key = some entry) (none : entry.defaults = none)
    (suits : b.Suits entry record) : b.attachDefaults key record =
      ⟨.ok (), [], { b with entries := b.entries.modify key fun e => { e with defaults := some record } }⟩ := by
  have valid : record.validate entry.qualified entry.table b.config.validateDefaults = .ok () := suits
  simp only [attachDefaults, found, none, Option.isSome_none, Bool.false_eq_true, if_false, valid]

private theorem attachDefaults_documented (found : b.entries.find? key = some entry)
    (has : entry.defaults.isSome = true)
    (record : DefaultRecord) : b.attachDefaults key record = b.fail (.defaultsAlreadyAttached entry.qualified) := by
  simp only [attachDefaults, found, has, if_true]

private theorem attachDefaults_unsuited {e : BindError} (found : b.entries.find? key = some entry)
    (none : entry.defaults = none)
    (refused : record.validate entry.qualified entry.table b.config.validateDefaults = .error e) :
    b.attachDefaults key record = b.fail e := by
  simp only [attachDefaults, found, none, Option.isSome_none, Bool.false_eq_true, if_false, refused]

/-- With a record, a binding asks for the same entry with this record, which then has to suit it. -/
theorem fits_withDefaults_iff {documented : Entry P} (plain : binding.defaults = none) :
    b.Fits (.register (binding.withDefaults record)) documented ↔
      ∃ entry, b.Fits (.register binding) entry ∧ entry.defaults = none ∧ b.Suits entry record ∧
        documented = { entry with defaults := some record } := by
  constructor
  · rintro ⟨asked, limit, suits⟩
    obtain ⟨table, ht, rfl⟩ := Option.map_eq_some_iff.mp asked
    refine ⟨Entry.make binding.scope binding.name (.native binding.adapter) table, ⟨?_, limit, ?_⟩, rfl,
      suits record rfl, rfl⟩
    · have bare : (SlotTable.ofSignature b.kinds binding.returnType binding.params).toOption = some table := ht
      simp only [Request.asked?, plain, bare]
      rfl
    · intro record' h
      cases h
  · rintro ⟨entry, ⟨asked, limit, -⟩, -, suits, rfl⟩
    obtain ⟨table, ht, rfl⟩ := Option.map_eq_some_iff.mp asked
    refine ⟨?_, limit, ?_⟩
    · simp only [Request.asked?, Binding.withDefaults, ht]
      rfl
    · rintro record' ⟨⟩
      exact suits

structure AttachedAtOnce (b : Builder P) (binding : Binding P) (record : DefaultRecord) : Prop where
  succeeds_iff : ∀ key, (b.register (binding.withDefaults record)).result = .ok key ↔
    (b.register binding).result = .ok key ∧
      ((b.register binding).builder.attachDefaults key record).result = .ok ()
  builder : ∀ key, (b.register (binding.withDefaults record)).result = .ok key →
    (b.register (binding.withDefaults record)).builder =
      ((b.register binding).builder.attachDefaults key record).builder
  reports : ∀ key, (b.register (binding.withDefaults record)).result = .ok key →
    (b.register (binding.withDefaults record)).reports =
      (b.register binding).reports ++ ((b.register binding).builder.attachDefaults key record).reports
  failed : ∀ e, (b.register (binding.withDefaults record)).result = .error e →
    (b.register (binding.withDefaults record)).builder = b

/-- What was published without a record can get any record that suits it. -/
private theorem attach_published (entry : Entry P) (none : entry.defaults = none) (suits : b.Suits entry record) :
    attachDefaults { b with entries := b.entries.insert entry.key entry } entry.key record = ⟨.ok (), [],
      { b with entries := b.entries.insert entry.key { entry with defaults := some record } }⟩ := by
  have found : (b.entries.insert entry.key entry).find? entry.key = some entry := by
    rw [Directory.find?_insert, if_pos rfl]
  rw [attachDefaults_of_suits (b := { b with entries := b.entries.insert entry.key entry }) found none suits,
    Directory.modify_insert]

/-- What fits with the record is published at once as it is published and then given the record. -/
private theorem attachedAtOnce_of_fits (plain : binding.defaults = none) (fits : b.Fits (.register binding) entry)
    (none : entry.defaults = none) (suits : b.Suits entry record) (admits : b.Admits entry) :
    AttachedAtOnce b binding record := by
  have documented := (fits_withDefaults_iff plain).mpr ⟨entry, fits, none, suits, rfl⟩
  have both : b.register (binding.withDefaults record) = ⟨.ok entry.key, b.replacements entry,
      { b with entries := b.entries.insert entry.key { entry with defaults := some record } }⟩ :=
    register_of_fits documented admits
  have bare := register_of_fits fits admits
  have attached := attach_published entry none suits
  constructor
  · intro key
    rw [both, bare]
    constructor
    · rintro ⟨⟩
      exact ⟨rfl, congrArg Outcome.result attached⟩
    · exact And.left
  · intro key h
    rw [both] at h
    cases h
    rw [both, bare]
    exact (congrArg Outcome.builder attached).symm
  · intro key h
    rw [both] at h
    cases h
    rw [both, bare]
    exact ((congrArg (b.replacements entry ++ ·.reports) attached).trans (List.append_nil _)).symm
  · intro e h
    rw [both] at h
    cases h

/-- What fails with the record also fails without it, or the record cannot be attached. -/
private theorem attachedAtOnce_of_failed {e : BindError}
    (failed : b.register (binding.withDefaults record) = b.fail e)
    (apart : ∀ key, (b.register binding).result = .ok key →
      ((b.register binding).builder.attachDefaults key record).result ≠ .ok ()) : AttachedAtOnce b binding record := by
  have never : ∀ key, (b.register (binding.withDefaults record)).result ≠ .ok key := by
    intro key h
    rw [failed] at h
    cases h
  constructor
  · intro key
    exact ⟨fun h => absurd h (never key), fun h => absurd h.2 (apart key h.1)⟩
  · intro key h
    exact absurd h (never key)
  · intro key h
    exact absurd h (never key)
  · intro e' _
    rw [failed]
    rfl

private theorem attachedAtOnce (b : Builder P) (plain : binding.defaults = none) (record : DefaultRecord) :
    AttachedAtOnce b binding record := by
  rcases b.register_cases (binding.withDefaults record) with ⟨documented, fits, admits, -⟩ | ⟨refused, e, failed⟩
  · obtain ⟨entry, bare, none, suits, rfl⟩ := (fits_withDefaults_iff plain).mp fits
    exact attachedAtOnce_of_fits plain bare none suits admits
  · refine attachedAtOnce_of_failed failed fun key registered attached => ?_
    rcases b.register_cases binding with ⟨entry, fits, admits, bare⟩ | ⟨-, e, bare⟩
    · rw [bare] at registered attached
      cases registered
      -- what was published is found again, so a record that can be attached to it would have fitted
      obtain ⟨entry', found, none, suits⟩ := attachDefaults_eq_ok_iff.mp attached
      rw [Directory.find?_insert, if_pos rfl] at found
      cases found
      exact refused _ ((fits_withDefaults_iff plain).mpr ⟨entry, fits, none, suits, rfl⟩) admits
    · rw [bare] at registered
      cases registered

section Run

/-- A request that publishes nothing under a key leaves the entry there, and the record that it attaches to it is the
first one. -/
theorem find?_serve_of_unreplaced {r : Request P} (found : b.entries.find? key = some entry)
    (unreplaced : key ∉ publishedKeys (b.accepts r)) : ∃ defaults,
    (b.serve r).builder.entries.find? key = some { entry with defaults } ∧
      defaults.toList = entry.defaults.toList ++ attachedTo key (b.accepts r) := by
  have hs := b.served r
  unfold accepts at unreplaced ⊢
  generalize b.serve r = o at hs unreplaced ⊢
  cases hs with
  | mapped | unfit | conflict | missing | documented | unsuited =>
    refine ⟨entry.defaults, found, ?_⟩
    simp [fail, Except.isOk, Except.toBool, Request.change?, Request.asked?, attachedTo]
  | published fits free =>
    rw [Request.change?_of_asked fits.asked] at unreplaced ⊢
    have other : ¬ key = _ := fun same => unreplaced (List.mem_singleton.mpr same)
    refine ⟨entry.defaults, ?_, (List.append_nil _).symm⟩
    rw [Directory.find?_insert, if_neg other]
    exact found
  | @attached l record entry' found' none suits =>
    dsimp only
    rw [Directory.find?_modify]
    by_cases hl : key = l
    · subst hl
      obtain rfl := Option.some.inj (found.symm.trans found')
      refine ⟨some record, ?_, ?_⟩
      · rw [if_pos rfl, found]
        rfl
      · simp [none, Except.isOk, Except.toBool, Request.change?, attachedTo]
    · refine ⟨entry.defaults, ?_, ?_⟩
      · rw [if_neg hl]
        exact found
      · simp [Except.isOk, Except.toBool, Request.change?, attachedTo, Ne.symm hl]

private theorem find?_serveAll_of_unreplaced {requests : List (Request P)} (found : b.entries.find? key = some entry)
    (unreplaced : key ∉ publishedKeys (b.accepted requests)) : ∃ defaults,
    (b.serveAll requests).entries.find? key = some { entry with defaults } ∧
      defaults.toList = entry.defaults.toList ++ attachedTo key (b.accepted requests) := by
  induction requests generalizing b entry with
  | nil => exact ⟨entry.defaults, found, (List.append_nil _).symm⟩
  | cons r rest ih =>
    rw [accepted, publishedKeys_append, List.mem_append, not_or] at unreplaced
    obtain ⟨first, here, hf⟩ := find?_serve_of_unreplaced found unreplaced.1
    obtain ⟨last, there, hl⟩ := ih here unreplaced.2
    refine ⟨last, there, ?_⟩
    rw [accepted, attachedTo_append, ← List.append_assoc, ← hf]
    exact hl

/-- The record of an entry over a row of requests in which no other entry takes its place. -/
structure AttachedOnce (b : Builder P) (key : EntryKey) (entry : Entry P) (requests : List (Request P)) : Prop where
  /-- At most one record is attached, and none if the entry came with one. -/
  once : entry.defaults.toList.length + (attachedTo key (b.accepted requests)).length ≤ 1
  /-- A record stays, and every attempt to attach another one fails and changes nothing. -/
  kept : entry.defaults.isSome = true → (b.serveAll requests).entries.find? key = some entry ∧
    ∀ later, (b.serveAll requests).attachDefaults key later =
      (b.serveAll requests).fail (.defaultsAlreadyAttached entry.qualified)
  /-- As long as none was attached, the entry is open to every record that suits it. -/
  unlocked : entry.defaults = none → attachedTo key (b.accepted requests) = [] →
    (b.serveAll requests).entries.find? key = some entry ∧
      ∀ later, ((b.serveAll requests).attachDefaults key later).result = .ok () ↔ b.Suits entry later

private theorem attachedOnce {requests : List (Request P)} (found : b.entries.find? key = some entry)
    (unreplaced : key ∉ publishedKeys (b.accepted requests)) : AttachedOnce b key entry requests := by
  obtain ⟨defaults, there, records⟩ := find?_serveAll_of_unreplaced found unreplaced
  have unchanged (h : defaults = entry.defaults) : (b.serveAll requests).entries.find? key = some entry := by
    rw [there, h]
  constructor
  · rw [← List.length_append, ← records]
    cases defaults <;> simp
  · intro has
    obtain ⟨record, hd⟩ := Option.isSome_iff_exists.mp has
    have same : defaults = entry.defaults := by
      rw [hd, Option.toList_some] at records
      cases defaults with
      | none => cases records
      | some record' => rw [hd, (List.cons.inj records).1]
    exact ⟨unchanged same, attachDefaults_documented (unchanged same) has⟩
  · intro none nothing
    have same : defaults = entry.defaults := by
      rw [none, nothing] at records
      rw [none]
      exact Option.toList_eq_nil_iff.mp records
    refine ⟨unchanged same, fun later => attachDefaults_eq_ok_iff.trans ?_⟩
    rw [unchanged same, Suits, ← b.serveAll_config requests]
    constructor
    · rintro ⟨_, ⟨⟩, -, suits⟩
      exact suits
    · intro suits
      exact ⟨entry, rfl, none, suits⟩

end Run

structure RecordsAttached (b : Builder P) : Prop where
  atOnce : ∀ binding record, binding.defaults = none → AttachedAtOnce b binding record
  once : ∀ key entry requests, b.entries.find? key = some entry →
    key ∉ publishedKeys (b.accepted requests) → AttachedOnce b key entry requests
  /-- A record that does not suit an entry is refused, and leaves it open to others. -/
  refused : ∀ key entry record e, b.entries.find? key = some entry → entry.defaults = none →
    record.validate entry.qualified entry.table b.config.validateDefaults = .error e →
    b.attachDefaults key record = b.fail e ∧
      ∀ later, ((b.attachDefaults key record).builder.attachDefaults key later).result = .ok () ↔ b.Suits entry later

/-- Registering with a record is registering and attaching in one, and fails as a whole. Each entry gets at most one
record, however it gets it. -/
theorem records_attached_once (b : Builder P) : RecordsAttached b := by
  constructor
  · intro binding record plain
    exact attachedAtOnce b plain record
  · intro key entry requests found unreplaced
    exact attachedOnce found unreplaced
  · intro key entry record e found none unsuited
    have failed := attachDefaults_unsuited found none unsuited
    refine ⟨failed, fun later => ?_⟩
    rw [failed]
    have still : AttachedOnce b key entry [] := attachedOnce found List.not_mem_nil
    exact (still.unlocked none rfl).2 later

section Instance

private def negate : Binding Empty := .function "Negate" ⟨[.int], .int, fun (a, ()) => -a⟩

private def stepRecord : DefaultRecord := ⟨"negated", [("a", .int 1)], ""⟩

/-- Registered with a record, a function is registered and has the record, and does not get another one. -/
theorem records_attached_once_negate :
    (((new .standard).register negate).builder.attachDefaults (.ofNames "" "Negate") stepRecord).result = .ok () ∧
    ∀ later, ((new .standard).register (negate.withDefaults stepRecord)).builder.attachDefaults (.ofNames "" "Negate")
      later = ((new .standard).register (negate.withDefaults stepRecord)).builder.fail
        (.defaultsAlreadyAttached "Negate") := by
  have registered : ((new .standard).register (negate.withDefaults stepRecord)).result =
    .ok (.ofNames "" "Negate") := rfl
  have found : ((new .standard).register (negate.withDefaults stepRecord)).builder.entries.find?
      (.ofNames "" "Negate") = some { Entry.make "" "Negate" (.native negate.adapter)
        ⟨⟨"__return", .int, some .int, .void⟩, [⟨"_p1", .int, some .int, .void⟩]⟩ with
          defaults := some stepRecord } := rfl
  constructor
  · exact (((records_attached_once _).atOnce negate stepRecord rfl).succeeds_iff _).mp registered |>.2
  · exact (((records_attached_once _).once _ _ [] found List.not_mem_nil).kept rfl).2

end Instance

end ScriptBridge.Builder
