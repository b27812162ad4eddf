import ScriptBridge.Dispatch
import ScriptBridge.Proofs.SlotWrites

/-! Typed code on slot tables: what it reads, what it leaves, and the errors that it can have. -/
namespace ScriptBridge

/-- A native value comes out of a slot as it went in. -/
@[simp] theorem HostType.unbox_box (t : HostType) (a : t.Carrier) : t.unbox (t.box a) = .ok a := by
  cases t <;> first
    | rfl
    | cases a

namespace HostType

/-- The kind of value that a native type is read from, unless it takes any. No value is of the unregistered kind. -/
def wanted? : HostType → Option Kind
  | .unit | .value | .token _ => none
  | .int => some .int
  | .float | .floatWrapper _ => some .float
  | .bool => some .bool
  | .string | .literal => some .string
  | .object => some .object
  | .vector => some .vector
  | .foreign _ => some .unregistered

def Admits (t : HostType) (k : Kind) : Prop := ∀ wanted, t.wanted? = some wanted → k = wanted

/-- A value of the right kind is read, and another one is refused with both kinds. -/
theorem unbox_cases (t : HostType) (v : SlotValue) :
    (t.Admits v.kind ∧ ∃ a, t.unbox v = .ok a) ∨
      ∃ k, t.wanted? = some k ∧ v.kind ≠ k ∧ t.unbox v = .error (.typeMismatch k v.kind) := by
  cases t <;> first
    | exact .inl ⟨nofun, _, rfl⟩
    | cases v <;> first
      | exact .inl ⟨fun _ h => Option.some.inj h, _, rfl⟩
      | exact .inr ⟨_, rfl, Kind.noConfusion, rfl⟩

end HostType

def Readable (t : HostType) (table : SlotTable) (position : Nat) : Prop :=
  ∃ v, table.value? position = some v ∧ t.Admits v.kind

inductive Misfit (t : HostType) (table : SlotTable) (position : Nat) : BindError → Prop where
  | missing (none : table.value? position = none) :
      Misfit t table position (.slotKindMismatch position .unregistered .void)
  | kind {v k} (holds : table.value? position = some v) (wanted : t.wanted? = some k) (differ : v.kind ≠ k) :
      Misfit t table position (.slotKindMismatch position k v.kind)

def Held : (ts : List HostType) → Arguments ts → Nat → SlotTable → Prop
  | [], _, _, _ => True
  | t :: ts, (a, as), position, table =>
    (∃ v, table.value? position = some v ∧ t.unbox v = .ok a) ∧ Held ts as (position + 1) table

inductive FirstMisfit (table : SlotTable) : List HostType → Nat → BindError → Prop where
  | here {t ts position e} (bad : Misfit t table position e) : FirstMisfit table (t :: ts) position e
  | later {t ts position e} (good : Readable t table position) (rest : FirstMisfit table ts (position + 1) e) :
      FirstMisfit table (t :: ts) position e

section Reading
variable {t : HostType} {ts : List HostType} {table : SlotTable} {position : Nat} {e : BindError}

private theorem readArgument_of_unbox {v : SlotValue} {a : t.Carrier} (hv : table.value? position = some v)
    (ha : t.unbox v = .ok a) : readArgument t position table = .ok a := by
  simp only [readArgument, hv, ha]

private theorem readable_or_misfit (t : HostType) (table : SlotTable) (position : Nat) :
    (Readable t table position ∧ ∃ v a, table.value? position = some v ∧ t.unbox v = .ok a) ∨
      ∃ e, Misfit t table position e := by
  cases hv : table.value? position with
  | none => exact .inr ⟨_, .missing hv⟩
  | some v =>
    obtain ⟨admits, a, ha⟩ | ⟨k, wanted, differ, -⟩ := t.unbox_cases v
    · exact .inl ⟨⟨v, hv, admits⟩, v, a, rfl, ha⟩
    · exact .inr ⟨_, .kind hv wanted differ⟩

theorem Misfit.readArgument (h : Misfit t table position e) : readArgument t position table = .error e := by
  cases h with
  | missing none => simp only [ScriptBridge.readArgument, none]
  | @kind v k holds wanted differ =>
    obtain ⟨admits, -⟩ | ⟨k', wanted', -, refused⟩ := t.unbox_cases v
    · exact absurd (admits k wanted) differ
    · obtain rfl : k = k' := Option.some.inj (wanted.symm.trans wanted')
      simp only [ScriptBridge.readArgument, holds, refused]

private theorem Misfit.not_readable (h : Misfit t table position e) : ¬ Readable t table position := by
  rintro ⟨v, hv, admits⟩
  cases h with
  | missing none => cases none.symm.trans hv
  | kind holds wanted differ =>
    cases holds.symm.trans hv
    exact differ (admits _ wanted)

theorem Readable.exists_unbox (h : Readable t table position) :
    ∃ v a, table.value? position = some v ∧ t.unbox v = .ok a := by
  obtain ⟨-, reads⟩ | ⟨e, bad⟩ := readable_or_misfit t table position
  · exact reads
  · exact absurd h bad.not_readable

theorem Held.read {as : Arguments ts} (h : Held ts as position table) : readArguments ts position table = .ok as := by
  induction ts generalizing position with
  | nil => rfl
  | cons t ts ih =>
    obtain ⟨a, as⟩ := as
    obtain ⟨⟨v, hv, ha⟩, rest⟩ := h
    simp only [readArguments, readArgument_of_unbox hv ha, ih rest]
    rfl

theorem FirstMisfit.read (h : FirstMisfit table ts position e) : readArguments ts position table = .error e := by
  induction h with
  | here bad =>
    simp only [readArguments, bad.readArgument]
    rfl
  | later good _ ih =>
    obtain ⟨v, a, hv, ha⟩ := good.exists_unbox
    simp only [readArguments, readArgument_of_unbox hv ha, ih]
    rfl

/-- An argument that cannot be read names its slot. -/
theorem FirstMisfit.isMismatch (h : FirstMisfit table ts position e) :
    ∃ slot expected found, e = .slotKindMismatch slot expected found := by
  induction h with
  | here bad => cases bad <;> exact ⟨_, _, _, rfl⟩
  | later _ _ ih => exact ih

/-- Either all arguments are there, or there is a first that is not. -/
theorem held_or_misfit (ts : List HostType) (position : Nat) (table : SlotTable) :
    (∃ as, Held ts as position table) ∨ ∃ e, FirstMisfit table ts position e := by
  induction ts generalizing position with
  | nil => exact .inl ⟨(), trivial⟩
  | cons t ts ih =>
    obtain ⟨good, v, a, reads⟩ | ⟨e, bad⟩ := readable_or_misfit t table position
    · obtain ⟨as, held⟩ | ⟨e, bad⟩ := ih (position + 1)
      · exact .inl ⟨(a, as), ⟨v, reads⟩, held⟩
      · exact .inr ⟨e, .later good bad⟩
    · exact .inr ⟨e, .here bad⟩

/-- All arguments are there exactly if every slot is there and holds the right kind. -/
theorem exists_held_iff (ts : List HostType) (position : Nat) (table : SlotTable) :
    (∃ as, Held ts as position table) ↔ ∀ i t, ts[i]? = some t → Readable t table (position + i) := by
  induction ts generalizing position with
  | nil => exact ⟨fun _ i t h => (nomatch h), fun _ => ⟨(), trivial⟩⟩
  | cons t ts ih =>
    constructor
    · rintro ⟨⟨a, as⟩, ⟨v, hv, ha⟩, held⟩ i t' ht'
      cases i with
      | zero =>
        obtain rfl : t = t' := Option.some.inj ht'
        obtain ⟨good, -⟩ | ⟨e, bad⟩ := readable_or_misfit t table position
        · exact good
        · cases (readArgument_of_unbox hv ha).symm.trans bad.readArgument
      | succ i =>
        rw [Nat.add_comm i, ← Nat.add_assoc]
        exact (ih (position + 1)).mp ⟨as, held⟩ i t' ht'
    · intro h
      obtain ⟨v, a, reads⟩ := (h 0 t rfl).exists_unbox
      obtain ⟨as, held⟩ := (ih (position + 1)).mpr fun i t' ht' => by
        rw [Nat.add_assoc, Nat.add_comm 1]
        exact h (i + 1) t' ht'
      exact ⟨(a, as), ⟨v, reads⟩, held⟩

end Reading

def boxArguments : (ts : List HostType) → Arguments ts → List SlotValue
  | [], _ => []
  | t :: ts, (a, rest) => t.box a :: boxArguments ts rest

/-- Slots that hold native arguments give these. -/
theorem held_of_values {ts : List HostType} {position : Nat} {table : SlotTable} {as : Arguments ts}
    (h : ∀ i v, (boxArguments ts as)[i]? = some v → table.value? (position + i) = some v) :
    Held ts as position table := by
  induction ts generalizing position with
  | nil => trivial
  | cons t ts ih =>
    obtain ⟨a, as⟩ := as
    refine ⟨⟨t.box a, h 0 _ rfl, t.unbox_box a⟩, ih fun i v hv => ?_⟩
    rw [Nat.add_assoc, Nat.add_comm 1 i]
    exact h (i + 1) v hv

/-- Reading parameter slots does not look at the result slot. -/
theorem readArguments_congr (ts : List HostType) (position : Nat) {t t' : SlotTable} (h : t'.params = t.params) :
    readArguments ts (position + 1) t' = readArguments ts (position + 1) t := by
  induction ts generalizing position with
  | nil => rfl
  | cons type ts ih =>
    have hv : t'.value? (position + 1) = t.value? (position + 1) := by
      simp only [SlotTable.value?, SlotTable.slot?, SlotTable.slots, List.getElem?_cons_succ, h]
    simp only [readArguments, readArgument, hv, ih]

private theorem SlotTable.value?_withArguments {t : SlotTable} {vs : List SlotValue} (h : vs.length = t.params.length)
    {i : Nat} {v : SlotValue} (hv : vs[i]? = some v) : (t.withArguments vs).value? (1 + i) = some v := by
  have hi : i < t.params.length := h ▸ (List.getElem?_eq_some_iff.mp hv).1
  rw [Nat.add_comm]
  simp [value?, slot?, slots, withArguments, List.getElem?_zipWith, hv, List.getElem?_eq_getElem hi]

namespace HostFunction
variable {f : HostFunction} {t t' : SlotTable}

/-- A function on the slots of its arguments writes its result for them. -/
theorem dispatch_withArguments {as : Arguments f.params} (h : (boxArguments f.params as).length = t.params.length) :
    f.dispatch (t.withArguments (boxArguments f.params as)) =
      (t.withArguments (boxArguments f.params as)).setResult (f.result.box (f.run as)) := by
  have hr : readArguments f.params 1 (t.withArguments (boxArguments f.params as)) = .ok as :=
    (held_of_values fun i v hv => SlotTable.value?_withArguments h hv).read
  simp only [dispatch, hr]
  rfl

/-- A function that succeeds has written its result. -/
theorem dispatch_eq_ok (h : f.dispatch t = .ok t') : ∃ v, t.setResult v = .ok t' := by
  obtain ⟨arguments, -, h⟩ := bind_eq_ok h
  exact ⟨_, h⟩

end HostFunction

namespace HostMethod
variable {m : HostMethod} {name className : String} {receiver : Option HostObject} {t t' : SlotTable}

/-- A method on the slots of its arguments writes its result for them, and leaves its receiver as the body does. -/
theorem dispatch_withArguments {object : HostObject} {state : m.cls.State} {as : Arguments m.params}
    (hs : object.stateOf? m.cls = some state) (h : (boxArguments m.params as).length = t.params.length) :
    m.dispatch name className (some object) (t.withArguments (boxArguments m.params as)) =
      ((t.withArguments (boxArguments m.params as)).setResult (m.result.box (m.body.run state as).1),
        some ⟨m.cls, (m.body.run state as).2⟩) := by
  have hr : readArguments m.params 1 (t.withArguments (boxArguments m.params as)) = .ok as :=
    (held_of_values fun i v hv => SlotTable.value?_withArguments h hv).read
  simp only [dispatch, hs, hr]

/-- A method that succeeds has written its result. -/
theorem dispatch_eq_ok (h : (m.dispatch name className receiver t).1 = .ok t') : ∃ v, t.setResult v = .ok t' := by
  simp only [dispatch] at h
  split at h
  · cases h
  · split at h
    · cases h
    · split at h
      · cases h
      · exact ⟨_, h⟩

end HostMethod

private theorem readArguments_error {ts : List HostType} {position : Nat} {table : SlotTable} {e : BindError}
    (h : readArguments ts position table = .error e) :
    ∃ slot expected found, e = .slotKindMismatch slot expected found := by
  obtain ⟨as, held⟩ | ⟨e', bad⟩ := held_or_misfit ts position table
  · cases held.read.symm.trans h
  · cases bad.read.symm.trans h
    exact bad.isMismatch

/-- Typed code fails for what it finds in its slots or for its receiver. -/
theorem HostFunction.dispatch_error {f : HostFunction} {t : SlotTable} {e : BindError} (h : f.dispatch t = .error e) :
    ∃ slot expected found, e = .slotKindMismatch slot expected found := by
  simp only [dispatch] at h
  cases hr : readArguments f.params 1 t with
  | error err =>
    rw [hr] at h
    cases h
    exact readArguments_error hr
  | ok as =>
    rw [hr] at h
    exact SlotTable.set_error (show t.set 0 _ = .error e from h)

theorem HostMethod.dispatch_error {m : HostMethod} {name className : String} {receiver : Option HostObject}
    {t : SlotTable} {e : BindError} (h : (m.dispatch name className receiver t).1 = .error e) :
    e = .missingReceiver name ∨ e = .receiverMismatch name className ∨
      ∃ slot expected found, e = .slotKindMismatch slot expected found := by
  simp only [dispatch] at h
  split at h
  · cases h
    exact .inl rfl
  · split at h
    · cases h
      exact .inr (.inl rfl)
    · split at h
      · rename_i hr
        cases h
        exact .inr (.inr (readArguments_error hr))
      · exact .inr (.inr (SlotTable.set_error (show t.set 0 _ = .error e from h)))

def BindError.IsTyped : BindError → Prop
  | .slotKindMismatch .. | .missingReceiver _ | .receiverMismatch .. | .executionFailed _ => True
  | _ => False

section Dispatch
variable {P H : Type} {run : Runner P H} {adapter : Adapter P} {context : EntryKey}
  {receiver : Option (ObjectId × HostObject)} {w : World P H}

/-- A run of an adapter fails as hand-written code does, or with an error of typed code. -/
theorem World.dispatch_error {e : BindError} (h : (w.dispatch run adapter context receiver).1 = .error e) :
    (∃ p, adapter = .program p ∧ (run p ⟨context, receiver.isSome⟩ w).1 = .error e) ∨ e.IsTyped := by
  simp only [dispatch] at h
  split at h
  · exact .inl ⟨_, rfl, h⟩
  · cases h
    exact .inr trivial
  · rename_i f table ht
    cases hf : f.dispatch table with
    | ok t =>
      rw [hf] at h
      cases h
    | error e =>
      obtain ⟨slot, expected, found, rfl⟩ := HostFunction.dispatch_error hf
      rw [hf] at h
      cases h
      exact .inr trivial
  · rename_i m name className table ht
    cases hm : (m.dispatch name className (receiver.map (·.2)) table).1 with
    | ok t =>
      rw [hm] at h
      cases h
    | error e =>
      rw [hm] at h
      cases h
      rcases HostMethod.dispatch_error hm with rfl | rfl | ⟨slot, expected, found, rfl⟩ <;> exact .inr trivial

/-- Only hand-written code passes on that a table is in use. -/
theorem World.dispatch_busy {function : String}
    (h : (w.dispatch run adapter context receiver).1 = .error (.contextBusy function)) :
    ∃ p, adapter = .program p ∧ (run p ⟨context, receiver.isSome⟩ w).1 = .error (.contextBusy function) := by
  obtain written | typed := dispatch_error h
  · exact written
  · cases typed

end Dispatch

end ScriptBridge
