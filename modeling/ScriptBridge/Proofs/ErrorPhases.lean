import ScriptBridge.Proofs.CallOrder
import ScriptBridge.Proofs.Reports
import ScriptBridge.Proofs.TypedDispatch

/-! Which failures count as mistakes in registering. Those of a builder do, all but one, and those of calls do not. -/
namespace ScriptBridge
variable {P H : Type}

theorem BindError.IsUnfit.isRegistration {e : BindError} (h : e.IsUnfit) : e.isRegistration = true := by
  cases e <;> first
    | rfl
    | cases h

private theorem BindError.IsRejection.uncounted {e : BindError} (h : e.IsRejection) : e.isRegistration = false := by
  cases e <;> first
    | rfl
    | cases h

private theorem BindError.IsTyped.uncounted {e : BindError} (h : e.IsTyped) : e.isRegistration = false := by
  cases e <;> first
    | rfl
    | cases h

namespace Builder
variable {b : Builder P} {r : Request P} {e : BindError}

/-- A request that fails counts as a mistake in registering, unless it is for a record and there is no entry for that. -/
theorem serve_counted_or (h : (b.serve r).result = .error e) :
    e.isRegistration = true ∨
      e.isRegistration = false ∧ ∃ key record, r = .attachDefaults key record ∧ b.entries.find? key = none := by
  have hs := b.served r
  generalize b.serve r = o at h hs
  cases hs with
  | mapped | published | attached => cases h
  | unfit registers refused check =>
    cases h
    exact .inl check.isRegistration
  | conflict | documented =>
    cases h
    exact .inl rfl
  | unsuited found missing refused =>
    cases h
    exact .inl (DefaultRecord.validate_error refused).isRegistration
  | missing absent =>
    cases h
    exact .inr ⟨rfl, _, _, rfl, absent⟩

private theorem counted_of_registers (registers : r.label?.isSome = true) (h : (b.serve r).result = .error e) :
    e.isRegistration = true := by
  obtain counted | ⟨-, key, record, rfl, -⟩ := serve_counted_or h
  · exact counted
  · cases registers

private theorem register_counted {binding : Binding P} (h : (b.register binding).result = .error e) :
    e.isRegistration = true :=
  @counted_of_registers _ b (.register binding) _ rfl (Outcome.map_error.mpr h)

private theorem install_counted {bindings : List (Binding P)} {label : String}
    (h : (label, e) ∈ (b.install bindings).1.failed) : e.isRegistration = true := by
  induction bindings generalizing b with
  | nil => cases h
  | cons binding rest ih =>
    rw [install] at h
    cases hr : (b.register binding).result with
    | ok key =>
      rw [hr] at h
      exact ih h
    | error err =>
      rw [hr] at h
      cases h with
      | head => exact register_counted hr
      | tail _ later => exact ih later

/-- The failures of a builder count as mistakes in registering, but that there is no entry for a record does not. -/
structure ErrorsCounted (b : Builder P) : Prop where
  register : ∀ {binding e}, (b.register binding).result = .error e → e.isRegistration = true
  install : ∀ {bindings label e}, (label, e) ∈ (b.install bindings).1.failed → e.isRegistration = true
  declareScript : ∀ {scope name result params body e},
    (b.declareScript scope name result params body).result = .error e → e.isRegistration = true
  attachDefaults : ∀ {key record e}, (b.attachDefaults key record).result = .error e →
    (e.isRegistration = true ↔ (b.entries.find? key).isSome = true)

private theorem errorsCounted (b : Builder P) : b.ErrorsCounted where
  register := register_counted
  install := install_counted
  declareScript {scope name result params body e} h :=
    @counted_of_registers _ b (.declareScript scope name result params body) _ rfl (Outcome.map_error.mpr h)
  attachDefaults {key record e} h := by
    cases found : b.entries.find? key with
    | none =>
      simp only [Builder.attachDefaults, found] at h
      cases h
      constructor
      · intro counted
        cases counted
      · intro there
        cases there
    | some entry =>
      have served : (b.serve (.attachDefaults key record)).result = .error e := Outcome.map_error.mpr h
      obtain counted | ⟨-, key', record', same, absent⟩ := serve_counted_or served
      · exact ⟨fun _ => rfl, fun _ => counted⟩
      · cases same
        cases absent.symm.trans found

end Builder

section Call

variable {w : World P H} {e : BindError}

private theorem World.fill_uncounted {key : EntryKey} {values : List SlotValue} (h : (w.fill key values).1 = .error e) :
    e.isRegistration = false := by
  rw [fill] at h
  split at h
  · cases h
  · obtain ⟨slot, expected, found, rfl⟩ := SlotTable.fill_error h
    rfl

/-- A use of a slot table fails because the table is in use, or as what is done with it fails. -/
theorem World.locking_uncounted {α : Type} {entry : Entry P} {body : World P H → Except BindError α × World P H}
    (inner : ∀ w e, (body w).1 = .error e → e.isRegistration = false) (h : (w.locking entry body).1 = .error e) :
    e.isRegistration = false := by
  by_cases held : entry.key ∈ w.held
  · rw [locking_held body held] at h
    cases h
    rfl
  · rw [locking_free body held] at h
    exact inner _ _ h

private theorem World.invoke_uncounted {run : Runner P H} {entry : Entry P} {receiver : Option (ObjectId × HostObject)}
    {arguments : List SlotValue} (typed : ∀ p, entry.adapter? ≠ some (.program p))
    (h : (w.invoke run entry receiver arguments).1 = .error e) : e.isRegistration = false := by
  rw [invoke, Caller.reporting_fst, attemptInvoke] at h
  split at h
  · cases h
    rfl
  · rename_i adapter native
    split at h
    · cases h
      rfl
    · split at h
      · rename_i err mismatch
        cases h
        obtain ⟨slot, expected, found, rfl⟩ := checkKinds_error mismatch
        rfl
      · refine locking_uncounted (fun w e failed => ?_) h
        split at failed
        · rename_i unfilled
          cases failed
          exact fill_uncounted (congrArg Prod.fst unfilled)
        · split at failed
          · rename_i broken
            cases failed
            obtain ⟨p, same, -⟩ | typed_code := dispatch_error (congrArg Prod.fst broken)
            · exact absurd (same ▸ native) (typed p)
            · exact typed_code.uncounted
          · cases failed

namespace Caller
variable {c : Caller P H} {target : CallTarget} {supply : Supply} {result : HostType}

/-- The checks of a call fail before anything is run. -/
theorem prepareSupplied_isRejection (h : c.prepareSupplied w target supply result = .error e) : e.IsRejection := by
  rcases bind_eq_error h with unresolved | ⟨⟨entry, object⟩, -, h⟩
  · obtain ⟨text, rfl⟩ := resolve_error unresolved
    trivial
  · dsimp only at h
    split at h
    · cases h
      trivial
    · split at h
      · cases h
        trivial
      · rcases bind_eq_error h with unconverted | ⟨values, -, h⟩
        · obtain ⟨vs, converted, -⟩ | ⟨i, refused, -⟩ := convertArguments_spec
            (c.objects.isLive w.objects w.host) entry.qualified 1 supply.arguments entry.signature.params
          · cases converted.symm.trans unconverted
          · cases refused.symm.trans unconverted
            trivial
        · cases h

private theorem perform_uncounted {call : PreparedCall P} (h : (c.perform call w).1 = .error e) :
    e.isRegistration = false := by
  refine World.locking_uncounted (fun w e failed => ?_) h
  split at failed
  · rename_i unfilled
    cases failed
    exact World.fill_uncounted (congrArg Prod.fst unfilled)
  · split at failed
    · cases failed
    · cases failed
      rfl

private theorem callSupplied_uncounted (h : (c.callSupplied target supply result w).1 = .error e) :
    e.isRegistration = false := by
  rw [callSupplied, reporting_fst] at h
  cases hp : c.prepareSupplied w target supply result with
  | error err =>
    rw [hp] at h
    cases h
    exact (prepareSupplied_isRejection hp).uncounted
  | ok call =>
    simp only [hp, complete] at h
    split at h
    · rename_i failed
      cases h
      exact perform_uncounted (congrArg Prod.fst failed)
    · obtain ⟨source, rfl⟩ := convertResult_error h
      rfl

end Caller
end Call

/-- No failure of a call counts as a mistake in registering: not of one by name, whatever runs the callee, and not of a
direct call of typed code. -/
structure World.ErrorsNotCounted (w : World P H) : Prop where
  call : ∀ {c : Caller P H} {target supply result e},
    (c.callSupplied target supply result w).1 = .error e → e.isRegistration = false
  invoke : ∀ {run entry receiver arguments e}, (∀ p, entry.adapter? ≠ some (.program p)) →
    (w.invoke run entry receiver arguments).1 = .error e → e.isRegistration = false

/-- Errors tell the phase that they come from, but for the one that an attachment to nothing shares with calls. -/
theorem errors_tell_phase : (∀ b : Builder P, b.ErrorsCounted) ∧ ∀ w : World P H, w.ErrorsNotCounted :=
  ⟨Builder.errorsCounted, fun _ => ⟨Caller.callSupplied_uncounted, World.invoke_uncounted⟩⟩

/-- To attach a record under a name that nothing stands under fails while registering, and is not counted so. -/
theorem attachment_to_nothing_uncounted :
    ∃ e, ((Builder.new BindConfig.standard : Builder Empty).attachDefaults (.ofNames "" "Nope") ⟨"r", [], ""⟩).result =
      .error e ∧ e.isRegistration = false :=
  ⟨_, rfl, rfl⟩

end ScriptBridge
