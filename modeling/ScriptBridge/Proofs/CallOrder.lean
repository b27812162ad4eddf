import ScriptBridge.HostLibrary
import ScriptBridge.Proofs.Activation

/-! The order of the steps of a call. A call with a check that fails has the error of the first such check and leaves
everything as it was. Any other call runs its executor exactly once. -/
namespace ScriptBridge
variable {P H : Type}

/-- The errors of a call that nothing is run for. -/
def BindError.IsRejection : BindError → Prop
  | .targetNotFound _ | .arityMismatch _ _ _ | .unsupportedReturnType _ | .argumentConversionFailed _ _
  | .contextBusy _ => True
  | _ => False

def World.withHost {H' : Type} (w : World P H) (host : H') : World P H' :=
  ⟨w.registry, w.held, w.objects, w.journal, host⟩

namespace Caller

def run (c : Caller P H) (p : PreparedCall P) (w : World P H) : Bool × World P H :=
  c.executor p.object p.entry.key p.entry.key (w.enter p.entry.key p.arguments)

inductive Fails (c : Caller P H) (w : World P H) (target : CallTarget) (arguments : List Argument)
    (result : HostType) : BindError → Prop where
  | rejected {e} (rejected : c.Rejects w target arguments result e) : Fails c w target arguments result e
  | execution {p} (ready : c.Ready w target arguments result p) (free : p.entry.key ∉ w.held)
      (failed : (c.run p w).1 = false) : Fails c w target arguments result (.executionFailed p.entry.qualified)
  | conversion {p source} (ready : c.Ready w target arguments result p) (free : p.entry.key ∉ w.held)
      (succeeded : (c.run p w).1 = true)
      (bad : c.convertResult ((c.run p w).2.release p.entry.key) p.entry.qualified p.resultKind result
        ((c.run p w).2.resultValue p.entry.key) =
          .error (.returnConversionFailed p.entry.qualified source p.resultKind)) :
      Fails c w target arguments result (.returnConversionFailed p.entry.qualified source p.resultKind)

/-- The same caller for a host that also lists the runs of the executor: the object, the code, and the entry whose table
the code ran on. -/
def recording (c : Caller P H) : Caller P (H × List (ObjectId × EntryKey × EntryKey)) where
  executor object key context w :=
    let (success, w') := c.executor object key context (w.withHost w.host.1)
    (success, w'.withHost (w'.host, w.host.2 ++ [(object, key, context)]))
  objects := {
    findByAddress? := fun objects host => c.objects.findByAddress? objects host.1
    entry? := fun objects host => c.objects.entry? objects host.1
    isLive := fun objects host => c.objects.isLive objects host.1 }

def withRuns {α : Type} (runs : List (ObjectId × EntryKey × EntryKey)) (o : α × World P H) :
    α × World P (H × List (ObjectId × EntryKey × EntryKey)) :=
  (o.1, o.2.withHost (o.2.host, runs))

variable {c : Caller P H} {w : World P H} {target : CallTarget} {arguments : List Argument} {result : HostType}

private theorem Rejects.isRejection {e : BindError} (h : c.Rejects w target arguments result e) : e.IsRejection := by
  cases h <;> trivial

/-- A result that cannot be handed back fails in one way. -/
theorem convertResult_error {function : String} {kind : Kind} {v : SlotValue} {e : BindError}
    (h : c.convertResult w function kind result v = .error e) :
    ∃ source, e = .returnConversionFailed function source kind := by
  simp only [convertResult] at h
  split at h
  · cases h
    exact ⟨_, rfl⟩
  · split at h
    · cases h
    · cases h
      exact ⟨_, rfl⟩

theorem Rejects.call {e : BindError} (h : c.Rejects w target arguments result e) :
    c.call target arguments result w = (.error e, w.report (.ofError e)) := by
  simp only [Caller.call, h.attempt, World.reporting]

theorem Ready.call {p : PreparedCall P} (h : c.Ready w target arguments result p) (hw : Coherent w.registry.entries)
    (free : p.entry.key ∉ w.held) :
    c.call target arguments result w = World.reporting (c.finish p result (c.run p w)) := by
  simp only [Caller.call, h.attempt hw free, run]

@[simp] theorem reporting_fst {α : Type} (o : Except BindError α × World P H) : (World.reporting o).1 = o.1 := by
  obtain ⟨_ | _, w⟩ := o <;> rfl

/-- A call that runs fails in the run or at the conversion of its result. -/
theorem Ready.fails_iff {p : PreparedCall P} (h : c.Ready w target arguments result p)
    (hw : Coherent w.registry.entries) (free : p.entry.key ∉ w.held) (e : BindError) :
    (c.call target arguments result w).1 = .error e ↔
      (c.run p w).1 = false ∧ e = .executionFailed p.entry.qualified ∨
      (c.run p w).1 = true ∧ c.convertResult ((c.run p w).2.release p.entry.key) p.entry.qualified p.resultKind result
        ((c.run p w).2.resultValue p.entry.key) = .error e := by
  rw [h.call hw free, reporting_fst]
  cases hr : c.run p w with
  | mk success w' =>
    cases success with
    | false =>
      simp only [finish, true_and, Bool.false_eq_true, false_and, or_false]
      exact ⟨fun he => (Except.error.inj he).symm, fun he => he ▸ rfl⟩
    | true => simp only [finish, Bool.true_eq_false, false_and, true_and, false_or]

section Recording
variable (runs : List (ObjectId × EntryKey × EntryKey))

private theorem recording_resolve :
    c.recording.resolve (w.withHost (w.host, runs)) target = c.resolve w target := by
  rcases target with ⟨name, label⟩ | ⟨_ | _, scope, name, label⟩ <;> rfl

private theorem Ready.recorded {p : PreparedCall P} (h : c.Ready w target arguments result p) :
    c.recording.Ready (w.withHost (w.host, runs)) target arguments result p :=
  ⟨(recording_resolve runs).trans h.resolved, h.arity, h.kind, h.known, h.converted⟩

private theorem Rejects.recorded {e : BindError} (h : c.Rejects w target arguments result e) :
    c.recording.Rejects (w.withHost (w.host, runs)) target arguments result e := by
  cases h with
  | target missing => exact .target ((recording_resolve runs).trans missing)
  | arity resolved differ => exact .arity ((recording_resolve runs).trans resolved) differ
  | resultType resolved arity unknown => exact .resultType ((recording_resolve runs).trans resolved) arity unknown
  | argument resolved arity known bad least =>
    exact .argument ((recording_resolve runs).trans resolved) arity known bad least
  | busy ready held => exact .busy (ready.recorded runs) held

private theorem enter_withHost {H' : Type} (host : H') (key : EntryKey) (values : List SlotValue) :
    (w.withHost host).enter key values = (w.enter key values).withHost host := by
  rw [World.enter_eq, World.enter_eq]
  change ((w.table? key).map _).getD _ = _
  cases w.table? key <;> rfl

private theorem reporting_withRuns {α : Type} (o : Except BindError α × World P H) :
    World.reporting (withRuns runs o) = withRuns runs (World.reporting o) := by
  obtain ⟨_ | _, w⟩ := o <;> rfl

/-- The conversion of a result asks about objects only, and both callers answer alike. -/
theorem finish_withRuns (p : PreparedCall P) (o : Bool × World P H) :
    c.recording.finish p result (withRuns runs o) = withRuns runs (c.finish p result o) := by
  obtain ⟨_ | _, w⟩ := o <;> rfl

private theorem run_withRuns (p : PreparedCall P) :
    c.recording.run p (w.withHost (w.host, runs)) =
      withRuns (runs ++ [(p.object, p.entry.key, p.entry.key)]) (c.run p w) := by
  have hback : ((w.enter p.entry.key p.arguments).withHost (w.host, runs)).withHost w.host =
      w.enter p.entry.key p.arguments := by
    rw [← (w.enter_rest p.entry.key p.arguments).2.2.2]
    rfl
  rw [run, enter_withHost]
  simp only [recording, run, withRuns, World.withHost] at hback ⊢
  rw [hback]

/-- Listing the runs adds the one run of a call that is ready to the list and changes nothing else. -/
theorem Ready.recording_call {p : PreparedCall P} (h : c.Ready w target arguments result p)
    (hw : Coherent w.registry.entries) (free : p.entry.key ∉ w.held) :
    c.recording.call target arguments result (w.withHost (w.host, runs)) =
      withRuns (runs ++ [(p.object, p.entry.key, p.entry.key)]) (c.call target arguments result w) := by
  rw [(h.recorded runs).call hw free, h.call hw free, run_withRuns, finish_withRuns, reporting_withRuns]

theorem Rejects.recording_call {e : BindError} (h : c.Rejects w target arguments result e) :
    c.recording.call target arguments result (w.withHost (w.host, runs)) =
      withRuns runs (c.call target arguments result w) := by
  rw [(h.recorded runs).call, h.call]
  rfl

end Recording

/-- The error of a call is that of its first step that fails. -/
theorem call_fails_iff (hw : Coherent w.registry.entries) (e : BindError) :
    (c.call target arguments result w).1 = .error e ↔ c.Fails w target arguments result e := by
  constructor
  · intro he
    rcases c.rejects_or_ready w target arguments result with ⟨e', rejected⟩ | ⟨p, ready, free⟩
    · rw [rejected.call] at he
      cases he
      exact .rejected rejected
    · rcases (ready.fails_iff hw free e).mp he with ⟨failed, rfl⟩ | ⟨succeeded, bad⟩
      · exact .execution ready free failed
      · obtain ⟨source, rfl⟩ := convertResult_error bad
        exact .conversion ready free succeeded bad
  · intro he
    cases he with
    | rejected rejected => rw [rejected.call]
    | execution ready free failed => exact (ready.fails_iff hw free _).mpr (.inl ⟨failed, rfl⟩)
    | conversion ready free succeeded bad => exact (ready.fails_iff hw free _).mpr (.inr ⟨succeeded, bad⟩)

/-- Only calls that nothing is run for fail with a rejection. -/
theorem Fails.rejects {e : BindError} (h : c.Fails w target arguments result e) (he : e.IsRejection) :
    c.Rejects w target arguments result e := by
  cases h with
  | rejected rejected => exact rejected
  | execution | conversion => exact he.elim

/-- In every reachable state a call fails with the error of the first step that fails. If that is a check, only the
journal changes, and the executor is not run. Otherwise all arguments are written, and the executor runs once. -/
theorem call_ordered {config : BindConfig} {history : List (Builder.Operation P)} {s : List Activation}
    (hw : Reachable ((Builder.new config).after history).build s w) (c : Caller P H) (target : CallTarget)
    (arguments : List Argument) (result : HostType) (runs : List (ObjectId × EntryKey × EntryKey)) :
    (∀ e, (c.call target arguments result w).1 = .error e ↔ c.Fails w target arguments result e) ∧
    (∀ e, e.IsRejection → (c.call target arguments result w).1 = .error e →
      c.call target arguments result w = (.error e, w.report (.ofError e)) ∧
      c.recording.call target arguments result (w.withHost (w.host, runs)) =
        (.error e, (w.report (.ofError e)).withHost (w.host, runs))) ∧
    ((∀ e, e.IsRejection → (c.call target arguments result w).1 ≠ .error e) →
      ∃ p, c.Ready w target arguments result p ∧ p.entry.key ∉ w.held ∧
        (w.hold p.entry.key).fill p.entry.key p.arguments = (.ok (), w.enter p.entry.key p.arguments) ∧
        w.enter p.entry.key p.arguments =
          (w.hold p.entry.key).putTable p.entry.key (p.entry.table.withArguments p.arguments) ∧
        c.call target arguments result w = World.reporting (c.finish p result (c.run p w)) ∧
        c.recording.call target arguments result (w.withHost (w.host, runs)) =
          ((c.call target arguments result w).1, (c.call target arguments result w).2.withHost
            ((c.call target arguments result w).2.host, runs ++ [(p.object, p.entry.key, p.entry.key)]))) := by
  have coherent := hw.coherent
  refine ⟨fun e => call_fails_iff coherent e, ?_, ?_⟩
  · intro e early he
    have rejected := ((call_fails_iff coherent e).mp he).rejects early
    refine ⟨rejected.call, ?_⟩
    rw [rejected.recording_call, rejected.call]
    rfl
  · intro late
    rcases c.rejects_or_ready w target arguments result with ⟨e, rejected⟩ | ⟨p, ready, free⟩
    · exact absurd (congrArg Prod.fst rejected.call) (late e rejected.isRejection)
    · obtain ⟨filled, entered⟩ := World.fill_enter (ready.found coherent).1 (ready.kinds coherent)
      exact ⟨p, ready, free, filled, entered, ready.call coherent free, ready.recording_call runs coherent free⟩

private def adder : World Empty Unit :=
  .fresh ((Builder.new .standard).after [.register (.function "Sum" (HostLibrary.sum 2))]).build ()

private def nativeOnly : Caller Empty Unit := .ofRunner fun p => p.elim

theorem call_ordered_sum :
    nativeOnly.Fails adder (.ofName "Sum") [.value (.int 1)] .int (.arityMismatch "Sum" 2 1) ∧
      ∃ p, nativeOnly.Ready adder (.ofName "Sum") [.value (.int 1), .text "2"] .int p ∧ p.entry.key ∉ adder.held := by
  have hw : Reachable ((Builder.new .standard).after [.register (.function "Sum" (HostLibrary.sum 2))]).build []
      adder := .fresh _ ()
  refine ⟨((call_ordered hw nativeOnly _ _ _ []).1 _).mp (by decide +kernel), ?_⟩
  have returned : (nativeOnly.call (.ofName "Sum") [.value (.int 1), .text "2"] .int adder).1 = .ok (3 : Int32) := by
    decide +kernel
  obtain ⟨p, ready, free, -⟩ := (call_ordered hw nativeOnly _ _ _ []).2.2 fun e _ he => by
    rw [returned] at he
    cases he
  exact ⟨p, ready, free⟩

end Caller
end ScriptBridge
