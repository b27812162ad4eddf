import ScriptBridge.Proofs.Reports
import ScriptBridge.Session.Run

/-! What sessions report, from the first registration to the last call, however calls nest in programs. -/
namespace ScriptBridge.Session
open World

def operation? : BuildStep Program → Option (Builder.Operation Program)
  | .mapKind t k => some (.mapKind t k)
  | .register binding => some (.register binding)
  | .install bindings => some (.install bindings)
  | .declare scope name result params body => some (.declareScript scope name result params body)
  | .attach key record => some (.attachDefaults key record)
  | .status | .has _ | .build => none

def buildAccount (b : Builder Program) (o : BuildStep Program) : List Occurrence :=
  match operation? o with
  | none => []
  | some o => (b.endings o.requests).map (.operation [])

def journalAccount (style : JournalStyle) : JournalStep → List Occurrence
  | .status => []
  | .report d => [.host (.report d)]
  | .take =>
    match style with
    | .memory => [.host .taken]
    | .log => []

section Accounts
variable (again : Runner Program HostState) (account : Account Program HostState)

mutual

def instructionsAccount : List Instruction → Frame → State → List Occurrence
  | [], _, _ => []
  | i :: rest, f, w =>
    instructionAccount i f w ++
      match runInstruction again i f w with
      | (.ok (), w) => instructionsAccount rest f w
      | (.error _, _) => []

def instructionAccount : Instruction → Frame → State → List Occurrence
  | .step o, _, w => stepAccount o w
  | _, _, _ => []

def stepAccount : Step → State → List Occurrence
  | .build o, w =>
    (match w.host.builder with
      | some b => buildAccount b o
      | none => []) ++ [.host .shown]
  | .journal o, w => journalAccount w.host.style o ++ [.host .shown]
  | .call callee scope arguments result, w =>
    (match w.isSealed, w.target? callee scope with
      | true, some target =>
        [(Caller.ofRunner again).callAccount (executeAccount account) target arguments result w.withoutOutput]
      | _, _ => []) ++ [.host .shown]
  | .invoke key arguments receiver, w =>
    (match w.registry.find? key, receiver with
      | none, _ => []
      | some entry, none => [w.withoutOutput.invokeAccount again account entry none arguments]
      | some entry, some id => w.withoutOutput.borrowingAccount id fun object w =>
        [w.invokeAccount again account entry (some (id, object)) arguments]) ++ [.host .shown]
  | .execute context key object, w =>
    (match w.registry.find? context with
      | none => []
      | some entry => w.withoutOutput.lockingAccount entry fun w => w.executeNativeAccount account object key context) ++
        [.host .shown]
  | .holdTable key steps, w =>
    (match w.registry.find? key with
      | none => []
      | some entry => w.withoutOutput.lockingAccount entry fun w => stepsAccount steps w) ++ [.host .shown]
  | .holdObject id steps, w =>
    (w.withoutOutput.borrowingAccount id fun _ w => stepsAccount steps w) ++ [.host .shown]
  | .showBinding _, _ | .inspect _, _ | .objects _, _ | .publish, _ | .published, _ | .slots _ _, _ => [.host .shown]

def stepsAccount : List Step → State → List Occurrence
  | [], _ => []
  | o :: rest, w => stepAccount o w ++ stepsAccount rest (runStep again o w).2

end

end Accounts

def nestedAccount : Nat → Account Program HostState
  | 0 => fun _ _ _ => []
  | depth + 1 => fun p f w => instructionsAccount (runNested depth) (nestedAccount depth) p f w

def programAccount : Account Program HostState := fun p f w => nestedAccount (w.registry.entries.size + 1) p f w

variable {w : State} {os : List Occurrence}

private theorem reportAll_journal (w : State) (ds : List Diagnostic) :
    (w.reportAll ds).journal = w.journal.after (ds.map .report) := by
  induction ds generalizing w with
  | nil => rfl
  | cons d ds ih => exact ih (w.report d)

private theorem told_built (b : Builder Program) (o : BuildStep Program) (w : State) :
    Told w (buildAccount b o) (w.build b o).2 := by
  have requested (o : Builder.Operation Program) (w' : State)
      (h : w'.journal = (w.reportAll (b.reports o)).journal) :
      Told w ((b.endings o.requests).map (.operation [])) w' := by
    rw [Told, Occurrence.eventsOf_operations, ← b.reports_eq, h, reportAll_journal]
  cases o with
  | status | has | build => exact .quiet rfl
  | _ => exact requested _ _ rfl

/-- Whatever a step does, at the end the host is shown what it has not seen. -/
private theorem told_answer {before : State} {o : Reply × State} (h : Told w os o.2) :
    Told w (os ++ [.host .shown]) (State.answer before o).2 :=
  h.trans (.host .shown rfl)

private theorem told_shown {before : State} {o : Reply × State} (h : o.2.journal = w.journal) :
    Told w [.host .shown] (State.answer before o).2 :=
  told_answer (.quiet h)

private theorem onTable_journal (f : Frame) (w : State) (change : SlotTable → Except BindError SlotTable) :
    (onTable f w change).2.journal = w.journal := by
  unfold onTable
  split
  · rfl
  · split <;> rfl

private theorem onObjects_journal (w : State) (o : ObjectStep) : (w.onObjects o).2.journal = w.journal := by
  cases o with
  | note id name =>
    unfold State.onObjects
    dsimp only
    split <;> rfl
  | state c id => simp only [State.onObjects, World.borrowingAs_read]
  | _ => rfl

private theorem told_journal (w : State) (o : JournalStep) :
    Told w (journalAccount w.host.style o) (w.onJournal o).2 := by
  unfold journalAccount State.onJournal
  cases o with
  | report d => exact .host _ rfl
  | status => cases w.host.style <;> exact .quiet rfl
  | take =>
    cases w.host.style with
    | memory => exact .host .taken rfl
    | log => exact .quiet rfl

/-- What happens under a lock with nothing to be reported. -/
private theorem locking_journal {α : Type} {entry : Entry Program} {body : State → Except BindError α × State}
    (h : ∀ w, (body w).2.journal = w.journal) (w : State) : (w.locking entry body).2.journal = w.journal := by
  by_cases held : entry.key ∈ w.held
  · rw [World.locking_held _ held]
  · rw [World.locking_free _ held]
    exact h (w.hold entry.key)

private theorem onSlots_journal (w : State) (entry : Entry Program) (o : SlotStep) :
    (w.onSlots entry o).2.journal = w.journal := by
  unfold State.onSlots
  cases o with
  | list | clear => exact locking_journal (fun _ => rfl) w
  | write index value =>
    refine locking_journal (fun w => ?_) w
    split <;> rfl

section Runs
variable {again : Runner Program HostState} {account : Account Program HostState}

mutual

private theorem told_runInstructions (ha : again.Accounted account) : ∀ (is : List Instruction) (f : Frame) (w : State),
    Told w (instructionsAccount again account is f w) (runInstructions again is f w).2
  | [], _, _ => .quiet rfl
  | i :: rest, f, w => by
    have hi := told_runInstruction ha i f w
    have hrest := told_runInstructions ha rest f
    unfold instructionsAccount runInstructions
    generalize runInstruction again i f w = o at hi ⊢
    obtain ⟨_ | _, w'⟩ := o
    · exact hi.trans (.quiet rfl)
    · exact hi.trans (hrest w')

private theorem told_runInstruction (ha : again.Accounted account) : ∀ (i : Instruction) (f : Frame) (w : State),
    Told w (instructionAccount again account i f w) (runInstruction again i f w).2
  | .set .., f, w => .quiet (onTable_journal f w _)
  | .copy .., f, w => .quiet (onTable_journal f w _)
  | .sum, f, w => .quiet (onTable_journal f w _)
  | .clear, f, w => .quiet (onTable_journal f w _)
  | .dump, f, w => by
    refine .quiet ?_
    show (((w.table? f.context).map fun t => w.giveOut (.slots t)).getD w).journal = w.journal
    cases w.table? f.context <;> rfl
  | .receiver, _, _ => .quiet rfl
  | .fail _, _, _ => .quiet rfl
  | .step o, _, w => told_runStep ha o w

/-- A step is told with all that happens in the programs that it starts. -/
theorem told_runStep (ha : again.Accounted account) : ∀ (o : Step) (w : State),
    Told w (stepAccount again account o w) (runStep again o w).2
  | .build o, w => by
    unfold stepAccount runStep
    refine told_answer ?_
    cases w.host.builder with
    | none => exact .quiet rfl
    | some b => exact told_built b o w.withoutOutput
  | .showBinding _, w => told_shown rfl
  | .inspect _, w => told_shown rfl
  | .objects o, w => told_shown (onObjects_journal w.withoutOutput o)
  | .journal o, w => told_answer (told_journal w.withoutOutput o)
  | .publish, w => by
    unfold stepAccount runStep
    refine told_shown ?_
    split
    · cases w.host.published <;> rfl
    · rfl
  | .published, w => told_shown rfl
  | .call callee scope arguments result, w => by
    unfold stepAccount runStep
    refine told_answer ?_
    cases w.isSealed with
    | false => exact .quiet rfl
    | true =>
      cases w.target? callee scope with
      | none => exact .quiet rfl
      | some target => exact Told.call (Told.execute ha) target arguments result w.withoutOutput
  | .invoke key arguments receiver, w => by
    unfold stepAccount runStep
    refine told_answer ?_
    cases w.registry.find? key with
    | none => exact .quiet rfl
    | some entry =>
      cases receiver with
      | none => exact .invoke ha entry none arguments w.withoutOutput
      | some id => exact .borrowing fun object w => .invoke ha entry (some (id, object)) arguments w
  | .execute context key object, w => by
    unfold stepAccount runStep
    refine told_answer ?_
    cases w.registry.find? context with
    | none => exact .quiet rfl
    | some entry => exact .locking fun w => .executeNative ha object key context w
  | .slots key o, w => by
    unfold stepAccount runStep
    refine told_shown ?_
    cases w.registry.find? key with
    | none => rfl
    | some entry => exact onSlots_journal w.withoutOutput entry o
  | .holdTable key steps, w => by
    have hsteps := told_runSteps ha steps
    unfold stepAccount runStep
    refine told_answer ?_
    cases w.registry.find? key with
    | none => exact .quiet rfl
    | some entry => exact .locking hsteps
  | .holdObject id steps, w => by
    have hsteps := told_runSteps ha steps
    unfold stepAccount runStep
    exact told_answer (.borrowing fun _ => hsteps)

private theorem told_runSteps (ha : again.Accounted account) : ∀ (steps : List Step) (w : State),
    Told w (stepsAccount again account steps w) (runSteps again steps w).2
  | [], _ => .quiet rfl
  | o :: rest, w => (told_runStep ha o w).trans (told_runSteps ha rest (runStep again o w).2)

end

end Runs

private theorem runNested_accounted : ∀ depth, (runNested depth).Accounted (nestedAccount depth)
  | 0 => fun _ _ _ => .quiet rfl
  | depth + 1 => told_runInstructions (runNested_accounted depth)

private theorem runProgram_accounted : runProgram.Accounted programAccount := fun p f w =>
  runNested_accounted (w.registry.entries.size + 1) p f w

structure FailuresReported : Prop where
  /-- A request that fails reports its error and nothing else. -/
  failed : ∀ {P : Type} (b : Builder P) r e, (b.serve r).result = .error e →
    (b.serve r).reports = [⟨.error, e.message⟩]
  /-- One that publishes an entry in place of another warns of that, and names the new entry. -/
  replaced : ∀ {P : Type} (b : Builder P) r key old, (b.serve r).result = .ok (some key) →
    b.entries.find? key = some old → b.config.duplicatePolicy = .lastWins ∧
      ∃ new, (b.serve r).builder.entries.find? key = some new ∧
        (b.serve r).reports = [⟨.warning, s!"'{new.qualified}' registered twice, replacing the earlier entry"⟩]
  /-- Any other that succeeds reports nothing. -/
  succeeded : ∀ {P : Type} (b : Builder P) r made, (b.serve r).result = .ok made →
    (∀ key, made = some key → b.entries.find? key = none) → (b.serve r).reports = []
  /-- An operation reports what its requests do, one after the other, and each failure of an installation is that of
  one of its bindings. -/
  operations : ∀ {P : Type} (b : Builder P) o, b.reports o = (b.endings o.requests).flatMap Ending.own
  installed : ∀ {P : Type} (b : Builder P) bindings,
    (b.install bindings).1.failed.map Prod.snd = (b.endings (bindings.map .register)).filterMap Ending.error?
  /-- An adapter of a typed function or method reports nothing, and an executor only what programs do. -/
  adapters : ∀ {P H : Type} (w : World P H) (run : Runner P H) adapter context receiver,
    (∀ p, adapter ≠ .program p) → (w.dispatch run adapter context receiver).2.journal = w.journal
  executors : ∀ {P H : Type} (w : World P H) (run : Runner P H) account object key context, run.Accounted account →
    Told w (w.executeAccount account object key context) (w.execute run object key context).2
  /-- A call is one operation, whatever its executor does within it. -/
  calls : ∀ {P H : Type} (w : World P H) (c : Caller P H) inner target arguments result,
    (∀ object key context w, Told w (inner object key context w) (c.executor object key context w).2) →
    Told w [c.callAccount inner target arguments result w] (c.call target arguments result w).2
  /-- So if the executor reports nothing, then a call that fails reports its own error only, and any other nothing. -/
  quiet : ∀ {P H : Type} (w : World P H) (c : Caller P H) target arguments result,
    (∀ object key context w, (c.executor object key context w).2.journal = w.journal) →
    (c.call target arguments result w).2.journal = w.journal.reporting (c.call target arguments result w).1
  /-- A direct call is one operation, with what its adapter does within it. -/
  directCalls : ∀ {P H : Type} (w : World P H) (run : Runner P H) account entry receiver arguments,
    run.Accounted account →
    Told w [w.invokeAccount run account entry receiver arguments] (w.invoke run entry receiver arguments).2
  quietDirect : ∀ {P H : Type} (w : World P H) (run : Runner P H) entry receiver arguments,
    (∀ p f w, (run p f w).2.journal = w.journal) →
    (w.invoke run entry receiver arguments).2.journal =
      w.journal.reporting (w.invoke run entry receiver arguments).1
  /-- In a session nothing else is reported, however calls nest. -/
  sessions : ∀ steps (w : State), Told w (stepsAccount runProgram programAccount steps w) (runSteps runProgram steps w).2
  /-- While the host takes nothing, all of that is kept. -/
  kept : ∀ steps (w : State), .taken ∉ Occurrence.eventsOf (stepsAccount runProgram programAccount steps w) →
    (runSteps runProgram steps w).2.journal.kept = w.journal.kept ++
      (Occurrence.eventsOf (stepsAccount runProgram programAccount steps w)).filterMap JournalEvent.diagnostic?

/-- Every failure is reported exactly once. -/
theorem failures_reported : FailuresReported where
  failed _ _ _ := Builder.reports_of_error
  replaced _ _ _ _ := Builder.reports_of_replaced
  succeeded _ _ _ := Builder.reports_of_ok
  operations := Builder.reports_eq
  installed := Builder.install_failed
  adapters w run _ context receiver typed := w.dispatch_journal run typed context receiver
  executors w _ _ object key context h := .execute h object key context w
  calls w _ _ target arguments result h := .call h target arguments result w
  quiet w _ target arguments result h := Told.call_journal h target arguments result w
  directCalls w _ _ entry receiver arguments h := .invoke h entry receiver arguments w
  quietDirect w _ entry receiver arguments h := Told.invoke_journal h entry receiver arguments w
  sessions := told_runSteps runProgram_accounted
  kept steps w h := by
    have told := told_runSteps runProgram_accounted steps w
    rw [told]
    exact w.journal.kept_after h

section Instance

private def grumbling : Program := [.step (.call (.function "Missing") none [] .unit), .fail (.missingReceiver "Grumble")]

private def grumble : Step := .build (.register ⟨"", "Grumble", .unit, [], .program grumbling, none⟩)

private def grumbled : List Step := [grumble, grumble, .build .build, .call (.function "Grumble") none [] .unit]

/-- The inner call reports before the outer one, and the error of the function itself is not reported. -/
theorem failures_reported_grumbled :
    (runSteps runProgram grumbled (.start ⟨.lastWins, 15, true⟩ .memory)).2.journal.kept =
      [⟨.warning, "'Grumble' registered twice, replacing the earlier entry"⟩,
        .ofError (.targetNotFound "function 'Missing'"), .ofError (.executionFailed "Grumble")] := by
  have kept := failures_reported.kept grumbled (.start ⟨.lastWins, 15, true⟩ .memory) (by decide +kernel)
  rw [kept]
  decide +kernel

end Instance

end ScriptBridge.Session
