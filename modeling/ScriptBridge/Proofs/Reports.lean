import ScriptBridge.Proofs.CallOrder
import ScriptBridge.Proofs.Publication
import ScriptBridge.Proofs.TypedDispatch

/-! What operations report. A failed operation reports its error once, after all that is reported within it. One that
succeeds reports nothing, or one warning if it registers an entry in place of another. -/
namespace ScriptBridge
variable {P H : Type}

inductive Ending where
  | succeeded
  | replaced (qualified : String)
  | failed (e : BindError)

namespace Ending

def own : Ending → List Diagnostic
  | .succeeded => []
  | .replaced qualified => [⟨.warning, s!"'{qualified}' registered twice, replacing the earlier entry"⟩]
  | .failed e => [⟨.error, e.message⟩]

def of {α : Type} : Except BindError α → Ending
  | .ok _ => .succeeded
  | .error e => .failed e

def error? : Ending → Option BindError
  | .failed e => some e
  | .succeeded | .replaced _ => none

end Ending

namespace Builder
variable {b : Builder P}

/-- How a request ends. It replaces an entry if it publishes one under a key that was taken. -/
def ending (b : Builder P) (r : Request P) : Ending :=
  match (b.serve r).result with
  | .error e => .failed e
  | .ok none => .succeeded
  | .ok (some key) =>
    match b.entries.find? key, (b.serve r).builder.entries.find? key with
    | some _, some new => .replaced new.qualified
    | _, _ => .succeeded

def endings (b : Builder P) : List (Request P) → List Ending
  | [] => []
  | r :: rest => b.ending r :: endings (b.serve r).builder rest

def reports (b : Builder P) : Operation P → List Diagnostic
  | .mapKind _ _ => []
  | .register binding => (b.register binding).reports
  | .install bindings => (b.install bindings).2.1
  | .declareScript scope name result params body => (b.declareScript scope name result params body).reports
  | .attachDefaults key record => (b.attachDefaults key record).reports

/-- Every request reports exactly what its ending calls for. -/
theorem serve_reports (b : Builder P) (r : Request P) : (b.serve r).reports = (b.ending r).own := by
  have hs := b.served r
  unfold ending
  generalize b.serve r = o at hs ⊢
  cases hs with
  | mapped | unfit | conflict | missing | documented | unsuited | attached => rfl
  | published fits free =>
    rename_i entry
    dsimp only
    rw [Directory.find?_insert, if_pos rfl]
    cases b.entries.find? entry.key <;> rfl

/-- A request that fails reports its error. -/
theorem reports_of_error {r : Request P} {e : BindError} (h : (b.serve r).result = .error e) :
    (b.serve r).reports = [⟨.error, e.message⟩] := by
  rw [serve_reports, ending, h]
  rfl

/-- One that publishes an entry in place of another warns of that. -/
theorem reports_of_replaced {r : Request P} {key : EntryKey} {old : Entry P}
    (h : (b.serve r).result = .ok (some key)) (taken : b.entries.find? key = some old) :
    b.config.duplicatePolicy = .lastWins ∧ ∃ new, (b.serve r).builder.entries.find? key = some new ∧
      (b.serve r).reports = [⟨.warning, s!"'{new.qualified}' registered twice, replacing the earlier entry"⟩] := by
  have hs := b.served r
  generalize b.serve r = o at h hs ⊢
  cases hs with
  | mapped | unfit | conflict | missing | documented | unsuited | attached => cases h
  | published fits free =>
    rename_i entry
    cases h
    refine ⟨?_, entry, ?_, by rw [taken]; rfl⟩
    · cases policy : b.config.duplicatePolicy with
      | reject => cases taken.symm.trans (free policy)
      | lastWins => rfl
    · rw [Directory.find?_insert, if_pos rfl]

/-- Any other that succeeds reports nothing. -/
theorem reports_of_ok {r : Request P} {made : Option EntryKey} (h : (b.serve r).result = .ok made)
    (free : ∀ key, made = some key → b.entries.find? key = none) : (b.serve r).reports = [] := by
  rw [serve_reports, ending, h]
  cases made with
  | none => rfl
  | some key =>
    simp only [free key rfl]
    rfl

private theorem install_reports (b : Builder P) (bindings : List (Binding P)) :
    (b.install bindings).2.1 = (b.endings (bindings.map .register)).flatMap Ending.own := by
  induction bindings generalizing b with
  | nil => rfl
  | cons binding rest ih =>
    have first := b.serve_reports (.register binding)
    rw [List.map_cons, endings, List.flatMap_cons, ← first, ← ih]
    rfl

private theorem error?_ending (b : Builder P) (r : Request P) {e : BindError} :
    (b.ending r).error? = some e ↔ (b.serve r).result = .error e := by
  unfold ending
  cases (b.serve r).result with
  | error e' => simp [Ending.error?]
  | ok made =>
    cases made with
    | none => simp [Ending.error?]
    | some key =>
      dsimp only
      split <;> simp [Ending.error?]

/-- An operation reports what its requests do, one after the other. -/
theorem reports_eq (b : Builder P) (o : Operation P) : b.reports o = (b.endings o.requests).flatMap Ending.own := by
  cases o with
  | mapKind t k => rfl
  | install bindings => exact b.install_reports bindings
  | register | declareScript | attachDefaults =>
    rw [Operation.requests, endings, endings, List.flatMap_singleton, ← serve_reports]
    rfl

/-- An installation fails for exactly the bindings whose registrations fail. -/
theorem install_failed (b : Builder P) (bindings : List (Binding P)) :
    (b.install bindings).1.failed.map Prod.snd = (b.endings (bindings.map .register)).filterMap Ending.error? := by
  induction bindings generalizing b with
  | nil => rfl
  | cons binding rest ih =>
    have hrest := ih (b.register binding).builder
    rw [List.map_cons, endings]
    cases hr : (b.register binding).result with
    | ok key =>
      have first : (b.ending (.register binding)).error? = none := by
        refine Option.eq_none_iff_forall_ne_some.mpr fun e he => ?_
        have failed := Outcome.map_error.mp ((b.error?_ending _).mp he)
        rw [hr] at failed
        cases failed
      rw [List.filterMap_cons_none first, install, hr]
      exact hrest
    | error e =>
      have first := (b.error?_ending (.register binding)).mpr (Outcome.map_error.mpr hr)
      rw [List.filterMap_cons_some first, install, hr]
      exact congrArg (e :: ·) hrest

end Builder

inductive JournalEvent where
  | report (d : Diagnostic)
  | shown
  | taken
deriving DecidableEq

def JournalEvent.diagnostic? : JournalEvent → Option Diagnostic
  | .report d => some d
  | .shown | .taken => none

namespace Journal

def reporting {α : Type} (j : Journal) : Except BindError α → Journal
  | .error e => j.report ⟨.error, e.message⟩
  | .ok _ => j

def apply (j : Journal) : JournalEvent → Journal
  | .report d => j.report d
  | .shown => { j with unseen := [] }
  | .taken => { j with kept := [] }

def after (j : Journal) (events : List JournalEvent) : Journal := events.foldl apply j

theorem after_append (j : Journal) (events more : List JournalEvent) :
    j.after (events ++ more) = (j.after events).after more := List.foldl_append

/-- While the host takes nothing, the journal keeps all that is reported. -/
theorem kept_after (j : Journal) {events : List JournalEvent} (h : .taken ∉ events) :
    (j.after events).kept = j.kept ++ events.filterMap JournalEvent.diagnostic? := by
  induction events generalizing j with
  | nil => exact (List.append_nil _).symm
  | cons e events ih =>
    rw [List.mem_cons, not_or] at h
    have hrest := ih (j.apply e) h.2
    cases e with
    | report d => exact hrest.trans (List.append_assoc _ [d] _)
    | shown => exact hrest
    | taken => exact absurd rfl h.1

end Journal

inductive Occurrence where
  | operation (nested : List Occurrence) (ending : Ending)
  | host (e : JournalEvent)

mutual

/-- An operation reports its own diagnostics after all that happens within it. -/
def Occurrence.events : Occurrence → List JournalEvent
  | .operation nested ending => Occurrence.eventsOf nested ++ ending.own.map .report
  | .host e => [e]

def Occurrence.eventsOf : List Occurrence → List JournalEvent
  | [] => []
  | o :: rest => o.events ++ Occurrence.eventsOf rest

end

private theorem Occurrence.eventsOf_append (os more : List Occurrence) :
    eventsOf (os ++ more) = eventsOf os ++ eventsOf more := by
  induction os with
  | nil => rfl
  | cons o rest ih =>
    rw [List.cons_append, eventsOf, eventsOf, ih, List.append_assoc]

/-- Operations in which nothing happens report their own diagnostics in order. -/
theorem Occurrence.eventsOf_operations (endings : List Ending) :
    eventsOf (endings.map (.operation [])) = (endings.flatMap Ending.own).map .report := by
  induction endings with
  | nil => rfl
  | cons ending rest ih =>
    rw [List.map_cons, eventsOf, ih, List.flatMap_cons, List.map_append]
    rfl

/-- Between two states the journal is changed by what happened and by nothing else. -/
def Told (w : World P H) (os : List Occurrence) (w' : World P H) : Prop :=
  w'.journal = w.journal.after (Occurrence.eventsOf os)

abbrev Account (P H : Type) := P → Frame → World P H → List Occurrence

def Runner.Accounted (run : Runner P H) (account : Account P H) : Prop := ∀ p f w, Told w (account p f w) (run p f w).2

namespace World

def dispatchAccount (account : Account P H) (adapter : Adapter P) (context : EntryKey)
    (receiver : Option (ObjectId × HostObject)) (w : World P H) : List Occurrence :=
  match adapter with
  | .program p => account p ⟨context, receiver.isSome⟩ w
  | .function _ | .method .. => []

def lockingAccount (w : World P H) (entry : Entry P) (account : World P H → List Occurrence) : List Occurrence :=
  if entry.key ∈ w.held then [] else account (w.hold entry.key)

def borrowingAccount (w : World P H) (id : ObjectId) (account : HostObject → World P H → List Occurrence) :
    List Occurrence :=
  match w.objects.available? id with
  | none => []
  | some object => account object (w.borrow id)

def executeNativeAccount (account : Account P H) (object : ObjectId) (key context : EntryKey) (w : World P H) :
    List Occurrence :=
  match (w.registry.find? key).bind (·.adapter?) with
  | none => []
  | some adapter =>
    if object.isNone ∨ key.scope = globalScope then w.dispatchAccount account adapter context none
    else w.borrowingAccount object fun receiver w => w.dispatchAccount account adapter context (some (object, receiver))

def executeAccount (account : Account P H) (object : ObjectId) (key context : EntryKey) (w : World P H) :
    List Occurrence :=
  match (w.registry.find? key).map Entry.behaviour with
  | some (.script (some body)) => account body ⟨context, !object.isNone⟩ w
  | _ => w.executeNativeAccount account object key context

def invokeAccount (run : Runner P H) (account : Account P H) (entry : Entry P)
    (receiver : Option (ObjectId × HostObject)) (arguments : List SlotValue) (w : World P H) : Occurrence :=
  .operation
    (match entry.adapter? with
      | none => []
      | some adapter =>
        if arguments.length ≠ entry.arity then []
        else match checkKinds 1 arguments entry.signature.params with
          | .error _ => []
          | .ok () => w.lockingAccount entry fun w =>
            match w.fill entry.key arguments with
            | (.error _, _) => []
            | (.ok (), w) => w.dispatchAccount account adapter entry.key receiver)
    (.of (w.invoke run entry receiver arguments).1)

end World

def Caller.callAccount (c : Caller P H) (inner : ObjectId → EntryKey → EntryKey → World P H → List Occurrence)
    (target : CallTarget) (arguments : List Argument) (result : HostType) (w : World P H) : Occurrence :=
  .operation
    (match c.prepare w target arguments result with
      | .error _ => []
      | .ok p => w.lockingAccount p.entry fun w =>
        match w.fill p.entry.key p.arguments with
        | (.error _, _) => []
        | (.ok (), w) => inner p.object p.entry.key p.entry.key w)
    (.of (c.call target arguments result w).1)

namespace World

private theorem adopt_journal (w : World P H) (context : EntryKey) (result : Except BindError SlotTable) :
    (w.adopt context result).2.journal = w.journal := by
  cases result <;> rfl

private theorem putReceiver_journal (w : World P H) (receiver : Option (ObjectId × HostObject))
    (object : Option HostObject) : (w.putReceiver receiver object).journal = w.journal := by
  unfold putReceiver
  split <;> rfl

private theorem fill_journal (w : World P H) (key : EntryKey) (values : List SlotValue) :
    (w.fill key values).2.journal = w.journal := by
  rw [fill_snd]
  cases w.table? key <;> rfl

private theorem lockingAccount_nothing {w : World P H} {entry : Entry P} {account : World P H → List Occurrence}
    (h : ∀ w, account w = []) : w.lockingAccount entry account = [] := by
  unfold lockingAccount
  split
  · rfl
  · exact h _

/-- An adapter of a typed function or method reports nothing, whether it succeeds or fails. -/
theorem dispatch_journal (w : World P H) (run : Runner P H) {adapter : Adapter P}
    (typed : ∀ p, adapter ≠ .program p) (context : EntryKey) (receiver : Option (ObjectId × HostObject)) :
    (w.dispatch run adapter context receiver).2.journal = w.journal := by
  unfold dispatch
  cases adapter with
  | program p => exact absurd rfl (typed p)
  | function f =>
    cases w.table? context with
    | none => rfl
    | some table => exact w.adopt_journal context _
  | method m name className =>
    cases w.table? context with
    | none => rfl
    | some table => exact (adopt_journal _ context _).trans (w.putReceiver_journal receiver _)

end World

namespace Told
variable {w w' w'' : World P H} {os os' : List Occurrence} {run : Runner P H} {account : Account P H}

theorem quiet (h : w'.journal = w.journal) : Told w [] w' := h

theorem trans (h : Told w os w') (j : Told w' os' w'') : Told w (os ++ os') w'' := by
  rw [Told, Occurrence.eventsOf_append, Journal.after_append, ← h]
  exact j

theorem host (e : JournalEvent) (h : w'.journal = w.journal.apply e) : Told w [.host e] w' := h

/-- The report of a failure ends an operation. -/
theorem reporting {α : Type} {o : Except BindError α × World P H} (h : Told w os o.2) :
    Told w [.operation os (.of o.1)] (World.reporting o).2 := by
  obtain ⟨r, w'⟩ := o
  simp only [Told, Occurrence.eventsOf, Occurrence.events, List.append_nil, Journal.after_append] at h ⊢
  rw [← h]
  cases r <;> rfl

theorem dispatch (h : run.Accounted account) (adapter : Adapter P) (context : EntryKey)
    (receiver : Option (ObjectId × HostObject)) (w : World P H) :
    Told w (w.dispatchAccount account adapter context receiver) (w.dispatch run adapter context receiver).2 := by
  cases adapter with
  | program p => exact h p _ w
  | function | method => exact quiet (w.dispatch_journal run (by simp) context receiver)

theorem locking {α : Type} {entry : Entry P} {body : World P H → Except BindError α × World P H}
    {inside : World P H → List Occurrence}
    (h : ∀ w, Told w (inside w) (body w).2) : Told w (w.lockingAccount entry inside) (w.locking entry body).2 := by
  unfold World.lockingAccount
  split
  · rename_i held
    rw [World.locking_held _ held]
    exact quiet rfl
  · rename_i free
    rw [World.locking_free _ free]
    exact h (w.hold entry.key)

theorem borrowing {α : Type} {id : ObjectId} {body : HostObject → World P H → α × World P H}
    {inside : HostObject → World P H → List Occurrence} (h : ∀ object w, Told w (inside object w) (body object w).2) :
    Told w (w.borrowingAccount id inside) (w.borrowing id body).2 := by
  unfold World.borrowingAccount
  cases available : w.objects.available? id with
  | none =>
    rw [World.borrowing_none _ available]
    exact quiet rfl
  | some object =>
    rw [World.borrowing_some _ available]
    exact h object (w.borrow id)

theorem executeNative (h : run.Accounted account) (object : ObjectId) (key context : EntryKey) (w : World P H) :
    Told w (w.executeNativeAccount account object key context) (w.executeNative run object key context).2 := by
  unfold World.executeNativeAccount World.executeNative
  cases (w.registry.find? key).bind (·.adapter?) with
  | none => exact quiet rfl
  | some adapter =>
    dsimp only
    split
    · exact dispatch h adapter context none w
    · exact borrowing fun receiver w => dispatch h adapter context (some (object, receiver)) w

theorem execute (h : run.Accounted account) (object : ObjectId) (key context : EntryKey) (w : World P H) :
    Told w (w.executeAccount account object key context) (w.execute run object key context).2 := by
  unfold World.executeAccount World.execute
  cases (w.registry.find? key).map Entry.behaviour with
  | none => exact executeNative h object key context w
  | some behaviour =>
    rcases behaviour with adapter | (_ | body)
    · exact executeNative h object key context w
    · exact executeNative h object key context w
    · exact h body _ w

/-- What is done with a filled table is all that happens in a call or direct call. -/
private theorem filled {α : Type} {entry : Entry P} {values : List SlotValue}
    {body : World P H → Except BindError α × World P H} {inside : World P H → List Occurrence}
    (h : ∀ w, Told w (inside w) (body w).2) (w : World P H) :
    Told w (match w.fill entry.key values with
        | (.error _, _) => []
        | (.ok (), w) => inside w)
      (match w.fill entry.key values with
        | (.error e, w) => (.error e, w)
        | (.ok (), w) => body w : Except BindError α × World P H).2 := by
  have written := w.fill_journal entry.key values
  generalize w.fill entry.key values = o at written ⊢
  obtain ⟨_ | _, w'⟩ := o
  · exact quiet written
  · exact (quiet written).trans (h w')

/-- A call is one operation, with what its executor does within it. -/
theorem call {c : Caller P H} {inner : ObjectId → EntryKey → EntryKey → World P H → List Occurrence}
    (h : ∀ object key context w, Told w (inner object key context w) (c.executor object key context w).2)
    (target : CallTarget) (arguments : List Argument) (result : HostType) (w : World P H) :
    Told w [c.callAccount inner target arguments result w] (c.call target arguments result w).2 := by
  unfold Caller.callAccount Caller.call
  rw [Caller.reporting_fst]
  refine reporting ?_
  unfold Caller.attempt Caller.complete
  cases c.prepare w target arguments result with
  | error e => exact quiet rfl
  | ok p =>
    have performed : Told w (w.lockingAccount p.entry fun w =>
        match w.fill p.entry.key p.arguments with
        | (.error _, _) => []
        | (.ok (), w) => inner p.object p.entry.key p.entry.key w) (c.perform p w).2 := by
      refine locking fun w => filled (fun w => ?_) w
      have ran := h p.object p.entry.key p.entry.key w
      generalize c.executor p.object p.entry.key p.entry.key w = o at ran ⊢
      obtain ⟨_ | _, w'⟩ := o <;> exact ran
    dsimp only
    generalize c.perform p w = o at performed ⊢
    obtain ⟨_ | _, w'⟩ := o <;> exact performed

/-- An operation in which nothing happens leaves its own report. -/
private theorem own_journal {α : Type} {r : Except BindError α} (h : Told w [.operation [] (.of r)] w') :
    w'.journal = w.journal.reporting r := by
  rw [h]
  cases r <;> rfl

/-- If the executor reports nothing, then a call that fails reports its own error only, and any other nothing. -/
theorem call_journal {c : Caller P H}
    (h : ∀ object key context w, (c.executor object key context w).2.journal = w.journal) (target : CallTarget)
    (arguments : List Argument) (result : HostType) (w : World P H) :
    (c.call target arguments result w).2.journal = w.journal.reporting (c.call target arguments result w).1 := by
  have told : Told w [c.callAccount (fun _ _ _ _ => []) target arguments result w] (c.call target arguments result w).2 :=
    call h target arguments result w
  have nothing : c.callAccount (fun _ _ _ _ => []) target arguments result w =
      .operation [] (.of (c.call target arguments result w).1) := by
    refine congrArg (Occurrence.operation · _) ?_
    split
    · rfl
    · refine World.lockingAccount_nothing fun w => ?_
      split <;> rfl
  rw [nothing] at told
  exact own_journal told

/-- So is a direct call, with what its adapter does. -/
theorem invoke (h : run.Accounted account) (entry : Entry P) (receiver : Option (ObjectId × HostObject))
    (arguments : List SlotValue) (w : World P H) :
    Told w [w.invokeAccount run account entry receiver arguments] (w.invoke run entry receiver arguments).2 := by
  unfold World.invokeAccount World.invoke
  rw [Caller.reporting_fst]
  refine reporting ?_
  unfold World.attemptInvoke
  cases entry.adapter? with
  | none => exact quiet rfl
  | some adapter =>
    dsimp only
    split
    · exact quiet rfl
    · cases World.checkKinds 1 arguments entry.signature.params with
      | error e => exact quiet rfl
      | ok u =>
        refine locking fun w => filled (fun w => ?_) w
        have ran := dispatch h adapter entry.key receiver w
        generalize w.dispatch run adapter entry.key receiver = o at ran ⊢
        obtain ⟨_ | _, w'⟩ := o <;> exact ran

/-- If the code that is run reports nothing, then a direct call that fails reports its own error only. -/
theorem invoke_journal (h : ∀ p f w, (run p f w).2.journal = w.journal) (entry : Entry P)
    (receiver : Option (ObjectId × HostObject)) (arguments : List SlotValue) (w : World P H) :
    (w.invoke run entry receiver arguments).2.journal =
      w.journal.reporting (w.invoke run entry receiver arguments).1 := by
  have silent : run.Accounted fun _ _ _ => [] := h
  have told := invoke silent entry receiver arguments w
  have nothing : w.invokeAccount run (fun _ _ _ => []) entry receiver arguments =
      .operation [] (.of (w.invoke run entry receiver arguments).1) := by
    refine congrArg (Occurrence.operation · _) ?_
    split
    · rfl
    · rename_i adapter native
      split
      · rfl
      · split
        · rfl
        · refine World.lockingAccount_nothing fun w => ?_
          split
          · rfl
          · cases adapter <;> rfl
  rw [nothing] at told
  exact own_journal told

end Told
end ScriptBridge
