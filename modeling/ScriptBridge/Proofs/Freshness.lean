import ScriptBridge.HostLibrary
import ScriptBridge.Proofs.Histories
import ScriptBridge.Proofs.ProgramRoutines

/-! Where the result of a call comes from: it is the value that the code of the call stored last in the result slot, or
the value that stood there before if it stored none. Slot tables are used again, and nothing empties them between
calls. -/
namespace ScriptBridge
variable {P H : Type}

def PreparedCall.record (p : PreparedCall P) (code : (object : ObjectId) → (key context : EntryKey) → Routine P H)
    (w : World P H) : Recorded P H :=
  (code p.object p.entry.key p.entry.key).exec p.entry.key (w.enter p.entry.key p.arguments)

def Entry.record (e : Entry P) (body : P → Frame → Routine P H) (adapter : Adapter P)
    (receiver : Option (ObjectId × HostObject)) (arguments : List SlotValue) (w : World P H) : Recorded P H :=
  (adapter.routine body e.key receiver).exec e.key (w.enter e.key arguments)

/-- A call that has run on a free table hands back, as converted, the value that its code stored last during the call,
or the value from before the call if the code stored none. -/
structure Caller.HandsBack (code : (object : ObjectId) → (key context : EntryKey) → Routine P H)
    (objects : ObjectRegistry H) (w : World P H) (target : CallTarget) (arguments : List Argument) (result : HostType)
    (r : result.Carrier) (p : PreparedCall P) : Prop where
  ready : Caller.Ready ⟨Routine.executor code, objects⟩ w target arguments result p
  free : p.entry.key ∉ w.held
  ran : (p.record code w).result = .ok ()
  converted : Caller.convertResult ⟨Routine.executor code, objects⟩ ((p.record code w).after.release p.entry.key)
    p.entry.qualified p.resultKind result ((p.record code w).stored.getLast?.getD (w.resultValue p.entry.key)) = .ok r

/-- So does a direct call, without a conversion. -/
structure World.HandsBack (body : P → Frame → Routine P H) (w : World P H) (e : Entry P)
    (receiver : Option (ObjectId × HostObject)) (arguments : List SlotValue) (v : SlotValue)
    (adapter : Adapter P) : Prop where
  accepted : e.Accepts adapter arguments
  free : e.key ∉ w.held
  ran : (e.record body adapter receiver arguments w).result = .ok ()
  value : v = (e.record body adapter receiver arguments w).stored.getLast?.getD (w.resultValue e.key)

section HandsBack
variable {w : World P H} {fit : H → Prop}

private theorem World.enter_resultValue (w : World P H) (key : EntryKey) (values : List SlotValue) :
    (w.enter key values).resultValue key = w.resultValue key := by
  simp only [resultValue, enter_table?, if_true, Option.map_map]
  cases w.table? key with
  | none => rfl
  | some t => exact congrArg Slot.value (t.result_fill 0 values)

/-- A call that succeeds has run, and what was then in the result slot converts. -/
theorem Caller.Ready.call_ok {c : Caller P H} {target : CallTarget} {arguments : List Argument} {result : HostType}
    {r : result.Carrier} {p : PreparedCall P} (ready : c.Ready w target arguments result p)
    (hw : Coherent w.registry.entries) (free : p.entry.key ∉ w.held)
    (hr : (c.call target arguments result w).1 = .ok r) :
    (c.run p w).1 = true ∧ c.convertResult ((c.run p w).2.release p.entry.key) p.entry.qualified p.resultKind result
      ((c.run p w).2.resultValue p.entry.key) = .ok r := by
  rw [ready.call hw free, reporting_fst] at hr
  generalize c.run p w = o at hr ⊢
  obtain ⟨_ | _, after⟩ := o
  · cases hr
  · exact ⟨rfl, hr⟩

private theorem World.invoke_ok {run : Runner P H} {e : Entry P} {receiver : Option (ObjectId × HostObject)}
    {arguments : List SlotValue} {v : SlotValue} (hw : Coherent w.registry.entries)
    (found : w.registry.find? e.key = some e) (hv : (w.invoke run e receiver arguments).1 = .ok v) :
    ∃ adapter, e.Accepts adapter arguments ∧ e.key ∉ w.held ∧
      ((w.enter e.key arguments).dispatch run adapter e.key receiver).1 = .ok () ∧
      v = ((w.enter e.key arguments).dispatch run adapter e.key receiver).2.resultValue e.key := by
  rw [invoke, Caller.reporting_fst] at hv
  rcases attemptInvoke_cases run receiver arguments found (hw e.key e found).2 with
    ⟨err, refused⟩ | ⟨adapter, accepted, free, ran⟩
  · rw [refused] at hv
    cases hv
  · rw [ran] at hv
    refine ⟨adapter, accepted, free, ?_⟩
    generalize (w.enter e.key arguments).dispatch run adapter e.key receiver = o at hv ⊢
    obtain ⟨_ | _, after⟩ := o <;> cases hv
    exact ⟨rfl, rfl⟩

variable {code : (object : ObjectId) → (key context : EntryKey) → Routine P H} {body : P → Frame → Routine P H}
  {objects : ObjectRegistry H} {target : CallTarget} {arguments : List Argument} {result : HostType}
  {r : result.Carrier}

private theorem Caller.handsBack_of_ok (hw : w.Sound fit)
    (hc : ∀ object key context, (code object key context).Disciplined fit)
    (hr : (Caller.call ⟨Routine.executor code, objects⟩ target arguments result w).1 = .ok r) :
    ∃ p, HandsBack code objects w target arguments result r p := by
  rcases Caller.rejects_or_ready _ w target arguments result with ⟨err, rejected⟩ | ⟨p, ready, free⟩
  · rw [rejected.call] at hr
    cases hr
  · obtain ⟨ran, converted⟩ := ready.call_ok hw.coherent free hr
    have record : (p.record code w).after.resultValue p.entry.key = _ :=
      (hc _ _ _).record (World.enter_sound hw p.entry.key p.arguments) (w.mem_held_enter _ _)
    rw [World.enter_resultValue] at record
    refine ⟨p, ready, free, toBool_eq_true.mp ran, ?_⟩
    exact record ▸ converted

/-- So do the calls of a session. -/
theorem Session.call_handsBack {w : State} (hw : w.Sound HostState.Sealed)
    (hr : ((Caller.ofRunner runProgram).call target arguments result w).1 = .ok r) :
    ∃ p, Caller.HandsBack (Routine.scriptOrNative programRoutine) .ofTable w target arguments result r p := by
  rw [Caller.ofRunner, runProgram_eq_runner, World.execute_eq_executor] at hr
  exact Caller.handsBack_of_ok hw (Routine.scriptOrNative_disciplined programRoutine_disciplined) hr

private theorem World.handsBack_of_ok {e : Entry P} {receiver : Option (ObjectId × HostObject)}
    {values : List SlotValue} {v : SlotValue} (hw : w.Sound fit) (hb : ∀ p f, (body p f).Disciplined fit)
    (found : w.registry.find? e.key = some e) (hv : (w.invoke (Routine.runner body) e receiver values).1 = .ok v) :
    ∃ adapter, w.HandsBack body e receiver values v adapter := by
  obtain ⟨adapter, accepted, free, ran, rfl⟩ := invoke_ok hw.coherent found hv
  rw [dispatch_eq_exec] at ran ⊢
  refine ⟨adapter, accepted, free, ran, ?_⟩
  have record := (adapter.routine_disciplined hb e.key receiver).record (enter_sound hw e.key values)
    (w.mem_held_enter _ _)
  rwa [enter_resultValue] at record

end HandsBack

structure ResultProvenance (w : World P H) : Prop where
  /-- A call that succeeds hands back the value stored last in its result slot during the very call. Only if none was
  stored, it is the value from before. -/
  call_result : ∀ (fit : H → Prop) code objects, fit w.host →
    (∀ object key context, (code object key context : Routine P H).Disciplined fit) →
    ∀ target arguments result r, (Caller.call ⟨Routine.executor code, objects⟩ target arguments result w).1 = .ok r →
      ∃ p, Caller.HandsBack code objects w target arguments result r p
  /-- The executors of script bodies and of native code run such code wherever their programs are such code. -/
  executors : ∀ body : P → Frame → Routine P H,
    World.execute (Routine.runner body) = Routine.executor (Routine.scriptOrNative body) ∧
      World.executeNative (Routine.runner body) = Routine.executor (Routine.native body) ∧
      ∀ fit : H → Prop, (∀ p f, (body p f).Disciplined fit) → ∀ object key context,
        (Routine.scriptOrNative body object key context).Disciplined fit ∧
          (Routine.native body object key context).Disciplined fit
  invoke_result : ∀ (fit : H → Prop) body, fit w.host → (∀ p f, (body p f : Routine P H).Disciplined fit) →
    ∀ key e receiver arguments v, w.registry.find? key = some e →
      (w.invoke (Routine.runner body) e receiver arguments).1 = .ok v →
      ∃ adapter, w.HandsBack body e receiver arguments v adapter
  /-- Typed code has stored one value. -/
  call_typed : ∀ diagnostics (fit : H → Prop) body objects, fit w.host →
    ∀ target arguments result e object adapter,
      Caller.resolve ⟨World.executeNative (Routine.runner body), objects⟩ w target = .ok (e, object) →
      e.adapter? = some adapter → adapter.Typed body diagnostics fit e.key →
      ∀ r, (Caller.call ⟨World.executeNative (Routine.runner body), objects⟩ target arguments result w).1 = .ok r →
        ∃ p v, Caller.HandsBack (Routine.native body) objects w target arguments result r p ∧
          (p.record (Routine.native body) w).stored = [v]
  invoke_typed : ∀ diagnostics (fit : H → Prop) body, fit w.host → ∀ key e adapter receiver arguments,
    w.registry.find? key = some e → e.adapter? = some adapter → adapter.Typed body diagnostics fit key →
    ∀ v, (w.invoke (Routine.runner body) e receiver arguments).1 = .ok v →
      w.HandsBack body e receiver arguments v adapter ∧ (e.record body adapter receiver arguments w).stored = [v]

/-- What two histories of a host mean to the next call of an entry if they leave the same objects, tables in use, slots
of all other entries, and whatever else the host and its code keep. -/
structure SameOutcomes (w w' : World P H) : Prop where
  /-- Whatever runs, the next call has the same outcome if they also leave the same diagnostics and the same value in
  the result slot. Values in parameter slots do not matter. -/
  call_same : ∀ (c : Caller P H) target arguments result e object, c.resolve w target = .ok (e, object) →
    w.Agree True e.key w' → w'.resultValue e.key = w.resultValue e.key →
      (c.call target arguments result w').1 = (c.call target arguments result w).1
  invoke_same : ∀ (run : Runner P H) key e e' receiver arguments, w.registry.find? key = some e →
    w'.registry.find? key = some e' → w.Agree True key w' → w'.resultValue key = w.resultValue key →
      (w'.invoke run e' receiver arguments).1 = (w.invoke run e receiver arguments).1
  /-- Of typed code the value in the result slot does not matter, nor do diagnostics that the code does not look at. -/
  call_typed : ∀ diagnostics (fit : H → Prop) body objects, fit w.host →
    ∀ target arguments result e object adapter,
      Caller.resolve ⟨World.executeNative (Routine.runner body), objects⟩ w target = .ok (e, object) →
      e.adapter? = some adapter → adapter.Typed body diagnostics fit e.key → w.Agree diagnostics e.key w' →
        (Caller.call ⟨World.executeNative (Routine.runner body), objects⟩ target arguments result w').1 =
          (Caller.call ⟨World.executeNative (Routine.runner body), objects⟩ target arguments result w).1
  invoke_typed : ∀ diagnostics (fit : H → Prop) body, fit w.host → ∀ key e e' adapter receiver arguments,
    w.registry.find? key = some e → w'.registry.find? key = some e' → e.adapter? = some adapter →
    adapter.Typed body diagnostics fit key → w.Agree diagnostics key w' →
      (w'.invoke (Routine.runner body) e' receiver arguments).1 =
        (w.invoke (Routine.runner body) e receiver arguments).1

/-- Earlier calls of a function, however many and with whatever arguments, make no difference to its next call. -/
structure FunctionsForget (w : World P H) : Prop where
  call : ∀ (fit : H → Prop) body objects, fit w.host → (∀ p f, (body p f : Routine P H).Disciplined fit) →
    ∀ target arguments result e object f w',
      Caller.resolve ⟨World.executeNative (Routine.runner body), objects⟩ w target = .ok (e, object) →
      e.adapter? = some (.function f) → w.Called (Routine.runner body) objects e.key w' →
        (Caller.call ⟨World.executeNative (Routine.runner body), objects⟩ target arguments result w').1 =
          (Caller.call ⟨World.executeNative (Routine.runner body), objects⟩ target arguments result w).1
  invoke : ∀ (fit : H → Prop) body objects, fit w.host → (∀ p f, (body p f : Routine P H).Disciplined fit) →
    ∀ key e e' receiver arguments f w', w.registry.find? key = some e → w'.registry.find? key = some e' →
      e.adapter? = some (.function f) → w.Called (Routine.runner body) objects key w' →
        (w'.invoke (Routine.runner body) e' receiver arguments).1 =
          (w.invoke (Routine.runner body) e receiver arguments).1

section Provenance
variable {config : BindConfig} {history : List (Builder.Operation P)} {s s' : List Activation} {w w' : World P H}

private theorem Reachable.provenance (hw : Reachable ((Builder.new config).after history).build s w) :
    ResultProvenance w := by
  have coherent := hw.coherent
  constructor
  · intro fit code objects hf hc target arguments result r hr
    exact Caller.handsBack_of_ok ⟨coherent, hf⟩ hc hr
  · intro body
    refine ⟨World.execute_eq_executor, World.executeNative_eq_executor, fun fit hb object key context => ?_⟩
    exact ⟨Routine.scriptOrNative_disciplined hb object key context, Routine.native_disciplined hb object key context⟩
  · intro fit body hf hb key e receiver arguments v found hv
    obtain ⟨rfl, -⟩ := coherent key e found
    exact World.handsBack_of_ok ⟨coherent, hf⟩ hb found hv
  · intro diagnostics fit body objects hf target arguments result e object adapter resolved native typed r hr
    rw [World.executeNative_eq_executor] at resolved hr
    rcases Caller.rejects_or_ready _ w target arguments result with ⟨err, rejected⟩ | ⟨p, ready, free⟩
    · rw [rejected.call] at hr
      cases hr
    · obtain ⟨ran, converted⟩ := ready.call_ok coherent free hr
      obtain ⟨rfl, rfl⟩ := Prod.mk.inj (Except.ok.inj (ready.resolved.symm.trans resolved))
      have found := World.find?_enter (ready.found coherent).1 (ready.kinds coherent)
      have ran : (p.record (Routine.native body) w).result = .ok () := toBool_eq_true.mp ran
      obtain ⟨v, stored, value⟩ := Routine.native_stored typed (World.adapter_of_found found native)
        (World.enter_sound ⟨coherent, hf⟩ p.entry.key p.arguments) (w.mem_held_enter _ _) ran
      refine ⟨p, v, ⟨ready, free, ran, ?_⟩, stored⟩
      rw [PreparedCall.record, stored]
      rw [Caller.run] at converted
      exact value ▸ converted
  · intro diagnostics fit body hf key e adapter receiver arguments found native typed v hv
    obtain ⟨rfl, -⟩ := coherent key e found
    obtain ⟨adapter', accepted, free, ran, value⟩ := World.invoke_ok coherent found hv
    obtain rfl : adapter = adapter' := Option.some.inj (native.symm.trans accepted.native)
    rw [World.dispatch_eq_exec] at ran value
    obtain ⟨v', stored, value'⟩ := (typed.isTyped receiver).stored (World.enter_sound ⟨coherent, hf⟩ e.key arguments)
      (w.mem_held_enter _ _) ran
    obtain rfl : v = v' := value.trans value'
    refine ⟨⟨accepted, free, ran, ?_⟩, stored⟩
    rw [Entry.record, stored]
    rfl

private theorem Reachable.sameOutcomes (hw : Reachable ((Builder.new config).after history).build s w)
    (hw' : Reachable ((Builder.new config).after history).build s' w') : SameOutcomes w w' := by
  have coherent := hw.coherent
  constructor
  · intro c target arguments result e object resolved agree value
    exact Caller.call_same hw hw' resolved agree value arguments result
  · intro run key e e' receiver arguments found found' agree value
    obtain ⟨rfl, -⟩ := coherent key e found
    exact World.invoke_same hw hw' found found' agree value run receiver arguments
  · intro diagnostics fit body objects hf target arguments result e object adapter resolved native typed agree
    rw [World.executeNative_eq_executor] at resolved ⊢
    exact Caller.call_same_of_typed hw hw' hf resolved native typed agree arguments result
  · intro diagnostics fit body hf key e e' adapter receiver arguments found found' native typed agree
    obtain ⟨rfl, -⟩ := coherent key e found
    exact World.invoke_same_of_typed hw hw' hf found found' native typed agree receiver arguments

private theorem Reachable.functionsForget (hw : Reachable ((Builder.new config).after history).build s w) :
    FunctionsForget w := by
  constructor
  · intro fit body objects hf hb target arguments result e object f w' resolved native called
    rw [World.executeNative_eq_executor] at resolved ⊢
    exact Caller.call_same_of_called hw hf hb resolved native called arguments result
  · intro fit body objects hf hb key e e' receiver arguments f w' found found' native called
    obtain ⟨rfl, -⟩ := hw.coherent key e found
    exact World.invoke_same_of_called hw hf hb found native called found' receiver arguments

end Provenance

/-- In every reachable state a result comes from the call that hands it back, unless its code has stored none. Two
histories that leave the same state but for the slots of an entry give its next call the same outcome if they leave the
same value in its result slot, and in any case if its code is typed. -/
theorem results_have_provenance {config : BindConfig} {history : List (Builder.Operation P)} {s : List Activation}
    {w : World P H} (hw : Reachable ((Builder.new config).after history).build s w) :
    ResultProvenance w ∧ FunctionsForget w ∧
      ∀ s' w', Reachable ((Builder.new config).after history).build s' w' → SameOutcomes w w' :=
  ⟨hw.provenance, hw.functionsForget, fun _ _ hw' => hw.sameOutcomes hw'⟩

section Instance

/-- What the checks come to tells which values were stored. -/
private theorem Caller.HandsBack.stored_eq {code : (object : ObjectId) → (key context : EntryKey) → Routine P H}
    {objects : ObjectRegistry H} {w : World P H} {target : CallTarget} {arguments : List Argument} {result : HostType}
    {r : result.Carrier} {p : PreparedCall P} {stored : List SlotValue}
    (back : HandsBack code objects w target arguments result r p)
    (h : ((Caller.prepare ⟨Routine.executor code, objects⟩ w target arguments result).toOption.map fun p =>
      (p.record code w).stored) = some stored) : (p.record code w).stored = stored := by
  rw [back.ready.prepare] at h
  exact Option.some.inj h

private abbrev noPrograms : Empty → Frame → Routine Empty Unit := fun p => p.elim

private abbrev totalRequests : List (Builder.Operation Empty) := [.register (.function "Total" (HostLibrary.sum 2))]

private def totalling : World Empty Unit := .fresh ((Builder.new .standard).after totalRequests).build ()

private abbrev totaller : Caller Empty Unit := ⟨World.executeNative (Routine.runner noPrograms), .ofTable⟩

private abbrev total (a b : Int32) (w : World Empty Unit) : Except BindError Int32 × World Empty Unit :=
  totaller.call (.ofName "Total") [.value (.int a), .value (.int b)] .int w

private def totalEntry : Entry Empty := .make "" "Total" (.native (.function (HostLibrary.sum 2)))
  ⟨⟨"__return", .int, some .int, .void⟩, [⟨"_p1", .int, some .int, .void⟩, ⟨"_p2", .int, some .int, .void⟩]⟩

private def twiceRequests : List (Builder.Operation Session.Program) :=
  [.register ⟨"", "Twice", .int, [], .program [.set 0 (.int 5), .set 0 (.int 3)], none⟩]

private def twiceHost : Session.State :=
  .fresh ((Builder.new .standard).after twiceRequests).build ⟨.memory, none, [], none, []⟩

/-- A sum is stored during its call, and earlier calls that leave another one make no difference. Of two values that a
program stores the last one is handed back. -/
theorem results_have_provenance_total :
    (∃ p v, Caller.HandsBack (Routine.native noPrograms) .ofTable totalling (.ofName "Total")
        [.value (.int 1), .value (.int 2)] .int (3 : Int32) p ∧
          (p.record (Routine.native noPrograms) totalling).stored = [v]) ∧
      ((total 20 21 totalling).2.resultValue totalEntry.key = .int 41 ∧
        (total 1 2 (total 20 21 totalling).2).1 = .ok 3) ∧
      ∃ p, Caller.HandsBack (Routine.scriptOrNative Session.programRoutine) .ofTable twiceHost (.ofName "Twice") [] .int
        (3 : Int32) p ∧
          (p.record (Routine.scriptOrNative Session.programRoutine) twiceHost).stored = [.int 5, .int 3] := by
  have hw : Reachable ((Builder.new .standard).after totalRequests).build [] totalling := .fresh _ ()
  obtain ⟨provenance, forget, same⟩ := results_have_provenance hw
  have summed : (total 1 2 totalling).1 = .ok 3 := by decide +kernel
  refine ⟨provenance.call_typed False (fun _ => True) noPrograms .ofTable trivial _ _ _ totalEntry .none
    (.function (HostLibrary.sum 2)) rfl rfl trivial _ summed, ⟨by decide +kernel, ?_⟩, ?_⟩
  · have resolved : totaller.resolve totalling (.ofName "Total") = .ok (totalEntry, .none) := rfl
    have earlier : totalling.Called (Routine.runner noPrograms) .ofTable totalEntry.key (total 20 21 totalling).2 :=
      .call .start _ _ _ resolved rfl
    refine Eq.trans ?_ summed
    exact forget.call (fun _ => True) noPrograms .ofTable trivial (fun p => p.elim) _ _ _ totalEntry .none
      (HostLibrary.sum 2) _ rfl rfl earlier
  · have hw : Reachable ((Builder.new .standard).after twiceRequests).build [] twiceHost := .fresh _ _
    have sound : twiceHost.Sound Session.HostState.Sealed := ⟨hw.coherent, rfl⟩
    have ran : ((Caller.ofRunner Session.runProgram).call (.ofName "Twice") [] .int twiceHost).1 = .ok (3 : Int32) := by
      decide +kernel
    obtain ⟨p, back⟩ := Session.call_handsBack sound ran
    exact ⟨p, back, back.stored_eq (by decide +kernel)⟩

/-- Hand-written code that stores seven if its argument is one, and nothing otherwise. -/
private def sparing : Unit → Frame → Routine Unit Unit := fun _ f => .act id fun w =>
  if (w.table? f.context).bind (·.value? 1) = some (.int 1) then .write 0 (.int 7) .done else .done (.ok ())

private def sparingHost : World Unit Unit :=
  .fresh ((Builder.new .standard).after [.register ⟨"", "Sparing", .int, [.int], .program (), none⟩]).build ()

private abbrev sparingCall (argument : Int32) (w : World Unit Unit) : Except BindError Int32 × World Unit Unit :=
  Caller.call ⟨Routine.executor (Routine.native sparing), .ofTable⟩ (.ofName "Sparing") [.value (.int argument)] .int w

/-- Code in the form of typed code that counts its calls in the host. -/
private def tallying : Unit → Frame → Routine Unit Int32 := fun _ f =>
  .typed f.context fun _ w => (.ok (.int (w.host + 1)), { w with host := w.host + 1 })

private def tallyingHost : World Unit Int32 :=
  .fresh ((Builder.new .standard).after [.register ⟨"", "Count", .int, [], .program (), none⟩]).build 0

private abbrev tallyingCall (w : World Unit Int32) : Except BindError Int32 × World Unit Int32 :=
  Caller.call ⟨Routine.executor (Routine.native tallying), .ofTable⟩ (.ofName "Count") [] .int w

private theorem sparing_disciplined (p : Unit) (f : Frame) : (sparing p f).Disciplined fun _ => True := by
  refine .look fun w _ => ?_
  split
  · exact fun _ => trivial
  · trivial

/-- After a call that has stored seven, a call that stores nothing hands back seven. Without the first call it fails.
Where the code keeps something in the host, an earlier call makes a difference though every call stores its result. -/
theorem stale_result_handed_back :
    (∃ p, Caller.HandsBack (Routine.native sparing) .ofTable (sparingCall 1 sparingHost).2 (.ofName "Sparing")
        [.value (.int 0)] .int (7 : Int32) p ∧
          (p.record (Routine.native sparing) (sparingCall 1 sparingHost).2).stored = []) ∧
      (sparingCall 0 sparingHost).1 = .error (.returnConversionFailed "Sparing" .void .int) ∧
      (sparingCall 0 (sparingCall 1 sparingHost).2).1 = .ok 7 ∧
      (tallyingCall tallyingHost).1 = .ok 1 ∧ (tallyingCall (tallyingCall tallyingHost).2).1 = .ok 2 := by
  have handed : (sparingCall 0 (sparingCall 1 sparingHost).2).1 = .ok 7 := by decide +kernel
  refine ⟨?_, by decide +kernel, handed, by decide +kernel, by decide +kernel⟩
  have disciplined := Routine.native_disciplined sparing_disciplined
  have hw : Reachable _ [] sparingHost := .fresh _ ()
  have sound : sparingHost.Sound fun _ => True := ⟨hw.coherent, trivial⟩
  have keeps : Keeps (fun _ => True) [] sparingHost (sparingCall 1 sparingHost).2 :=
    Caller.call_keeps (Routine.executor_disciplined disciplined) sound _ _ _
  obtain ⟨p, back⟩ := Caller.handsBack_of_ok (keeps.sound sound) disciplined handed
  exact ⟨p, back, back.stored_eq (by decide +kernel)⟩

end Instance

end ScriptBridge
