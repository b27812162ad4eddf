import ScriptBridge.Proofs.Agreement
import ScriptBridge.Proofs.Records

/-! What two histories mean to the next call of an entry if they leave the same state but for its own slots. Values in
the parameter slots never matter, and that in the result slot does not matter to typed code. -/
namespace ScriptBridge
variable {P H : Type}

/-- Typed code that keeps to the moves of a host. It looks at the slots of its entry only to read its arguments, and at
diagnostics only if `diagnostics` holds. It may look at the rest of the state, and change it. -/
def Routine.IsTyped (diagnostics : Prop) (fit : H → Prop) (key : EntryKey) (c : Routine P H) : Prop :=
  ∃ call, c = typed key call ∧ ∀ (t : SlotTable) (w : World P H), w.Sound fit → Keeps fit [] w (call t w).2 ∧
    ∀ w', w.registry.Alike w'.registry → w.Agree diagnostics key w' →
      (call t w').1 = (call t w).1 ∧ (call t w).2.Agree diagnostics key (call t w').2

/-- Functions and methods are typed. Native code that keeps something in the host between calls is hand-written, and is
typed in the form of typed code. -/
def Adapter.Typed (body : P → Frame → Routine P H) (diagnostics : Prop) (fit : H → Prop) (key : EntryKey) :
    Adapter P → Prop
  | .program p => ∀ hasReceiver, (body p ⟨key, hasReceiver⟩).IsTyped diagnostics fit key
  | .function _ | .method .. => True

section Typed
variable {diagnostics : Prop} {fit : H → Prop} {body : P → Frame → Routine P H} {adapter : Adapter P}
  {w w' : World P H} {key : EntryKey}

theorem Adapter.Typed.isTyped (h : adapter.Typed body diagnostics fit key) (receiver : Option (ObjectId × HostObject)) :
    (adapter.routine body key receiver).IsTyped diagnostics fit key := by
  cases adapter with
  | program p => exact h _
  | function f => exact ⟨f.answer, rfl, fun t w hw => ⟨.refl hw, fun w' _ agree => ⟨rfl, agree⟩⟩⟩
  | method m name className =>
    refine ⟨m.answer name className receiver, rfl, fun t w hw => ⟨m.answer_keeps name className receiver t hw, ?_⟩⟩
    intro w' _ agree
    exact ⟨rfl, agree.putReceiver receiver _⟩

/-- What differs in the result slot makes no difference to typed code. -/
theorem Routine.IsTyped.congr {c : Routine P H} {t t' : SlotTable} (typed : c.IsTyped diagnostics fit key)
    (hw : w.Sound fit) (held : key ∈ w.held) (alike : w.registry.Alike w'.registry) (agree : w.Agree diagnostics key w')
    (ht : w.table? key = some t) (ht' : w'.table? key = some t') (hc : t'.clear = t.clear) (hp : t'.params = t.params) :
    SameRun (· = .ok ()) key (c.exec key w).outcome (c.exec key w').outcome := by
  obtain ⟨call, rfl, h⟩ := typed
  have hw' : w'.Sound fit := ⟨alike.coherent hw.coherent, agree.host ▸ hw.fit⟩
  have hv : t'.withResult .void = t.withResult .void := SlotTable.withResult_of_clear hc hp .void
  obtain ⟨keeps, same⟩ := h (t.withResult .void) w hw
  obtain ⟨result, agree'⟩ := same w' alike agree
  have keeps' := (h (t.withResult .void) w' hw').1
  have kept := (keeps.spares held).2.trans ht
  have kept' := (keeps'.spares (agree.held ▸ held)).2.trans ht'
  simp only [Routine.typed, exec, id_eq, ht, ht', hv, result]
  cases (call (t.withResult .void) w).1 with
  | error e => exact ⟨rfl, fun h => by cases h⟩
  | ok v =>
    have set : t'.set 0 v = t.set 0 v := SlotTable.setResult_congr hc hp v
    simp only [exec, kept, kept', set]
    cases t.set 0 v with
    | error e => exact ⟨rfl, fun h => by cases h⟩
    | ok u =>
      refine ⟨rfl, fun _ => ⟨(agree'.putTable u u).anyJournal, ?_⟩⟩
      simp only [Recorded.outcome, Recorded.following_after, World.table?_putTable, if_true, kept, kept',
        Option.map_some]

theorem Registry.Alike.adapter? {r r' : Registry P} (h : r.Alike r') (key : EntryKey) :
    (r'.find? key).bind (·.adapter?) = (r.find? key).bind (·.adapter?) := by
  have adapters := congrArg (Option.bind · Entry.adapter?) (h.entries key)
  rwa [Option.bind_map, Option.bind_map] at adapters

theorem toBool_eq_true {r : Except BindError Unit} : r.toBool = true ↔ r = .ok () := by
  cases r <;> simp [Except.toBool]

/-- So an executor of it runs it the same. -/
theorem Routine.native_congr {t t' : SlotTable} (typed : adapter.Typed body diagnostics fit key)
    (code : (w.registry.find? key).bind (·.adapter?) = some adapter) (hw : w.Sound fit) (held : key ∈ w.held)
    (alike : w.registry.Alike w'.registry) (agree : w.Agree diagnostics key w') (ht : w.table? key = some t)
    (ht' : w'.table? key = some t') (hc : t'.clear = t.clear) (hp : t'.params = t.params) (object : ObjectId) :
    SameRun (· = true) key (executor (native body) object key key w) (executor (native body) object key key w') := by
  have code' : (w'.registry.find? key).bind (·.adapter?) = some adapter := (alike.adapter? key).trans code
  by_cases free : object.isNone = true ∨ key.scope = globalScope
  · obtain ⟨same, success⟩ := (typed.isTyped none).congr hw held alike agree ht ht' hc hp
    simp only [executor, exec_native_free code free, exec_native_free code' free]
    exact ⟨congrArg Except.toBool same, fun h => success (toBool_eq_true.mp h)⟩
  · cases hr : w.objects.available? object with
    | none =>
      have hr' : w'.objects.available? object = none := by rw [agree.objects, hr]
      simp only [executor, exec_native_unavailable code free hr, exec_native_unavailable code' free hr']
      exact ⟨rfl, fun h => by cases h⟩
    | some receiver =>
      have hr' : w'.objects.available? object = some receiver := by rw [agree.objects, hr]
      have borrowed : (w.borrow object).Sound fit := ⟨hw.coherent, hw.fit⟩
      have alike : (w.borrow object).registry.Alike (w'.borrow object).registry := alike
      -- the receiver is in use on both sides, and is given back on both
      obtain ⟨same, success⟩ := (typed.isTyped (some (object, receiver))).congr borrowed held alike
        (agree.borrow object) ht ht' hc hp
      simp only [executor, exec_native_received code free hr, exec_native_received code' free hr']
      refine ⟨congrArg Except.toBool same, fun h => ?_⟩
      obtain ⟨agree, table⟩ := success (toBool_eq_true.mp h)
      exact ⟨agree.giveBack object, table⟩

theorem Routine.IsTyped.stored {c : Routine P H} (typed : c.IsTyped diagnostics fit key) (hw : w.Sound fit)
    (held : key ∈ w.held) (ran : (c.exec key w).result = .ok ()) :
    ∃ v, (c.exec key w).stored = [v] ∧ (c.exec key w).after.resultValue key = v := by
  obtain ⟨call, rfl, h⟩ := typed
  exact typed_stored (fun t w hw => (h t w hw).1) hw held ran

/-- Executors of typed code that succeed have stored one value. -/
theorem Routine.native_stored (typed : adapter.Typed body diagnostics fit key)
    (code : (w.registry.find? key).bind (·.adapter?) = some adapter) (hw : w.Sound fit) (held : key ∈ w.held)
    {object : ObjectId} (ran : ((native body object key key).exec key w).result = .ok ()) :
    ∃ v, ((native body object key key).exec key w).stored = [v] ∧
      ((native body object key key).exec key w).after.resultValue key = v := by
  by_cases free : object.isNone = true ∨ key.scope = globalScope
  · rw [exec_native_free code free] at ran ⊢
    exact (typed.isTyped none).stored hw held ran
  · cases hr : w.objects.available? object with
    | none =>
      rw [exec_native_unavailable code free hr] at ran
      cases ran
    | some receiver =>
      have borrowed : (w.borrow object).Sound fit := ⟨hw.coherent, hw.fit⟩
      rw [exec_native_received code free hr] at ran ⊢
      exact (typed.isTyped (some (object, receiver))).stored borrowed held ran

end Typed

/-! ### The next call -/

section Next
variable {config : BindConfig} {history : List (Builder.Operation P)} {s s' : List Activation} {w w' : World P H}
  {e e' : Entry P}

/-- Whatever runs, a call has the same outcome after two histories that leave the same value in the result slot. -/
theorem Caller.call_same (hw : Reachable ((Builder.new config).after history).build s w)
    (hw' : Reachable ((Builder.new config).after history).build s' w') {c : Caller P H} {target : CallTarget}
    {object : ObjectId} (resolved : c.resolve w target = .ok (e, object)) (agree : w.Agree True e.key w')
    (value : w'.resultValue e.key = w.resultValue e.key) (arguments : List Argument) (result : HostType) :
    (c.call target arguments result w').1 = (c.call target arguments result w).1 := by
  have alike := hw.alike.symm.trans hw'.alike
  obtain ⟨key, found⟩ := resolve_found resolved
  obtain ⟨rfl, -⟩ := hw.coherent key e found
  refine call_congr hw.coherent alike agree.anyJournal resolved fun values hk => .of_eq ?_
  rw [World.enter_congr agree alike (hw'.keys.trans hw.keys.symm) value found hk]

theorem World.invoke_same (hw : Reachable ((Builder.new config).after history).build s w)
    (hw' : Reachable ((Builder.new config).after history).build s' w') (found : w.registry.find? e.key = some e)
    (found' : w'.registry.find? e.key = some e') (agree : w.Agree True e.key w')
    (value : w'.resultValue e.key = w.resultValue e.key) (run : Runner P H)
    (receiver : Option (ObjectId × HostObject)) (arguments : List SlotValue) :
    (w'.invoke run e' receiver arguments).1 = (w.invoke run e receiver arguments).1 := by
  have alike := hw.alike.symm.trans hw'.alike
  refine invoke_congr hw.coherent alike agree.anyJournal found found' fun adapter accepted => .of_eq ?_
  have hk := accepted.kinds (hw.coherent e.key e found).2
  rw [enter_congr agree alike (hw'.keys.trans hw.keys.symm) value found hk]

variable {diagnostics : Prop} {fit : H → Prop} {body : P → Frame → Routine P H} {adapter : Adapter P}

/-- What typed code sees when it starts after two histories: the same arguments in alike tables. -/
private theorem entered_tables {values : List SlotValue} (alike : w.registry.Alike w'.registry)
    (found : w.registry.find? e.key = some e) (hk : values.map SlotValue.kind = e.table.params.map Slot.kind) :
    ∃ t t', (w.enter e.key values).table? e.key = some t ∧ (w'.enter e.key values).table? e.key = some t' ∧
      t'.clear = t.clear ∧ t'.params = t.params := by
  obtain ⟨e', found', hb⟩ := alike.symm.find? found
  have hc : e'.table.clear = e.table.clear := Entry.clear_of_blank hb.symm
  have hk' : values.map SlotValue.kind = e'.table.params.map Slot.kind := by rw [hk, SlotTable.map_kind_of_clear hc]
  refine ⟨e.table.withArguments values, e'.table.withArguments values, ?_, ?_,
    SlotTable.clear_withArguments_of_clear hk hc, SlotTable.params_withArguments_of_clear values hc⟩
  · exact congrArg (Option.map Entry.table) (World.find?_enter found hk)
  · have hkey : e'.key = e.key := Entry.key_of_blank hb.symm
    rw [← hkey] at found' ⊢
    exact congrArg (Option.map Entry.table) (World.find?_enter found' hk')

theorem World.mem_held_enter (w : World P H) (key : EntryKey) (values : List SlotValue) :
    key ∈ (w.enter key values).held := by
  rw [(w.enter_rest key values).1]
  exact List.mem_cons_self

private theorem World.alike_enter (alike : w.registry.Alike w'.registry) (key : EntryKey) (values : List SlotValue) :
    (w.enter key values).registry.Alike (w'.enter key values).registry :=
  (w.enter_alike key values).symm.trans (alike.trans (w'.enter_alike key values))

/-- Where typed code runs, the value in the result slot makes no difference either. -/
theorem Caller.call_same_of_typed (hw : Reachable ((Builder.new config).after history).build s w)
    (hw' : Reachable ((Builder.new config).after history).build s' w') (hf : fit w.host) {objects : ObjectRegistry H}
    {target : CallTarget} {object : ObjectId}
    (resolved : Caller.resolve ⟨Routine.executor (Routine.native body), objects⟩ w target = .ok (e, object))
    (native : e.adapter? = some adapter) (typed : adapter.Typed body diagnostics fit e.key)
    (agree : w.Agree diagnostics e.key w') (arguments : List Argument) (result : HostType) :
    (Caller.call ⟨Routine.executor (Routine.native body), objects⟩ target arguments result w').1 =
      (Caller.call ⟨Routine.executor (Routine.native body), objects⟩ target arguments result w).1 := by
  have alike := hw.alike.symm.trans hw'.alike
  obtain ⟨key, found⟩ := resolve_found resolved
  obtain ⟨rfl, -⟩ := hw.coherent key e found
  refine call_congr hw.coherent alike agree.anyJournal resolved fun values hk => ?_
  obtain ⟨t, t', ht, ht', hc, hp⟩ := entered_tables alike found hk
  exact Routine.native_congr typed (World.adapter_of_found (World.find?_enter found hk) native)
    (World.enter_sound ⟨hw.coherent, hf⟩ e.key values) (w.mem_held_enter e.key values)
    (World.alike_enter alike e.key values) (agree.enter values) ht ht' hc hp object

theorem World.invoke_same_of_typed (hw : Reachable ((Builder.new config).after history).build s w)
    (hw' : Reachable ((Builder.new config).after history).build s' w') (hf : fit w.host)
    (found : w.registry.find? e.key = some e) (found' : w'.registry.find? e.key = some e')
    (native : e.adapter? = some adapter) (typed : adapter.Typed body diagnostics fit e.key)
    (agree : w.Agree diagnostics e.key w') (receiver : Option (ObjectId × HostObject)) (arguments : List SlotValue) :
    (w'.invoke (Routine.runner body) e' receiver arguments).1 =
      (w.invoke (Routine.runner body) e receiver arguments).1 := by
  have alike := hw.alike.symm.trans hw'.alike
  refine invoke_congr hw.coherent alike agree.anyJournal found found' fun adapter' accepted => ?_
  obtain rfl : adapter = adapter' := Option.some.inj (native.symm.trans accepted.native)
  have hk := accepted.kinds (hw.coherent e.key e found).2
  obtain ⟨t, t', ht, ht', hc, hp⟩ := entered_tables alike found hk
  rw [dispatch_eq_exec, dispatch_eq_exec]
  exact (typed.isTyped receiver).congr (enter_sound ⟨hw.coherent, hf⟩ e.key arguments)
    (w.mem_held_enter e.key arguments) (alike_enter alike e.key arguments) (agree.enter arguments) ht ht' hc hp

end Next

/-! ### Earlier calls of a function -/

inductive World.Called (run : Runner P H) (objects : ObjectRegistry H) (key : EntryKey) (w : World P H) :
    World P H → Prop where
  | start : Called run objects key w w
  | call {w' e object} (before : Called run objects key w w') (target : CallTarget) (arguments : List Argument)
      (result : HostType) (resolved : Caller.resolve ⟨World.executeNative run, objects⟩ w' target = .ok (e, object))
      (names : e.key = key) :
      Called run objects key w (Caller.call ⟨World.executeNative run, objects⟩ target arguments result w').2
  | invoke {w' e} (before : Called run objects key w w') (found : w'.registry.find? key = some e)
      (receiver : Option (ObjectId × HostObject)) (arguments : List SlotValue) :
      Called run objects key w (w'.invoke run e receiver arguments).2

section Called
variable {fit : H → Prop} {run : Runner P H} {objects : ObjectRegistry H} {key : EntryKey} {f : HostFunction}
  {s : List Activation} {w w' : World P H}

/-- A function changes the slots of its entry at most. -/
private theorem dispatch_agree (run : Runner P H) (f : HostFunction) (key : EntryKey)
    (receiver : Option (ObjectId × HostObject)) (w : World P H) :
    w.Agree True key (w.dispatch run (.function f) key receiver).2 := by
  cases ht : w.table? key with
  | none =>
    simp only [World.dispatch, ht]
    exact .refl w
  | some t =>
    simp only [World.dispatch, ht]
    cases f.dispatch t with
    | error e => exact .refl w
    | ok t' =>
      refine ⟨rfl, rfl, rfl, fun _ => rfl, fun l hl => ?_⟩
      exact (World.table?_putTable w key l t').trans (if_neg hl)

private theorem executeNative_agree (code : (w.registry.find? key).bind (·.adapter?) = some (.function f))
    (object : ObjectId) : w.Agree True key (w.executeNative run object key key).2 := by
  by_cases free : object.isNone = true ∨ key.scope = globalScope
  · rw [World.executeNative_free code free]
    exact dispatch_agree run f key none w
  · cases hr : w.objects.available? object with
    | none =>
      rw [World.executeNative_unavailable free hr]
      exact .refl w
    | some receiver =>
      rw [World.executeNative_received code free hr]
      have given := (dispatch_agree run f key (some (object, receiver)) (w.borrow object)).giveBack object
      rwa [w.giveBack_borrow] at given

/-- What a use of a table leaves when it is over. -/
private theorem release_agree {values : List SlotValue} (h : (w.enter key values).Agree True key w') :
    w.Agree True key (w'.release key) := by
  obtain ⟨held, objects, journal, host⟩ := w.enter_rest key values
  refine ⟨h.host.trans host, h.objects.trans objects, ?_, fun d => (h.journal d).trans journal, fun l hl => ?_⟩
  · show w'.held.erase key = w.held
    rw [h.held, held, List.erase_cons_head]
  · refine (h.others l hl).trans ?_
    rw [World.enter_table?, if_neg hl]

private theorem reporting_agree {α : Type} {o : Except BindError α × World P H} (h : w.Agree True key o.2) :
    w.Agree False key (World.reporting o).2 := by
  obtain ⟨_ | _, w'⟩ := o
  · exact ⟨h.host, h.objects, h.held, False.elim, h.others⟩
  · exact h.anyJournal

/-- Calls of a function leave no trace but diagnostics and the values in its slots. -/
theorem World.Called.agree {e : Entry P} (called : w.Called run objects key w') (hr : run.Disciplined fit)
    (hw : w.Sound fit) (found : w.registry.find? key = some e) (native : e.adapter? = some (.function f)) :
    w.Agree False key w' ∧ Keeps fit s w w' := by
  induction called with
  | start => exact ⟨.refl w, .refl hw⟩
  | @call w₁ e₁ object before target arguments result resolved names ih =>
    obtain ⟨agree, keeps⟩ := ih
    have hw₁ := keeps.sound hw
    refine ⟨agree.trans ?_, keeps.trans (Caller.call_keeps (World.executeNative_disciplined hr) hw₁ _ _ _)⟩
    rcases Caller.rejects_or_ready _ w₁ target arguments result with ⟨err, rejected⟩ | ⟨p, ready, free⟩
    · rw [rejected.call]
      exact ⟨rfl, rfl, rfl, False.elim, fun _ _ => rfl⟩
    · obtain ⟨rfl, rfl⟩ := Prod.mk.inj (Except.ok.inj (ready.resolved.symm.trans resolved))
      subst names
      rw [ready.call hw₁.coherent free]
      refine reporting_agree ?_
      rw [Caller.finish_snd]
      refine release_agree (executeNative_agree (f := f) ?_ p.object)
      have alike := keeps.run.alike.trans (w₁.enter_alike p.entry.key p.arguments)
      exact (alike.adapter? p.entry.key).trans (adapter_of_found found native)
  | @invoke w₁ e₁ before found₁ receiver arguments ih =>
    obtain ⟨agree, keeps⟩ := ih
    have hw₁ := keeps.sound hw
    refine ⟨agree.trans ?_, keeps.trans (World.invoke_keeps hr hw₁ found₁ receiver arguments)⟩
    obtain ⟨rfl, he⟩ := hw₁.coherent key e₁ found₁
    rcases attemptInvoke_cases run receiver arguments found₁ he with ⟨err, refused⟩ | ⟨adapter, accepted, free, ran⟩
    · rw [World.invoke, refused]
      exact ⟨rfl, rfl, rfl, False.elim, fun _ _ => rfl⟩
    · rw [World.invoke, ran]
      refine reporting_agree ?_
      rw [finishInvoke_snd]
      have code : e₁.adapter? = some (.function f) := by
        have adapters := keeps.run.alike.adapter? e₁.key
        rw [found, found₁] at adapters
        exact adapters.trans native
      obtain rfl : adapter = .function f := Option.some.inj (accepted.native.symm.trans code)
      exact release_agree (dispatch_agree run f e₁.key receiver _)

variable {config : BindConfig} {history : List (Builder.Operation P)} {body : P → Frame → Routine P H} {e : Entry P}

/-- Earlier calls of a function make no difference to its next call. -/
theorem Caller.call_same_of_called (hw : Reachable ((Builder.new config).after history).build s w) (hf : fit w.host)
    (hb : ∀ p f, (body p f).Disciplined fit) {target : CallTarget} {object : ObjectId}
    (resolved : Caller.resolve ⟨Routine.executor (Routine.native body), objects⟩ w target = .ok (e, object))
    (native : e.adapter? = some (.function f)) (called : w.Called (Routine.runner body) objects e.key w')
    (arguments : List Argument) (result : HostType) :
    (Caller.call ⟨Routine.executor (Routine.native body), objects⟩ target arguments result w').1 =
      (Caller.call ⟨Routine.executor (Routine.native body), objects⟩ target arguments result w).1 := by
  obtain ⟨key, found⟩ := resolve_found resolved
  obtain ⟨rfl, -⟩ := hw.coherent key e found
  obtain ⟨agree, keeps⟩ := called.agree (s := s) (Routine.runner_disciplined hb) ⟨hw.coherent, hf⟩ found native
  have typed : (Adapter.function f).Typed body False fit e.key := trivial
  exact call_same_of_typed hw (hw.during keeps.run) hf resolved native typed agree arguments result

theorem World.invoke_same_of_called {e' : Entry P} (hw : Reachable ((Builder.new config).after history).build s w)
    (hf : fit w.host) (hb : ∀ p f, (body p f).Disciplined fit) (found : w.registry.find? e.key = some e)
    (native : e.adapter? = some (.function f)) (called : w.Called (Routine.runner body) objects e.key w')
    (found' : w'.registry.find? e.key = some e') (receiver : Option (ObjectId × HostObject))
    (arguments : List SlotValue) :
    (w'.invoke (Routine.runner body) e' receiver arguments).1 =
      (w.invoke (Routine.runner body) e receiver arguments).1 := by
  obtain ⟨agree, keeps⟩ := called.agree (s := s) (Routine.runner_disciplined hb) ⟨hw.coherent, hf⟩ found native
  have typed : (Adapter.function f).Typed body False fit e.key := trivial
  exact invoke_same_of_typed hw (hw.during keeps.run) hf found found' native typed agree receiver arguments

end Called

end ScriptBridge
