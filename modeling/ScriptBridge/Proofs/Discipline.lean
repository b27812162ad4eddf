import ScriptBridge.Proofs.Activation
import ScriptBridge.Proofs.TypedDispatch

/-! Code that keeps to the moves of a host: it ends what it begins and writes only what it can reach. Typed adapters do
so by themselves, and calls and direct calls do so as soon as the hand-written code that they run does. -/
namespace ScriptBridge
variable {P H : Type}

/-- Entries stand under their own keys with the shapes they declare, and what the host keeps is `fit`. -/
structure World.Sound (fit : H → Prop) (w : World P H) : Prop where
  coherent : Coherent w.registry.entries
  fit : fit w.host

/-- `w'` comes from `w` by moves on top of `s` that end what they begin, and the host stays fit. -/
structure Keeps (fit : H → Prop) (s : List Activation) (w w' : World P H) : Prop where
  run : During s w s w'
  fit : fit w'.host

/-- Hand-written code, run on the slot table of an activation, keeps to the moves of a host. -/
def Runner.Disciplined (fit : H → Prop) (run : Runner P H) : Prop :=
  ∀ (p : P) (hasReceiver : Bool) (w : World P H) (a : Activation) (s : List Activation), w.Sound fit →
    Keeps fit (a :: s) w (run p ⟨a.key, hasReceiver⟩ w).2

def Executor.Disciplined (fit : H → Prop) (execute : Executor P H) : Prop :=
  ∀ (object : ObjectId) (key : EntryKey) (w : World P H) (a : Activation) (s : List Activation), w.Sound fit →
    Keeps fit (a :: s) w (execute object key a.key w).2

namespace Keeps
variable {fit : H → Prop} {s : List Activation} {w w' w'' : World P H}

theorem refl (hw : w.Sound fit) : Keeps fit s w w := ⟨.start, hw.fit⟩

theorem trans (h : Keeps fit s w w') (j : Keeps fit s w' w'') : Keeps fit s w w'' := ⟨h.run.trans j.run, j.fit⟩

theorem sound (h : Keeps fit s w w') (hw : w.Sound fit) : w'.Sound fit := ⟨h.run.alike.coherent hw.coherent, h.fit⟩

/-- Other objects, another journal and a fit host are within the rules. -/
theorem elsewhere (objects : ObjectTable) (journal : Journal) {host : H} (hf : fit host) :
    Keeps fit s w { w with objects, journal, host } := ⟨.single (.elsewhere objects journal host), hf⟩

/-- The report of a failure is within the rules. -/
theorem reporting {α : Type} {o : Except BindError α × World P H} (h : Keeps fit s w o.2) :
    Keeps fit s w (World.reporting o).2 := by
  obtain ⟨r, w'⟩ := o
  cases r with
  | ok v => exact h
  | error e => exact h.trans (.elsewhere w'.objects _ h.fit)

end Keeps

theorem World.enter_sound {fit : H → Prop} {w : World P H} (hw : w.Sound fit) (key : EntryKey)
    (values : List SlotValue) : (w.enter key values).Sound fit := by
  refine ⟨(w.enter_alike key values).coherent hw.coherent, ?_⟩
  rw [(w.enter_rest key values).2.2.2]
  exact hw.fit

theorem mem_reach_head (a : Activation) (s : List Activation) : a.key ∈ reach (a :: s) := by
  obtain ⟨use, key⟩ := a
  cases use <;> exact List.mem_cons_self

namespace World
variable {fit : H → Prop} {run : Runner P H}

/-- Typed code writes its result or nothing. -/
private theorem adopt_keeps (a : Activation) (s : List Activation) {w : World P H} {t : SlotTable}
    {result : Except BindError SlotTable} (hw : w.Sound fit) (ht : w.table? a.key = some t)
    (h : ∀ t', result = .ok t' → ∃ v, t.setResult v = .ok t') : Keeps fit (a :: s) w (w.adopt a.key result).2 := by
  cases result with
  | error e => exact .refl hw
  | ok t' =>
    obtain ⟨v, hv⟩ := h t' rfl
    exact ⟨.single (.write 0 v (mem_reach_head a s) ht hv), hw.fit⟩

theorem putReceiver_during (s : List Activation) (w : World P H) (receiver : Option (ObjectId × HostObject))
    (object : Option HostObject) : During s w s (w.putReceiver receiver object) := by
  unfold putReceiver
  split
  · exact .single (.elsewhere _ w.journal w.host)
  · exact .start

@[simp] theorem putReceiver_host (w : World P H) (receiver : Option (ObjectId × HostObject))
    (object : Option HostObject) : (w.putReceiver receiver object).host = w.host := by
  unfold putReceiver
  split <;> rfl

@[simp] theorem putReceiver_registry (w : World P H) (receiver : Option (ObjectId × HostObject))
    (object : Option HostObject) : (w.putReceiver receiver object).registry = w.registry := by
  unfold putReceiver
  split <;> rfl

/-- Running an adapter on the table of an activation is within the rules. -/
theorem dispatch_keeps (hr : run.Disciplined fit) (adapter : Adapter P) (receiver : Option (ObjectId × HostObject))
    {w : World P H} (hw : w.Sound fit) (a : Activation) (s : List Activation) :
    Keeps fit (a :: s) w (w.dispatch run adapter a.key receiver).2 := by
  unfold dispatch
  split
  · exact hr _ _ w a s hw
  · exact .refl hw
  · rename_i f table ht
    exact adopt_keeps a s hw ht fun t' h => HostFunction.dispatch_eq_ok h
  · rename_i m name className table ht
    have hp : Keeps fit (a :: s) w
        (w.putReceiver receiver (m.dispatch name className (receiver.map (·.2)) table).2) := by
      refine ⟨putReceiver_during (a :: s) w _ _, ?_⟩
      rw [putReceiver_host]
      exact hw.fit
    refine hp.trans (adopt_keeps a s (hp.sound hw) ?_ fun t' h => HostMethod.dispatch_eq_ok h)
    rw [table?, putReceiver_registry]
    exact ht

/-- The use of an object is within the rules if what is done meanwhile is. -/
theorem borrowing_keeps {α : Type} {s : List Activation} {w : World P H} (hw : w.Sound fit) (id : ObjectId)
    {body : HostObject → World P H → α × World P H}
    (hb : ∀ object w', w'.registry = w.registry → w'.Sound fit → Keeps fit s w' (body object w').2) :
    Keeps fit s w (w.borrowing id body).2 := by
  cases available : w.objects.available? id with
  | none =>
    rw [borrowing_none body available]
    exact .refl hw
  | some object =>
    have hin : Keeps fit s w (w.borrow id) := .elsewhere _ w.journal hw.fit
    have hall := hin.trans (hb object (w.borrow id) rfl (hin.sound hw))
    rw [borrowing_some body available]
    exact hall.trans (.elsewhere _ _ hall.fit)

/-- Native code runs within the rules if hand-written code does. -/
theorem executeNative_disciplined (hr : run.Disciplined fit) : Executor.Disciplined fit (executeNative run) := by
  intro object key w a s hw
  unfold executeNative
  split
  · exact .refl hw
  · split
    · exact dispatch_keeps hr _ none hw a s
    · exact borrowing_keeps hw object fun receiver w' _ hw' => dispatch_keeps hr _ _ hw' a s

theorem execute_disciplined (hr : run.Disciplined fit) : Executor.Disciplined fit (execute run) := by
  intro object key w a s hw
  unfold execute
  split
  · exact hr _ _ w a s hw
  · exact executeNative_disciplined hr object key w a s hw

theorem guard_keeps {α : Type} {s : List Activation} {w : World P H} {key : EntryKey} {entry : Entry P}
    {body : World P H → Except BindError α × World P H} (hw : w.Sound fit)
    (found : w.registry.find? key = some entry)
    (hb : Keeps fit (⟨.guard, entry.key⟩ :: s) (w.hold entry.key) (body (w.hold entry.key)).2) :
    Keeps fit s w (w.locking entry body).2 := by
  by_cases held : entry.key ∈ w.held
  · rw [locking_held _ held]
    exact .refl hw
  · rw [locking_free _ held]
    obtain rfl := (hw.coherent key entry found).1
    exact ⟨During.bracket (.guard found held) hb.run, hb.fit⟩

end World

@[simp] theorem Caller.finish_snd (c : Caller P H) (p : PreparedCall P) (result : HostType) (o : Bool × World P H) :
    (c.finish p result o).2 = o.2.release p.entry.key := by
  obtain ⟨_ | _, w⟩ := o <;> rfl

@[simp] theorem World.finishInvoke_snd (e : Entry P) (o : Except BindError Unit × World P H) :
    (finishInvoke e o).2 = o.2.release e.key := by
  obtain ⟨_ | _, w⟩ := o <;> rfl

/-- A call is within the rules if its executor is. -/
theorem Caller.call_keeps {fit : H → Prop} {c : Caller P H} (hc : c.executor.Disciplined fit) {s : List Activation}
    {w : World P H} (hw : w.Sound fit) (target : CallTarget) (arguments : List Argument) (result : HostType) :
    Keeps fit s w (c.call target arguments result w).2 := by
  apply Keeps.reporting
  obtain ⟨e, rejected⟩ | ⟨p, ready, free⟩ := c.rejects_or_ready w target arguments result
  · rw [rejected.attempt]
    exact .refl hw
  · have hrun := hc p.object p.entry.key _ ⟨.call, p.entry.key⟩ s (World.enter_sound hw p.entry.key p.arguments)
    rw [ready.attempt hw.coherent free, finish_snd]
    exact ⟨During.bracket (.call c target arguments result ready free) hrun.run, hrun.fit⟩

/-- A direct call is within the rules if hand-written code is. -/
theorem World.invoke_keeps {fit : H → Prop} {run : Runner P H} (hr : run.Disciplined fit) {s : List Activation}
    {w : World P H} (hw : w.Sound fit) {key : EntryKey} {entry : Entry P}
    (found : w.registry.find? key = some entry) (receiver : Option (ObjectId × HostObject))
    (arguments : List SlotValue) : Keeps fit s w (w.invoke run entry receiver arguments).2 := by
  apply Keeps.reporting
  obtain ⟨rfl, he⟩ := hw.coherent key entry found
  rcases attemptInvoke_cases run receiver arguments found he with ⟨err, refused⟩ | ⟨adapter, accepted, free, ran⟩
  · rw [refused]
    exact .refl hw
  · have hrun := dispatch_keeps hr adapter receiver (enter_sound hw entry.key arguments) ⟨.invoke, entry.key⟩ s
    rw [ran, finishInvoke_snd]
    exact ⟨During.bracket (.invoke arguments found accepted free) hrun.run, hrun.fit⟩

end ScriptBridge
