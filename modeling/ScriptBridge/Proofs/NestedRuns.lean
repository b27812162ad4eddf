import ScriptBridge.Proofs.CallOrder
import ScriptBridge.Proofs.ProgramDiscipline

/-! What the outcome of a run depends on besides its state: the runs that it starts within itself. All of these are on
slot tables that were free. -/
namespace ScriptBridge
variable {P H : Type} {run run' : Runner P H} {fit : H → Prop}

def AgreeAt (run run' : Runner P H) (key : EntryKey) (w : World P H) : Prop :=
  ∀ (p : P) (hasReceiver : Bool), run p ⟨key, hasReceiver⟩ w = run' p ⟨key, hasReceiver⟩ w

namespace AgreeAt
variable {w : World P H} {key : EntryKey}

theorem dispatch (h : AgreeAt run run' key w) (adapter : Adapter P) (receiver : Option (ObjectId × HostObject)) :
    w.dispatch run adapter key receiver = w.dispatch run' adapter key receiver := by
  cases adapter with
  | program p => exact h p receiver.isSome
  | function | method =>
    unfold World.dispatch
    cases w.table? key <;> rfl

theorem executeNative {object : ObjectId} (h : AgreeAt run run' key w) (hb : AgreeAt run run' key (w.borrow object))
    (callee : EntryKey) : w.executeNative run object callee key = w.executeNative run' object callee key := by
  unfold World.executeNative
  split
  · rfl
  · rename_i adapter found
    split
    · simp only [h.dispatch]
    · cases available : w.objects.available? object with
      | none => simp only [World.borrowing_none _ available]
      | some receiver => simp only [World.borrowing_some _ available, hb.dispatch]

theorem execute {object : ObjectId} (h : AgreeAt run run' key w) (hb : AgreeAt run run' key (w.borrow object))
    (callee : EntryKey) : w.execute run object callee key = w.execute run' object callee key := by
  unfold World.execute
  split
  · simp only [h _ _]
  · exact h.executeNative hb callee

end AgreeAt

/-- Two runners do the same wherever something new is run, from a state on, by whatever keeps to the moves of a host. -/
def AgreeAfter (fit : H → Prop) (run run' : Runner P H) (s : List Activation) (w : World P H) : Prop :=
  ∀ (a : Activation) (s' : List Activation) (w' : World P H), During s w (a :: s') w' → s <:+ s' → w'.Sound fit →
    AgreeAt run run' a.key w'

namespace AgreeAfter
variable {s : List Activation} {w w' : World P H} {a : Activation}

theorem later (h : AgreeAfter fit run run' s w) (keeps : Keeps fit s w w') : AgreeAfter fit run run' s w' :=
  fun b s' w'' during above hw => h b s' w'' (keeps.run.trans during) above hw

/-- What agrees from a state on agrees on a table that is put in use there, while it is. -/
theorem inside (h : AgreeAfter fit run run' s w) (step : Move s w (a :: s) w') (hw : w'.Sound fit) :
    AgreeAt run run' a.key w' ∧ (∀ object, AgreeAt run run' a.key (w'.borrow object)) ∧
      AgreeAfter fit run run' (a :: s) w' := by
  have entered : During s w (a :: s) w' := .move .start step (List.suffix_cons a s)
  refine ⟨h a s w' entered (List.suffix_refl s) hw, fun object => ?_, fun b s' w'' during above hw' => ?_⟩
  · have borrowed : Keeps fit (a :: s) w' (w'.borrow object) := .elsewhere _ w'.journal hw.fit
    exact h a s _ (entered.trans borrowed.run) (List.suffix_refl s) (borrowed.sound hw)
  · exact h b s' w'' (entered.trans during) ((List.suffix_cons a s).trans above) hw'

end AgreeAfter

namespace Caller
variable {c c' : Caller P H} {w : World P H} {target : CallTarget} {arguments : List Argument} {result : HostType}

/-- The checks of a call ask about objects, and not for the executor. -/
theorem Ready.congr {p : PreparedCall P} (h : c.Ready w target arguments result p) (ho : c'.objects = c.objects) :
    c'.Ready w target arguments result p := by
  obtain ⟨executor, objects⟩ := c
  obtain ⟨executor', objects'⟩ := c'
  cases ho
  exact ⟨h.resolved, h.arity, h.kind, h.known, h.converted⟩

theorem Rejects.congr {e : BindError} (h : c.Rejects w target arguments result e) (ho : c'.objects = c.objects) :
    c'.Rejects w target arguments result e := by
  obtain ⟨executor, objects⟩ := c
  obtain ⟨executor', objects'⟩ := c'
  cases ho
  cases h with
  | target missing => exact .target missing
  | arity resolved differ => exact .arity resolved differ
  | resultType resolved arity unknown => exact .resultType resolved arity unknown
  | argument resolved arity known bad least => exact .argument resolved arity known bad least
  | busy ready held => exact .busy (ready.congr rfl) held

/-- Callers that ask the same objects and run the callee alike do the same. -/
theorem call_eq_of_run_eq (ho : c'.objects = c.objects) (hw : Coherent w.registry.entries)
    (hx : ∀ p, c.Ready w target arguments result p → p.entry.key ∉ w.held → c'.run p w = c.run p w) :
    c'.call target arguments result w = c.call target arguments result w := by
  rcases c.rejects_or_ready w target arguments result with ⟨e, rejected⟩ | ⟨p, ready, free⟩
  · rw [rejected.call, (rejected.congr ho).call]
  · rw [ready.call hw free, (ready.congr ho).call hw free, hx p ready free]
    simp only [finish, convertResult, ho]

end Caller

namespace AgreeAfter
variable {s : List Activation} {w : World P H}

/-- A call does the same with both. -/
theorem call (h : AgreeAfter fit run run' s w) (hw : w.Sound fit) (target : CallTarget) (arguments : List Argument)
    (result : HostType) : (Caller.ofRunner run).call target arguments result w =
      (Caller.ofRunner run').call target arguments result w := by
  refine Caller.call_eq_of_run_eq rfl hw.coherent fun p ready free => ?_
  obtain ⟨here, borrowed, -⟩ := h.inside (.call _ target arguments result ready free)
    (World.enter_sound hw p.entry.key p.arguments)
  exact here.execute (borrowed p.object) p.entry.key

/-- So does a direct call. -/
theorem invoke (h : AgreeAfter fit run run' s w) (hw : w.Sound fit) {key : EntryKey} {e : Entry P}
    (found : w.registry.find? key = some e) (receiver : Option (ObjectId × HostObject)) (arguments : List SlotValue) :
    w.invoke run e receiver arguments = w.invoke run' e receiver arguments := by
  obtain ⟨rfl, he⟩ := hw.coherent key e found
  by_cases accepted : ∃ adapter, e.Accepts adapter arguments
  · obtain ⟨adapter, accepted⟩ := accepted
    by_cases held : e.key ∈ w.held
    · simp only [World.invoke, World.attemptInvoke_held _ receiver accepted held]
    · obtain ⟨here, -⟩ := h.inside (.invoke arguments found accepted held) (World.enter_sound hw e.key arguments)
      simp only [World.invoke, World.attemptInvoke_free _ receiver accepted found he held, here.dispatch]
  · obtain ⟨err, refused, -⟩ := World.attemptInvoke_refused (H := H) (not_exists.mp accepted)
    simp only [World.invoke, refused]

end AgreeAfter

section Brackets
variable {α : Type} {w : World P H}

private theorem World.locking_congr {e : Entry P} {body body' : World P H → Except BindError α × World P H}
    (h : e.key ∉ w.held → body (w.hold e.key) = body' (w.hold e.key)) : w.locking e body = w.locking e body' := by
  by_cases held : e.key ∈ w.held
  · rw [locking_held _ held, locking_held _ held]
  · rw [locking_free _ held, locking_free _ held, h held]

private theorem World.borrowing_congr {id : ObjectId} {body body' : HostObject → World P H → α × World P H}
    (h : ∀ object, body object (w.borrow id) = body' object (w.borrow id)) :
    w.borrowing id body = w.borrowing id body' := by
  cases available : w.objects.available? id with
  | none => rw [borrowing_none _ available, borrowing_none _ available]
  | some object => rw [borrowing_some _ available, borrowing_some _ available, h]

/-- What is done under a guard is the same with both, if it is where they agree on the guarded table. -/
theorem AgreeAfter.guarding {s : List Activation} (h : AgreeAfter fit run run' s w) (hw : w.Sound fit) {key : EntryKey}
    {e : Entry P} (found : w.registry.find? key = some e) {body body' : World P H → Except BindError α × World P H}
    (same : ∀ w', w'.Sound fit → AgreeAt run run' key w' → (∀ object, AgreeAt run run' key (w'.borrow object)) →
      AgreeAfter fit run run' (⟨.guard, key⟩ :: s) w' → body w' = body' w') : w.locking e body = w.locking e body' := by
  obtain rfl := (hw.coherent key e found).1
  refine World.locking_congr fun free => ?_
  have held : (w.hold e.key).Sound fit := ⟨hw.coherent, hw.fit⟩
  obtain ⟨here, borrowed, inner⟩ := h.inside (.guard found free) held
  exact same _ held here borrowed inner

end Brackets

namespace Session
variable {again again' : Runner Program HostState}

mutual

theorem runInstructions_congr (ha : again'.Disciplined HostState.Sealed) :
    ∀ (is : List Instruction) (hasReceiver : Bool) (w : State) (a : Activation) (s : List Activation),
      w.Sound HostState.Sealed → AgreeAfter HostState.Sealed again again' (a :: s) w →
      runInstructions again is ⟨a.key, hasReceiver⟩ w = runInstructions again' is ⟨a.key, hasReceiver⟩ w
  | [], _, w, a, s, hw, h => rfl
  | i :: rest, hasReceiver, w, a, s, hw, h => by
    have hi := runInstruction_congr ha i hasReceiver w a s hw h
    have keeps := runInstruction_keeps ha i hasReceiver w a s hw
    unfold runInstructions
    rw [hi]
    generalize runInstruction again' i ⟨a.key, hasReceiver⟩ w = o at keeps ⊢
    obtain ⟨_ | _, w'⟩ := o
    · rfl
    · exact runInstructions_congr ha rest hasReceiver w' a s (keeps.sound hw) (h.later keeps)

private theorem runInstruction_congr (ha : again'.Disciplined HostState.Sealed) :
    ∀ (i : Instruction) (hasReceiver : Bool) (w : State) (a : Activation) (s : List Activation),
      w.Sound HostState.Sealed → AgreeAfter HostState.Sealed again again' (a :: s) w →
      runInstruction again i ⟨a.key, hasReceiver⟩ w = runInstruction again' i ⟨a.key, hasReceiver⟩ w
  | .set .., _, w, a, s, hw, h => rfl
  | .copy .., _, w, a, s, hw, h => rfl
  | .sum, _, w, a, s, hw, h => rfl
  | .clear, _, w, a, s, hw, h => rfl
  | .dump, _, w, a, s, hw, h => rfl
  | .receiver, _, w, a, s, hw, h => rfl
  | .fail _, _, w, a, s, hw, h => rfl
  | .step o, hasReceiver, w, a, s, hw, h => by
    simp only [runInstruction, runStep_congr ha o w (a :: s) hw h]

private theorem runStep_congr (ha : again'.Disciplined HostState.Sealed) :
    ∀ (o : Step) (w : State) (s : List Activation), w.Sound HostState.Sealed →
      AgreeAfter HostState.Sealed again again' s w → runStep again o w = runStep again' o w
  | .build _, w, s, hw, h => rfl
  | .showBinding _, w, s, hw, h => rfl
  | .inspect _, w, s, hw, h => rfl
  | .objects _, w, s, hw, h => rfl
  | .journal _, w, s, hw, h => rfl
  | .publish, w, s, hw, h => rfl
  | .published, w, s, hw, h => rfl
  | .slots .., w, s, hw, h => rfl
  | .call callee scope arguments result, w, s, hw, h => by
    have keeps := withoutOutput_keeps (s := s) hw
    simp only [runStep, (h.later keeps).call (keeps.sound hw)]
  | .invoke key arguments receiver, w, s, hw, h => by
    have keeps := withoutOutput_keeps (s := s) hw
    have hin := h.later keeps
    have hw' := keeps.sound hw
    simp only [runStep]
    cases found : w.registry.find? key with
    | none => rfl
    | some entry =>
      cases receiver with
      | none => simp only [hin.invoke hw' found]
      | some id =>
        have borrowed : Keeps HostState.Sealed s w.withoutOutput (w.withoutOutput.borrow id) :=
          .elsewhere _ _ hw'.fit
        dsimp only
        rw [World.borrowing_congr fun object =>
          (hin.later borrowed).invoke (borrowed.sound hw') found (some (id, object)) arguments]
  | .execute context key object, w, s, hw, h => by
    have keeps := withoutOutput_keeps (s := s) hw
    simp only [runStep]
    cases found : w.registry.find? context with
    | none => rfl
    | some entry =>
      dsimp only
      rw [(h.later keeps).guarding (keeps.sound hw) found fun w' _ here borrowed _ => ?_]
      rw [here.executeNative (borrowed object) key]
  | .holdTable key steps, w, s, hw, h => by
    have keeps := withoutOutput_keeps (s := s) hw
    simp only [runStep]
    cases found : w.registry.find? key with
    | none => rfl
    | some entry =>
      dsimp only
      rw [(h.later keeps).guarding (keeps.sound hw) found fun w' hin _ _ inner => ?_]
      rw [runSteps_congr ha steps _ _ hin inner]
  | .holdObject id steps, w, s, hw, h => by
    have keeps : Keeps HostState.Sealed s w (w.withoutOutput.borrow id) := .elsewhere _ _ hw.fit
    simp only [runStep]
    rw [World.borrowing_congr fun _ => runSteps_congr ha steps _ s (keeps.sound hw) (h.later keeps)]

private theorem runSteps_congr (ha : again'.Disciplined HostState.Sealed) :
    ∀ (os : List Step) (w : State) (s : List Activation), w.Sound HostState.Sealed →
      AgreeAfter HostState.Sealed again again' s w → runSteps again os w = runSteps again' os w
  | [], w, s, hw, h => rfl
  | o :: rest, w, s, hw, h => by
    have keeps := runStep_keeps ha o w s hw
    unfold runSteps
    rw [runStep_congr ha o w s hw h]
    simp only [runSteps_congr ha rest _ s (keeps.sound hw) (h.later keeps)]

end

end Session
end ScriptBridge
