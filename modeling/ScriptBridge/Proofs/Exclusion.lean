import ScriptBridge.Proofs.CallOrder
import ScriptBridge.Proofs.ProgramDiscipline

/-! Exclusive use of slot tables, however calls, direct calls and guards nest. -/
namespace ScriptBridge
variable {P H : Type} {s s' : List Activation} {w w' : World P H} {key : EntryKey}

/-- A call or direct call leaves every table in use alone when it begins. -/
theorem Move.table?_of_begin {a : Activation} (step : Move s w (a :: s) w') (hk : key ∈ w.held) :
    w'.table? key = w.table? key := by
  generalize hs : a :: s = s' at step
  cases step with
  | write | clear => exact absurd hs (List.cons_ne_self a s)
  | call c target arguments result ready free => exact World.enter_table?_of_held _ free hk
  | invoke arguments found accepted free => exact World.enter_table?_of_held _ free hk
  | elsewhere | guard | leave | drop => rfl

/-- What runs in a call or direct call leaves alone every table that was in use before. -/
theorem During.untouched {a : Activation} {w₁ w₂ : World P H} (hm : Matches s w) (hu : a.use ≠ .guard)
    (step : Move s w (a :: s) w₁) (run : During (a :: s) w₁ s' w₂) (hk : key ∈ w.held) :
    w₂.table? key = w.table? key := by
  have hs : key ∈ s.map Activation.key := hm.held ▸ hk
  rw [run.table? hu (hm.move step) hs, step.table?_of_begin hk]

@[simp] theorem World.reporting_table? {α : Type} (o : Except BindError α × World P H) :
    (World.reporting o).2.table? key = o.2.table? key := by
  obtain ⟨_ | _, w⟩ := o <;> rfl

/-- A call leaves alone every table in use. -/
theorem Caller.call_untouched {fit : H → Prop} {c : Caller P H} (hc : c.executor.Disciplined fit) (hm : Matches s w)
    (hw : w.Sound fit) (target : CallTarget) (arguments : List Argument) (result : HostType) (hk : key ∈ w.held) :
    (c.call target arguments result w).2.table? key = w.table? key := by
  rcases c.rejects_or_ready w target arguments result with ⟨e, rejected⟩ | ⟨p, ready, free⟩
  · rw [rejected.call]
    rfl
  · have hrun := hc p.object p.entry.key _ ⟨.call, p.entry.key⟩ s (World.enter_sound hw p.entry.key p.arguments)
    rw [ready.call hw.coherent free, World.reporting_table?, finish_snd]
    have hin := hrun.run.untouched hm (by simp) (.call c target arguments result ready free) hk
    exact hin

private theorem World.invoke_untouched {fit : H → Prop} {run : Runner P H} (hr : run.Disciplined fit) (hm : Matches s w)
    (hw : w.Sound fit) {e : Entry P} (found : w.registry.find? e.key = some e)
    (receiver : Option (ObjectId × HostObject)) (arguments : List SlotValue) (hk : key ∈ w.held) :
    (w.invoke run e receiver arguments).2.table? key = w.table? key := by
  rw [invoke, reporting_table?]
  rcases attemptInvoke_cases run receiver arguments found (hw.coherent e.key e found).2 with
    ⟨err, refused⟩ | ⟨adapter, accepted, free, ran⟩
  · rw [refused]
  · have hrun := dispatch_keeps hr adapter receiver (enter_sound hw e.key arguments) ⟨.invoke, e.key⟩ s
    have hin := hrun.run.untouched hm (by simp) (.invoke arguments found accepted free) hk
    rw [ran, finishInvoke_snd]
    exact hin

/-- A call that has passed the checks before the slot table is busy exactly if the table is in use. -/
theorem Caller.Ready.busy_iff {c : Caller P H} {target : CallTarget} {arguments : List Argument} {result : HostType}
    {p : PreparedCall P} (ready : c.Ready w target arguments result p) (hw : Coherent w.registry.entries) (f : String) :
    (c.call target arguments result w).1 = .error (.contextBusy f) ↔
      p.entry.key ∈ w.held ∧ f = p.entry.qualified := by
  by_cases held : p.entry.key ∈ w.held
  · have hc := congrArg Prod.fst (Rejects.busy ready held).call
    rw [hc]
    constructor
    · intro h
      cases h
      exact ⟨held, rfl⟩
    · rintro ⟨-, rfl⟩
      rfl
  · constructor
    · intro h
      rcases (ready.fails_iff hw held _).mp h with ⟨-, h⟩ | ⟨-, h⟩
      · cases h
      · obtain ⟨source, h⟩ := convertResult_error h
        cases h
    · rintro ⟨h, -⟩
      exact absurd h held

/-- A direct call that checks out is busy exactly if the table is in use, or if hand-written code says so itself. -/
theorem World.invoke_busy_iff {run : Runner P H} {e : Entry P} {adapter : Adapter P} {arguments : List SlotValue}
    (accepted : e.Accepts adapter arguments) (hw : Coherent w.registry.entries)
    (found : w.registry.find? e.key = some e) (receiver : Option (ObjectId × HostObject)) (f : String) :
    (w.invoke run e receiver arguments).1 = .error (.contextBusy f) ↔
      e.key ∈ w.held ∧ f = e.qualified ∨
      e.key ∉ w.held ∧ ∃ p, adapter = .program p ∧
        (run p ⟨e.key, receiver.isSome⟩ (w.enter e.key arguments)).1 = .error (.contextBusy f) := by
  rw [invoke, Caller.reporting_fst]
  by_cases held : e.key ∈ w.held
  · rw [attemptInvoke_held run receiver accepted held]
    constructor
    · intro h
      cases h
      exact .inl ⟨held, rfl⟩
    · rintro (⟨-, rfl⟩ | ⟨free, -⟩)
      · rfl
      · exact absurd held free
  · rw [attemptInvoke_free run receiver accepted found (hw e.key e found).2 held]
    constructor
    · intro h
      have hd : ((w.enter e.key arguments).dispatch run adapter e.key receiver).1 = .error (.contextBusy f) := by
        generalize (w.enter e.key arguments).dispatch run adapter e.key receiver = done at h ⊢
        obtain ⟨err | _, w'⟩ := done <;> cases h
        rfl
      exact .inr ⟨held, dispatch_busy hd⟩
    · rintro (⟨h, -⟩ | ⟨-, p, rfl, h⟩)
      · exact absurd h held
      · have hd : (w.enter e.key arguments).dispatch run (.program p) e.key receiver =
            run p ⟨e.key, receiver.isSome⟩ (w.enter e.key arguments) := by
          simp only [dispatch]
        rw [hd]
        generalize run p ⟨e.key, receiver.isSome⟩ (w.enter e.key arguments) = done at h ⊢
        obtain ⟨err | _, w'⟩ := done <;> cases h
        rfl

structure Exclusive (s : List Activation) (w : World P H) : Prop where
  /-- The tables in use are those of the activations, and no two activations have the same one. -/
  holders : w.held = s.map Activation.key ∧ (s.map Activation.key).Nodup
  /-- A call that has passed its other checks is busy exactly if the table of its entry is in use. -/
  call_busy : ∀ (c : Caller P H) target arguments result p, c.Ready w target arguments result p →
    ∀ f, (c.call target arguments result w).1 = .error (.contextBusy f) ↔ p.entry.key ∈ w.held ∧ f = p.entry.qualified
  /-- So is a direct call, unless hand-written code that it has run on the free table gives this very error. -/
  invoke_busy : ∀ (run : Runner P H) e adapter receiver arguments, w.registry.find? e.key = some e →
    e.Accepts adapter arguments → ∀ f, (w.invoke run e receiver arguments).1 = .error (.contextBusy f) ↔
      e.key ∈ w.held ∧ f = e.qualified ∨
      e.key ∉ w.held ∧ ∃ p, adapter = .program p ∧
        (run p ⟨e.key, receiver.isSome⟩ (w.enter e.key arguments)).1 = .error (.contextBusy f)
  /-- From the beginning of a call or direct call to its end, tables that were in use before stay as they are. -/
  untouched : ∀ (a : Activation) w₁ s₂ w₂, a.use ≠ .guard → Move s w (a :: s) w₁ → During (a :: s) w₁ s₂ w₂ →
    ∀ key ∈ w.held, w₂.table? key = w.table? key
  /-- When a call, direct call or guard ends, the same tables are in use as when it began. -/
  returned : ∀ (a : Activation) w₁ w₂, Move s w (a :: s) w₁ → During (a :: s) w₁ (a :: s) w₂ →
    (w₂.release a.key).held = w.held
  /-- A call leaves the same tables in use, and those unchanged, whether it succeeds or fails. -/
  call_returns : ∀ (fit : H → Prop) (c : Caller P H), fit w.host → c.executor.Disciplined fit →
    ∀ target arguments result, (c.call target arguments result w).2.held = w.held ∧
      ∀ key ∈ w.held, (c.call target arguments result w).2.table? key = w.table? key
  invoke_returns : ∀ (fit : H → Prop) (run : Runner P H), fit w.host → run.Disciplined fit →
    ∀ e receiver arguments, w.registry.find? e.key = some e → (w.invoke run e receiver arguments).2.held = w.held ∧
      ∀ key ∈ w.held, (w.invoke run e receiver arguments).2.table? key = w.table? key

/-- Slot tables are used exclusively in every state that a host reaches on a sealed registry, however calls, direct
calls and guards nest. -/
theorem tables_used_exclusively {config : BindConfig} {history : List (Builder.Operation P)}
    (hw : Reachable ((Builder.new config).after history).build s w) : Exclusive s w := by
  have coherent := hw.coherent
  have hm := hw.matches
  refine ⟨⟨hm.held, hm.distinct⟩, ?_, ?_, ?_, ?_, ?_, ?_⟩
  · intro c target arguments result p ready f
    exact ready.busy_iff coherent f
  · intro run e adapter receiver arguments found accepted f
    exact World.invoke_busy_iff accepted coherent found receiver f
  · intro a w₁ s₂ w₂ hu step run key hk
    exact run.untouched hm hu step hk
  · intro a w₁ w₂ step run
    exact hm.held_eq (During.bracket step run)
  · intro fit c hf hc target arguments result
    have keeps := Caller.call_keeps (s := s) hc ⟨coherent, hf⟩ target arguments result
    exact ⟨hm.held_eq keeps.run, fun key hk => Caller.call_untouched hc hm ⟨coherent, hf⟩ target arguments result hk⟩
  · intro fit run hf hr e receiver arguments found
    have keeps := World.invoke_keeps (s := s) hr ⟨coherent, hf⟩ found receiver arguments
    exact ⟨hm.held_eq keeps.run, fun key hk => World.invoke_untouched hr hm ⟨coherent, hf⟩ found receiver arguments hk⟩

section Sessions
open Session

private def hosting (p : Program) : State :=
  .fresh ((Builder.new .standard).after [.register ⟨"", "Again", .unit, [], .program p, none⟩]).build
    ⟨.memory, none, [], none, []⟩

private abbrev again : EntryKey := .ofNames "" "Again"

private def selfCalling : State := hosting [.step (.call (.function "Again") none [] .unit)]

/-- Within a call of the function its table is in use. The call that it makes is busy and leaves the table in use. -/
theorem exclusive_within_call :
    ∃ w, Reachable selfCalling.registry [⟨.call, again⟩] w ∧ w.held = [again] ∧
      ((Caller.ofRunner runProgram).call (.ofName "Again") [] .unit w).1 = .error (.contextBusy "Again") ∧
      ((Caller.ofRunner runProgram).call (.ofName "Again") [] .unit w).2.held = [again] := by
  have hw : Reachable selfCalling.registry [⟨.call, again⟩] (selfCalling.enter again []) := by
    obtain ⟨p, ready, hp⟩ : ∃ p, (Caller.ofRunner runProgram).Ready selfCalling (.ofName "Again") [] .unit p ∧
        (p.entry.key, p.arguments) = (again, []) := Caller.exists_ready (by decide +kernel)
    obtain ⟨hk, hv⟩ := Prod.mk.inj hp
    have begins := Move.call (s := []) _ _ _ _ ready List.not_mem_nil
    rw [hk, hv] at begins
    exact (Reachable.fresh _ _).during (.move .start begins (List.nil_suffix))
  obtain ⟨p, ready, hp⟩ : ∃ p, (Caller.ofRunner runProgram).Ready (selfCalling.enter again []) (.ofName "Again") []
      .unit p ∧ (p.entry.key, p.entry.qualified) = (again, "Again") := Caller.exists_ready (by decide +kernel)
  obtain ⟨hk, hq⟩ := Prod.mk.inj hp
  have hx : Exclusive [⟨.call, again⟩] (selfCalling.enter again []) := tables_used_exclusively hw
  have disciplined := World.execute_disciplined runProgram_disciplined
  have held : (selfCalling.enter again []).held = [again] := hx.holders.1
  refine ⟨_, hw, held, ?_, ?_⟩
  · apply (hx.call_busy _ _ _ _ p ready _).mpr
    rw [hk, hq, held]
    exact ⟨List.mem_singleton_self again, rfl⟩
  · rw [(hx.call_returns HostState.Sealed _ rfl disciplined _ _ _).1, held]

private def complaining : State := hosting [.fail (.contextBusy "Elsewhere")]

/-- A direct call hands on the error of hand-written code, although no table is in use. -/
theorem busy_without_contention :
    Reachable complaining.registry [] complaining ∧ complaining.held = [] ∧
      ∃ e, complaining.registry.find? e.key = some e ∧ e.Accepts (.program [.fail (.contextBusy "Elsewhere")]) [] ∧
        (complaining.invoke runProgram e none []).1 = .error (.contextBusy "Elsewhere") := by
  refine ⟨.fresh _ _, rfl, ?_⟩
  refine ⟨Entry.make "" "Again" (.native (.program [.fail (.contextBusy "Elsewhere")]))
    ⟨⟨"__return", .void, some .unit, .void⟩, []⟩, rfl, ⟨rfl, rfl, rfl⟩, ?_⟩
  decide +kernel

end Sessions

end ScriptBridge
