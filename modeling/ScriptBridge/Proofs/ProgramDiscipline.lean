import ScriptBridge.Proofs.Discipline
import ScriptBridge.Session.Run

/-! Programs keep to the moves of a host once the registry is sealed, however they nest. -/
namespace ScriptBridge.Session

def HostState.Sealed (h : HostState) : Prop := h.builder = none

variable {s : List Activation} {w : State}

private abbrev Fit := HostState.Sealed

/-- An answer takes nothing from the state but what is shown. -/
private theorem answer_keeps {before : State} {o : Reply × State} (h : Keeps Fit s w o.2) :
    Keeps Fit s w (State.answer before o).2 := by
  obtain ⟨reply, w'⟩ := o
  exact h.trans (.elsewhere _ _ h.fit)

theorem giveOut_keeps (hw : w.Sound Fit) (o : Output) : Keeps Fit s w (w.giveOut o) := .elsewhere _ _ hw.fit

theorem withoutOutput_keeps (hw : w.Sound Fit) : Keeps Fit s w w.withoutOutput := .elsewhere _ _ hw.fit

/-- A change of the own table by its setters is within the rules. -/
private theorem onTable_keeps (hw : w.Sound Fit) (a : Activation) (hasReceiver : Bool)
    {change : SlotTable → Except BindError SlotTable}
    (hc : ∀ t t', change t = .ok t' → (∃ i v, t.set i v = .ok t') ∨ t' = t.clear) :
    Keeps Fit (a :: s) w (onTable ⟨a.key, hasReceiver⟩ w change).2 := by
  unfold onTable
  split
  · exact .refl hw
  · rename_i t ht
    split
    · rename_i t' h
      obtain ⟨i, v, hv⟩ | rfl := hc t t' h
      · exact ⟨.single (.write i v (mem_reach_head a s) ht hv), hw.fit⟩
      · exact ⟨.single (.clear (mem_reach_head a s) ht), hw.fit⟩
    · exact .refl hw

private theorem onObjects_keeps (hw : w.Sound Fit) (o : ObjectStep) : Keeps Fit s w (w.onObjects o).2 := by
  cases o with
  | register | remove => exact .elsewhere _ w.journal hw.fit
  | note id name =>
    unfold State.onObjects
    dsimp only
    split
    · exact .refl hw
    · exact .elsewhere w.objects w.journal hw.fit
  | state c id =>
    simp only [State.onObjects, World.borrowingAs_read]
    exact .refl hw
  | _ => exact .refl hw

private theorem onJournal_keeps (hw : w.Sound Fit) (j : JournalStep) : Keeps Fit s w (w.onJournal j).2 := by
  cases j with
  | report d => exact .elsewhere w.objects _ hw.fit
  | status | take =>
    unfold State.onJournal
    dsimp only
    split
    · exact .elsewhere w.objects _ hw.fit
    · exact .refl hw

/-- Looking at, writing and clearing slots under a guard is within the rules. -/
private theorem onSlots_keeps (hw : w.Sound Fit) {key : EntryKey} {entry : Entry Program}
    (found : w.registry.find? key = some entry) (o : SlotStep) : Keeps Fit s w (w.onSlots entry o).2 := by
  have hk : w.registry.find? entry.key = some entry := by
    rw [(hw.coherent key entry found).1]
    exact found
  have ht : (w.hold entry.key).table? entry.key = some entry.table := congrArg (Option.map Entry.table) hk
  have hin : (w.hold entry.key).Sound Fit := ⟨hw.coherent, hw.fit⟩
  cases o with
  | list =>
    unfold State.onSlots
    exact World.guard_keeps hw found (.refl hin)
  | write index value =>
    unfold State.onSlots
    refine World.guard_keeps hw found ?_
    rw [ht, Option.getD_some]
    split
    · rename_i t' h
      exact ⟨.single (.write index value (mem_reach_head ⟨.guard, entry.key⟩ s) ht h), hw.fit⟩
    · exact .refl hin
  | clear =>
    unfold State.onSlots
    refine World.guard_keeps hw found ?_
    rw [ht, Option.getD_some]
    exact ⟨.single (.clear (mem_reach_head ⟨.guard, entry.key⟩ s) ht), hw.fit⟩

mutual

private theorem runInstructions_keeps {again : Runner Program HostState} (ha : again.Disciplined Fit) :
    ∀ (is : List Instruction) (hasReceiver : Bool) (w : State) (a : Activation) (s : List Activation), w.Sound Fit →
      Keeps Fit (a :: s) w (runInstructions again is ⟨a.key, hasReceiver⟩ w).2
  | [], _, w, a, s, hw => .refl hw
  | i :: rest, hasReceiver, w, a, s, hw => by
    have hi := runInstruction_keeps ha i hasReceiver w a s hw
    have hrest := fun w' => runInstructions_keeps ha rest hasReceiver w' a s
    unfold runInstructions
    generalize runInstruction again i ⟨a.key, hasReceiver⟩ w = o at hi ⊢
    obtain ⟨_ | _, w'⟩ := o
    · exact hi
    · exact hi.trans (hrest w' (hi.sound hw))

theorem runInstruction_keeps {again : Runner Program HostState} (ha : again.Disciplined Fit) :
    ∀ (i : Instruction) (hasReceiver : Bool) (w : State) (a : Activation) (s : List Activation), w.Sound Fit →
      Keeps Fit (a :: s) w (runInstruction again i ⟨a.key, hasReceiver⟩ w).2
  | .set slot value, hasReceiver, w, a, s, hw => by
    exact onTable_keeps hw a hasReceiver fun t t' h => .inl ⟨_, _, h⟩
  | .copy source target, hasReceiver, w, a, s, hw => by
    exact onTable_keeps hw a hasReceiver fun t t' h => .inl ⟨_, _, h⟩
  | .sum, hasReceiver, w, a, s, hw => by
    refine onTable_keeps hw a hasReceiver fun t t' h => .inl ?_
    obtain ⟨i, -, h⟩ := bind_eq_ok h
    exact ⟨_, _, h⟩
  | .clear, hasReceiver, w, a, s, hw => by
    refine onTable_keeps hw a hasReceiver fun t t' h => .inr ?_
    cases h
    rfl
  | .dump, hasReceiver, w, a, s, hw => by
    show Keeps Fit (a :: s) w (((w.table? a.key).map fun t => w.giveOut (.slots t)).getD w)
    cases w.table? a.key with
    | none => exact .refl hw
    | some t => exact giveOut_keeps hw _
  | .receiver, hasReceiver, w, a, s, hw => .refl hw
  | .fail e, hasReceiver, w, a, s, hw => .refl hw
  | .step o, hasReceiver, w, a, s, hw => by
    have hstep := runStep_keeps ha o w (a :: s) hw
    unfold runInstruction
    exact hstep.trans (giveOut_keeps (hstep.sound hw) _)

theorem runStep_keeps {again : Runner Program HostState} (ha : again.Disciplined Fit) :
    ∀ (o : Step) (w : State) (s : List Activation), w.Sound Fit → Keeps Fit s w (runStep again o w).2
  | .build b, w, s, hw => by
    unfold runStep
    have hf : w.host.builder = none := hw.fit
    rw [hf]
    exact answer_keeps (withoutOutput_keeps hw)
  | .showBinding b, w, s, hw => answer_keeps (withoutOutput_keeps hw)
  | .inspect i, w, s, hw => answer_keeps (withoutOutput_keeps hw)
  | .objects o, w, s, hw => by
    have h := withoutOutput_keeps (s := s) hw
    exact answer_keeps (h.trans (onObjects_keeps (h.sound hw) o))
  | .journal j, w, s, hw => by
    have h := withoutOutput_keeps (s := s) hw
    exact answer_keeps (h.trans (onJournal_keeps (h.sound hw) j))
  | .publish, w, s, hw => by
    have sealed : w.isSealed = true := Option.isNone_iff_eq_none.mpr hw.fit
    unfold runStep
    rw [if_pos sealed]
    refine answer_keeps ?_
    cases w.host.published with
    | some r => exact withoutOutput_keeps hw
    | none => exact .elsewhere w.objects w.journal hw.fit
  | .published, w, s, hw => answer_keeps (withoutOutput_keeps hw)
  | .call callee scope arguments result, w, s, hw => by
    have h := withoutOutput_keeps (s := s) hw
    refine answer_keeps ?_
    split
    · exact h.trans (Caller.call_keeps (World.execute_disciplined ha) (h.sound hw) _ _ _)
    · exact h
  | .invoke key arguments receiver, w, s, hw => by
    have h := withoutOutput_keeps (s := s) hw
    refine answer_keeps ?_
    split
    · exact h
    · rename_i entry found
      exact h.trans (World.invoke_keeps ha (h.sound hw) found none arguments)
    · rename_i entry id found
      refine h.trans (World.borrowing_keeps (h.sound hw) id fun object w' hr hw' => ?_)
      have found' : w'.registry.find? key = some entry := by
        rw [hr]
        exact found
      exact World.invoke_keeps ha hw' found' _ arguments
  | .execute context key object, w, s, hw => by
    have h := withoutOutput_keeps (s := s) hw
    refine answer_keeps ?_
    split
    · exact h
    · rename_i entry found
      refine h.trans (World.guard_keeps (h.sound hw) found ?_)
      obtain rfl := (hw.coherent context entry found).1
      have hin : (w.withoutOutput.hold entry.key).Sound Fit := ⟨hw.coherent, hw.fit⟩
      exact World.executeNative_disciplined ha object key _ ⟨.guard, entry.key⟩ s hin
  | .slots key o, w, s, hw => by
    have h := withoutOutput_keeps (s := s) hw
    refine answer_keeps ?_
    split
    · exact h
    · rename_i entry found
      exact h.trans (onSlots_keeps (h.sound hw) found o)
  | .holdTable key steps, w, s, hw => by
    have h := withoutOutput_keeps (s := s) hw
    refine answer_keeps ?_
    split
    · exact h
    · rename_i entry found
      refine h.trans (World.guard_keeps (h.sound hw) found ?_)
      exact runSteps_keeps ha steps (w.withoutOutput.hold entry.key) _ ⟨hw.coherent, hw.fit⟩
  | .holdObject id steps, w, s, hw => by
    have h := withoutOutput_keeps (s := s) hw
    exact answer_keeps (h.trans (World.borrowing_keeps (h.sound hw) id fun _ w' _ hw' =>
      runSteps_keeps ha steps w' s hw'))

private theorem runSteps_keeps {again : Runner Program HostState} (ha : again.Disciplined Fit) :
    ∀ (os : List Step) (w : State) (s : List Activation), w.Sound Fit → Keeps Fit s w (runSteps again os w).2
  | [], w, s, hw => .refl hw
  | o :: rest, w, s, hw => by
    have ho := runStep_keeps ha o w s hw
    have hrest := runSteps_keeps ha rest (runStep again o w).2 s (ho.sound hw)
    unfold runSteps
    exact ho.trans hrest

end

/-- Programs keep to the moves of a host, to any depth of nesting. -/
theorem runNested_disciplined (depth : Nat) : (runNested depth).Disciplined HostState.Sealed := by
  induction depth with
  | zero =>
    intro p hasReceiver w a s hw
    exact .refl hw
  | succ depth ih =>
    intro p hasReceiver w a s hw
    exact runInstructions_keeps ih p hasReceiver w a s hw

theorem runProgram_disciplined : runProgram.Disciplined HostState.Sealed :=
  fun p hasReceiver w a s hw => runNested_disciplined _ p hasReceiver w a s hw

/-- So do the steps of a session, once the registry is sealed. -/
theorem steps_keep {s : List Activation} {w : State} (hw : w.Sound HostState.Sealed) (steps : List Step) :
    Keeps HostState.Sealed s w (runSteps runProgram steps w).2 :=
  runSteps_keeps runProgram_disciplined steps w s hw

end ScriptBridge.Session
