import ScriptBridge.Proofs.ProgramDiscipline
import ScriptBridge.Proofs.Records

/-! Programs as trees of their steps. Everything that holds of the records of trees holds of programs. -/
namespace ScriptBridge.Session

/-- The tree of an instruction. Steps of the host happen around the own table, not on it. -/
def Instruction.routine (again : Runner Program HostState) (f : Frame) : Instruction → Routine Program HostState
  | .set slot value => .write slot value .done
  | .copy source target => .act id fun w =>
    match w.table? f.context with
    | none => .done (.ok ())
    | some t => .write target ((t.value? source).getD .void) .done
  | .sum => .act id fun w =>
    match w.table? f.context with
    | none => .done (.ok ())
    | some t =>
      match sumSlots t.params with
      | .error e => .done (.error e)
      | .ok i => .write 0 (.int i) .done
  | .clear => .clear (.done (.ok ()))
  | .dump =>
    .act (fun w => ((w.table? f.context).map fun t => State.giveOut w (.slots t)).getD w) fun _ => .done (.ok ())
  | .receiver => .done (if f.hasReceiver then .ok () else .error (.missingReceiver "program"))
  | .fail e => .done (.error e)
  | .step s =>
    .act (fun w => State.giveOut (runStep again s w).2 (.answer (runStep again s w).1)) fun _ => .done (.ok ())

def instructionsRoutine (again : Runner Program HostState) (f : Frame) : List Instruction → Routine Program HostState
  | [] => .done (.ok ())
  | i :: rest => (i.routine again f).bind fun
    | .ok () => instructionsRoutine again f rest
    | .error e => .done (.error e)

def programRoutine (p : Program) (f : Frame) : Routine Program HostState :=
  .act id fun w => instructionsRoutine (runNested w.registry.entries.size) f p

section Runs
variable (again : Runner Program HostState) (f : Frame) (w : State)

private theorem runInstruction_eq_exec (i : Instruction) :
    runInstruction again i f w = ((i.routine again f).exec f.context w).outcome := by
  cases i with
  | set slot value =>
    simp only [runInstruction, onTable, Instruction.routine, Routine.exec]
    cases w.table? f.context with
    | none => rfl
    | some t =>
      dsimp only
      cases t.set slot value <;> rfl
  | copy source target =>
    simp only [runInstruction, onTable, Instruction.routine, Routine.exec, id_eq]
    cases ht : w.table? f.context with
    | none => rfl
    | some t =>
      simp only [Routine.exec, ht]
      cases t.set target ((t.value? source).getD .void) <;> rfl
  | sum =>
    simp only [runInstruction, onTable, Instruction.routine, Routine.exec, id_eq]
    cases ht : w.table? f.context with
    | none => rfl
    | some t =>
      dsimp only
      cases sumSlots t.params with
      | error e => rfl
      | ok i =>
        simp only [Routine.exec, ht, bind, Except.bind, SlotTable.setResult]
        cases t.set 0 (.int i) <;> rfl
  | clear =>
    simp only [runInstruction, onTable, Instruction.routine, Routine.exec]
    cases w.table? f.context <;> rfl
  | dump | receiver | fail | step => rfl

private theorem runInstructions_eq_exec (is : List Instruction) :
    runInstructions again is f w = ((instructionsRoutine again f is).exec f.context w).outcome := by
  induction is generalizing w with
  | nil => rfl
  | cons i rest ih =>
    simp only [runInstructions, instructionsRoutine, Routine.exec_bind, runInstruction_eq_exec]
    generalize (i.routine again f).exec f.context w = r
    obtain ⟨_ | _, after, stored⟩ := r
    · rfl
    · exact ih after

/-- A program runs as its tree does. -/
theorem runProgram_eq_runner : runProgram = Routine.runner programRoutine := by
  funext p f w
  exact runInstructions_eq_exec _ f w p

end Runs

private theorem Instruction.routine_disciplined {again : Runner Program HostState}
    (ha : again.Disciplined HostState.Sealed) (i : Instruction) (f : Frame) :
    (i.routine again f).Disciplined HostState.Sealed := by
  cases i with
  | set slot value => exact fun _ => trivial
  | copy source target =>
    refine .look fun w _ => ?_
    split
    · trivial
    · exact fun _ => trivial
  | sum =>
    refine .look fun w _ => ?_
    split
    · trivial
    · split
      · trivial
      · exact fun _ => trivial
  | dump =>
    refine fun w hw => ⟨?_, trivial⟩
    dsimp only
    cases w.table? f.context with
    | none => exact .refl hw
    | some t => exact giveOut_keeps hw _
  | step s =>
    refine fun w hw => ⟨?_, trivial⟩
    have step := runStep_keeps ha s w [] hw
    exact step.trans (giveOut_keeps (step.sound hw) _)
  | clear | receiver | fail => trivial

/-- Besides its writes a program keeps to the moves of a host. -/
theorem programRoutine_disciplined (p : Program) (f : Frame) :
    (programRoutine p f).Disciplined HostState.Sealed := by
  refine .look fun w _ => ?_
  have ha := runNested_disciplined w.registry.entries.size
  induction p with
  | nil => trivial
  | cons i rest ih =>
    refine (i.routine_disciplined ha f).bind fun r => ?_
    cases r with
    | ok => exact ih
    | error e => trivial

end ScriptBridge.Session
