import ScriptBridge.Proofs.Routines

/-! What the record of a run tells. Code that keeps to the moves of a host in whatever it does besides its own writes
leaves the own slot table as its writes do: in the result slot is the value stored last, if one was stored. -/
namespace ScriptBridge
variable {P H : Type} {fit : H → Prop} {s t : List Activation} {w w' : World P H} {key : EntryKey}

private theorem reach_subset_append (s t : List Activation) : reach s ⊆ reach (s ++ t) := by
  induction s with
  | nil => exact List.nil_subset _
  | cons a s ih =>
    obtain ⟨use, l⟩ := a
    cases use with
    | guard => exact List.cons_subset_cons l ih
    | _ => exact List.Subset.refl _

/-- What code does on an empty stack it may do on any. -/
private theorem Move.append {s' : List Activation} (step : Move s w s' w') (t : List Activation) :
    Move (s ++ t) w (s' ++ t) w' := by
  cases step with
  | write index value reached table accepted =>
    exact .write index value (reach_subset_append s t reached) table accepted
  | clear reached table => exact .clear (reach_subset_append s t reached) table
  | elsewhere objects journal host => exact .elsewhere objects journal host
  | call c target arguments result ready free => exact .call c target arguments result ready free
  | invoke arguments found accepted free => exact .invoke arguments found accepted free
  | guard found free => exact .guard found free
  | leave => exact .leave
  | @drop s _ key later guards =>
    rw [List.append_assoc, List.append_assoc]
    exact .drop later guards

private theorem Keeps.weaken (h : Keeps fit [] w w') (s : List Activation) : Keeps fit s w w' := by
  have lift {s₁ : List Activation} {w₁ : World P H} (run : During [] w s₁ w₁) : During s w (s₁ ++ s) w₁ := by
    induction run with
    | start => exact .start
    | move _ step _ ih => exact ih.move (step.append s) (List.suffix_append _ _)
  exact ⟨lift h.run, h.fit⟩

private theorem mem_map_of_mem_reach (h : key ∈ reach s) : key ∈ s.map Activation.key := by
  induction s with
  | nil => cases h
  | cons a s ih =>
    obtain ⟨use, l⟩ := a
    cases use with
    | guard =>
      rcases List.mem_cons.mp h with rfl | h
      · exact List.mem_cons_self
      · exact List.mem_cons_of_mem _ (ih h)
    | _ =>
      obtain rfl := List.mem_singleton.mp h
      exact List.mem_cons_self

private structure Spared (key : EntryKey) (s : List Activation) (w w' : World P H) : Prop where
  held : key ∈ w'.held
  apart : key ∉ s.map Activation.key
  table : w'.table? key = w.table? key

namespace Spared
variable {w₀ : World P H}

private theorem begin {a : Activation} (h : Spared key s w₀ w) (free : a.key ∉ w.held)
    (held : w'.held = a.key :: w.held) (table : w'.table? key = w.table? key) : Spared key (a :: s) w₀ w' := by
  refine ⟨?_, ?_, table.trans h.table⟩
  · rw [held]
    exact List.mem_cons_of_mem _ h.held
  · rw [List.map_cons, List.mem_cons, not_or]
    refine ⟨?_, h.apart⟩
    rintro rfl
    exact free h.held

private theorem finish {later : List Activation} {a : Activation} (h : Spared key (later ++ a :: s) w₀ w) :
    Spared key (later ++ s) w₀ (w.release a.key) := by
  have apart := h.apart
  rw [List.map_append, List.map_cons, List.mem_append, List.mem_cons, not_or, not_or] at apart
  refine ⟨(List.mem_erase_of_ne apart.2.1).mpr h.held, ?_, h.table⟩
  rw [List.map_append, List.mem_append, not_or]
  exact ⟨apart.1, apart.2.2⟩

private theorem move {s' : List Activation} (h : Spared key s w₀ w) (step : Move s w s' w') : Spared key s' w₀ w' := by
  have other {l : EntryKey} (reached : l ∈ reach s) : key ≠ l := by
    rintro rfl
    exact h.apart (mem_map_of_mem_reach reached)
  cases step with
  | write index value reached table accepted =>
    refine ⟨h.held, h.apart, ?_⟩
    rw [World.table?_putTable, if_neg (other reached)]
    exact h.table
  | clear reached table =>
    refine ⟨h.held, h.apart, ?_⟩
    rw [World.table?_putTable, if_neg (other reached)]
    exact h.table
  | elsewhere => exact ⟨h.held, h.apart, h.table⟩
  | call c target arguments result ready free =>
    exact h.begin free (w.enter_rest _ _).1 (World.enter_table?_of_held _ free h.held)
  | invoke arguments found accepted free =>
    exact h.begin free (w.enter_rest _ _).1 (World.enter_table?_of_held _ free h.held)
  | guard found free => exact h.begin free rfl rfl
  | leave => exact (show Spared key ([] ++ _) w₀ w from h).finish
  | drop later guards => exact h.finish

end Spared

/-- Moves on an empty stack spare every table that is in use. -/
theorem Keeps.spares (h : Keeps fit [] w w') (held : key ∈ w.held) :
    key ∈ w'.held ∧ w'.table? key = w.table? key := by
  have spared {s : List Activation} {w₁ : World P H} (run : During [] w s w₁) : Spared key s w w₁ := by
    induction run with
    | start => exact ⟨held, List.not_mem_nil, rfl⟩
    | move _ step _ ih => exact ih.move step
  exact ⟨(spared h.run).held, (spared h.run).table⟩

/-- Code that keeps to the moves of a host in all that it does besides writing to its own table, which it does not touch
in any other way. A guard that it holds while it writes there is one guard before and another one after, which nothing in
between can tell. -/
def Routine.Disciplined (fit : H → Prop) : Routine P H → Prop
  | .done _ => True
  | .write _ _ next => ∀ r, (next r).Disciplined fit
  | .clear next => next.Disciplined fit
  | .act effect next => ∀ w : World P H, w.Sound fit → Keeps fit [] w (effect w) ∧ (next w).Disciplined fit

namespace Routine.Disciplined
variable {c : Routine P H}

theorem look {next : World P H → Routine P H} (h : ∀ w : World P H, w.Sound fit → (next w).Disciplined fit) :
    (act id next).Disciplined fit := fun w hw => ⟨.refl hw, h w hw⟩

theorem bind {next : Except BindError Unit → Routine P H} (hc : c.Disciplined fit)
    (hn : ∀ r, (next r).Disciplined fit) : (c.bind next).Disciplined fit := by
  induction c with
  | done result => exact hn result
  | write index value rest ih => exact fun r => ih r (hc r)
  | clear rest ih => exact ih hc
  | act effect rest ih => exact fun w hw => ⟨(hc w hw).1, ih w (hc w hw).2⟩

/-- It keeps to the moves of a host on the table of any activation. -/
theorem keeps (hc : c.Disciplined fit) (hw : w.Sound fit) (a : Activation) (s : List Activation) :
    Keeps fit (a :: s) w (c.exec a.key w).after := by
  induction c generalizing w with
  | done result => exact .refl hw
  | act effect next ih =>
    obtain ⟨here, rest⟩ := hc w hw
    have here := here.weaken (a :: s)
    exact here.trans (ih w rest (here.sound hw))
  | clear next ih =>
    simp only [exec]
    cases ht : w.table? a.key with
    | none => exact ih hc hw
    | some t =>
      have here : Keeps fit (a :: s) w (w.putTable a.key t.clear) :=
        ⟨.single (.clear (mem_reach_head a s) ht), hw.fit⟩
      exact here.trans (ih hc (here.sound hw))
  | write index value next ih =>
    simp only [exec]
    cases ht : w.table? a.key with
    | none => exact ih _ (hc _) hw
    | some t =>
      dsimp only
      cases hs : t.set index value with
      | error e => exact ih _ (hc _) hw
      | ok t' =>
        have here : Keeps fit (a :: s) w (w.putTable a.key t') :=
          ⟨.single (.write index value (mem_reach_head a s) ht hs), hw.fit⟩
        exact here.trans (ih _ (hc _) (here.sound hw))

theorem sound (hc : c.Disciplined fit) (hw : w.Sound fit) : (c.exec key w).after.Sound fit :=
  (hc.keeps hw ⟨.call, key⟩ []).sound hw

end Routine.Disciplined

/-- What a write leaves in the result slot. -/
private theorem SlotTable.result_of_set {t t' : SlotTable} {index : Nat} {v : SlotValue} (h : t.set index v = .ok t') :
    t'.result.value = (if index = 0 then [v] else []).getLast?.getD t.result.value := by
  obtain ⟨rfl, -⟩ := SlotTable.set_eq_ok h
  cases index <;> rfl

/-- A record is right if its parts are. -/
private theorem Recorded.value_following {r : Recorded P H} (earlier : List SlotValue)
    (first : w'.resultValue key = earlier.getLast?.getD (w.resultValue key))
    (rest : r.after.resultValue key = r.stored.getLast?.getD (w'.resultValue key)) :
    (r.following earlier).after.resultValue key = (r.following earlier).stored.getLast?.getD (w.resultValue key) := by
  rw [following_after, rest, first, following, List.getLast?_append]
  cases r.stored.getLast? <;> rfl

/-- The result slot of a table in use holds what the record says: the value stored last, or the one from before. -/
theorem Routine.Disciplined.record {c : Routine P H} (hc : c.Disciplined fit) (hw : w.Sound fit) (held : key ∈ w.held) :
    (c.exec key w).after.resultValue key = (c.exec key w).stored.getLast?.getD (w.resultValue key) := by
  induction c generalizing w with
  | done result => rfl
  | act effect next ih =>
    obtain ⟨here, rest⟩ := hc w hw
    obtain ⟨held', table⟩ := here.spares held
    have same : (effect w).resultValue key = w.resultValue key := by simp only [World.resultValue, table]
    have rest := ih w rest (here.sound hw) held'
    rwa [same] at rest
  | clear next ih =>
    simp only [exec]
    cases ht : w.table? key with
    | none => exact ih hc hw held
    | some t =>
      have hw' : (w.putTable key t.clear).Sound fit :=
        ⟨(World.alike_putTable ht (SlotTable.clear_clear t)).coherent hw.coherent, hw.fit⟩
      exact Recorded.value_following [.void] (World.resultValue_putTable ht _) (ih hc hw' held)
  | write index value next ih =>
    simp only [exec]
    cases ht : w.table? key with
    | none => exact ih _ (hc _) hw held
    | some t =>
      dsimp only
      cases hs : t.set index value with
      | error e => exact ih _ (hc _) hw held
      | ok t' =>
        have hw' : (w.putTable key t').Sound fit :=
          ⟨(World.alike_putTable ht (SlotTable.clear_set hs)).coherent hw.coherent, hw.fit⟩
        have before : w.resultValue key = t.result.value := by
          simp only [World.resultValue, ht, Option.map_some, Option.getD_some]
        refine Recorded.value_following _ ?_ (ih _ (hc _) hw' held)
        rw [World.resultValue_putTable ht, SlotTable.result_of_set hs, before]

section Adapters
variable {body : P → Frame → Routine P H}

private theorem Routine.typed_disciplined {call : SlotTable → World P H → Except BindError SlotValue × World P H}
    (h : ∀ t (w : World P H), w.Sound fit → Keeps fit [] w (call t w).2) : (typed key call).Disciplined fit := by
  refine .look fun w _ => ?_
  split
  · trivial
  · refine fun w hw => ⟨h _ w hw, ?_⟩
    dsimp only
    split
    · trivial
    · exact fun _ => trivial

theorem HostMethod.answer_keeps (m : HostMethod) (name className : String) (receiver : Option (ObjectId × HostObject))
    (t : SlotTable) (hw : w.Sound fit) : Keeps fit [] w (m.answer name className receiver t w).2 := by
  refine ⟨World.putReceiver_during [] w receiver _, ?_⟩
  rw [answer, World.putReceiver_host]
  exact hw.fit

/-- Adapters and executors of them keep to the moves of a host if hand-written code does. -/
theorem Adapter.routine_disciplined (hb : ∀ p f, (body p f).Disciplined fit) (adapter : Adapter P) (key : EntryKey)
    (receiver : Option (ObjectId × HostObject)) : (adapter.routine body key receiver).Disciplined fit := by
  cases adapter with
  | program p => exact hb p _
  | function f => exact Routine.typed_disciplined fun t w hw => .refl hw
  | method m name className => exact Routine.typed_disciplined fun t w hw => m.answer_keeps name className receiver t hw

theorem Routine.native_disciplined (hb : ∀ p f, (body p f).Disciplined fit) (object : ObjectId)
    (key context : EntryKey) : (native body object key context).Disciplined fit := by
  refine .look fun w _ => ?_
  split
  · trivial
  · rename_i adapter native
    split
    · exact adapter.routine_disciplined hb context none
    · split
      · trivial
      · refine fun w hw => ⟨.elsewhere _ w.journal hw.fit, ?_⟩
        refine (adapter.routine_disciplined hb context _).bind fun r w hw => ⟨.elsewhere _ w.journal hw.fit, trivial⟩

theorem Routine.scriptOrNative_disciplined (hb : ∀ p f, (body p f).Disciplined fit) (object : ObjectId)
    (key context : EntryKey) : (scriptOrNative body object key context).Disciplined fit := by
  refine .look fun w _ => ?_
  split
  · exact hb _ _
  · exact native_disciplined hb object key context

theorem Routine.runner_disciplined (hb : ∀ p f, (body p f).Disciplined fit) : (runner body).Disciplined fit :=
  fun p hasReceiver _ a s hw => (hb p ⟨a.key, hasReceiver⟩).keeps hw a s

theorem Routine.executor_disciplined {code : (object : ObjectId) → (key context : EntryKey) → Routine P H}
    (hc : ∀ object key context, (code object key context).Disciplined fit) : (executor code).Disciplined fit :=
  fun object key _ a s hw => (hc object key a.key).keeps hw a s

section Native
variable {object : ObjectId} {context : EntryKey} {adapter : Adapter P}

theorem Routine.exec_native_free (code : (w.registry.find? key).bind (·.adapter?) = some adapter)
    (free : object.isNone = true ∨ key.scope = globalScope) :
    (native body object key context).exec context w = (adapter.routine body context none).exec context w := by
  simp only [native, exec, id_eq, code, if_pos free]

theorem Routine.exec_native_unavailable (code : (w.registry.find? key).bind (·.adapter?) = some adapter)
    (received : ¬ (object.isNone = true ∨ key.scope = globalScope)) (unavailable : w.objects.available? object = none) :
    (native body object key context).exec context w = ⟨.error (.executionFailed "no receiver"), w, []⟩ := by
  simp only [native, exec, id_eq, code, if_neg received, unavailable]

/-- Code on an object leaves what it leaves of the object in use, and then the object is given back. -/
theorem Routine.exec_native_received {receiver : HostObject}
    (code : (w.registry.find? key).bind (·.adapter?) = some adapter)
    (received : ¬ (object.isNone = true ∨ key.scope = globalScope))
    (available : w.objects.available? object = some receiver) :
    (native body object key context).exec context w =
      let r := (adapter.routine body context (some (object, receiver))).exec context (w.borrow object)
      { r with after := r.after.giveBack object } := by
  simp only [native, exec, id_eq, code, if_neg received, available, exec_bind, Recorded.following, List.append_nil]

end Native

/-- Typed code that succeeds has stored one value, which then is in the result slot. -/
theorem Routine.typed_stored {call : SlotTable → World P H → Except BindError SlotValue × World P H}
    (h : ∀ t (w : World P H), w.Sound fit → Keeps fit [] w (call t w).2) (hw : w.Sound fit) (held : key ∈ w.held)
    (ran : ((typed key call).exec key w).result = .ok ()) :
    ∃ v, ((typed key call).exec key w).stored = [v] ∧ ((typed key call).exec key w).after.resultValue key = v := by
  have one : ∃ v, ((typed key call).exec key w).stored = [v] := by
    simp only [typed, exec, id_eq] at ran ⊢
    cases ht : w.table? key with
    | none =>
      rw [ht] at ran
      cases ran
    | some t =>
      rw [ht] at ran
      simp only [exec] at ran ⊢
      cases hv : (call (t.withResult .void) w).1 with
      | error e =>
        rw [hv] at ran
        cases ran
      | ok v =>
        have kept : (call (t.withResult .void) w).2.table? key = some t := ((h _ w hw).spares held).2.trans ht
        simp only [hv, exec, kept] at ran ⊢
        cases hs : t.set 0 v with
        | error e =>
          rw [hs] at ran
          cases ran
        | ok t' => exact ⟨v, rfl⟩
  obtain ⟨v, hv⟩ := one
  refine ⟨v, hv, ?_⟩
  rw [(typed_disciplined h).record hw held, hv]
  rfl

end Adapters

end ScriptBridge
