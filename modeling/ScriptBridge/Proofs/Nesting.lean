import Mathlib.Data.List.Perm.Subperm
import ScriptBridge.Proofs.NestedRuns

/-! Calls within calls. Active calls are on different entries, so they nest at most as deep as there are entries, and
programs that are finite come to an end, even if they call themselves or each other. -/
namespace ScriptBridge
variable {P H : Type}

private theorem Registry.Alike.isSome_find? {r r' : Registry P} (h : r.Alike r') (key : EntryKey) :
    (r'.find? key).isSome = (r.find? key).isSome := by
  simpa using congrArg Option.isSome (h.entries key)

theorem Registry.Alike.size {r r' : Registry P} (h : r.Alike r') : r'.entries.size = r.entries.size := by
  have same : r'.entries.keys.Perm r.entries.keys := by
    refine (List.perm_ext_iff_of_nodup r'.entries.distinct r.entries.distinct).mpr fun key => ?_
    rw [← Directory.keys, ← Directory.keys, Directory.mem_keys, Directory.mem_keys]
    exact (h.isSome_find? key).congr_left
  simpa [Directory.keys, Directory.size] using same.length_eq

/-- Whatever is active is on an entry of the registry. -/
theorem During.known {base s : List Activation} {w₀ w : World P H} (run : During base w₀ s w)
    (hw : Coherent w₀.registry.entries) (hb : ∀ a ∈ base, (w₀.registry.find? a.key).isSome = true) :
    ∀ a ∈ s, (w₀.registry.find? a.key).isSome = true := by
  induction run with
  | start => exact hb
  | @move s w s' w' before step above ih =>
    have alike := before.alike
    have begin {key : EntryKey} {e : Entry P} (found : w.registry.find? key = some e) :
        (w₀.registry.find? key).isSome = true := by
      rw [← alike.isSome_find?, found]
      rfl
    cases step with
    | write | clear | elsewhere => exact ih
    | call c target arguments result ready free =>
      exact List.forall_mem_cons.mpr ⟨begin (ready.found (alike.coherent hw)).1, ih⟩
    | invoke arguments found | guard found => exact List.forall_mem_cons.mpr ⟨begin found, ih⟩
    | leave => exact fun a ha => ih a (List.mem_cons_of_mem _ ha)
    | drop later guards =>
      refine fun a ha => ih a ?_
      rcases List.mem_append.mp ha with ha | ha
      · exact List.mem_append_left _ ha
      · exact List.mem_append_right _ (List.mem_cons_of_mem _ ha)

namespace Reachable
variable {r : Registry P} {s : List Activation} {w : World P H}

theorem known (h : Reachable r s w) (hr : Coherent r.entries) : ∀ a ∈ s, (r.find? a.key).isSome = true := by
  obtain ⟨w₀, rfl, -, run⟩ := h
  exact run.known hr fun a ha => absurd ha List.not_mem_nil

private theorem subperm (h : Reachable r s w) (hr : Coherent r.entries) :
    (s.map Activation.key).Subperm r.entries.keys := by
  refine h.matches.distinct.subperm fun key hk => ?_
  obtain ⟨a, ha, rfl⟩ := List.mem_map.mp hk
  exact (r.entries.mem_keys a.key).mpr (h.known hr a ha)

/-- There are no more activations than entries. -/
theorem length_le (h : Reachable r s w) (hr : Coherent r.entries) : s.length ≤ r.entries.size := by
  simpa [Directory.keys, Directory.size] using (h.subperm hr).length_le

/-- With as many activations as entries, every slot table is in use. -/
theorem held_of_full (h : Reachable r s w) (hr : Coherent r.entries) (full : s.length = r.entries.size)
    {key : EntryKey} {e : Entry P} (found : w.registry.find? key = some e) : key ∈ w.held := by
  have same := (h.subperm hr).perm_of_length_le (by simp [Directory.keys, Directory.size] at full ⊢; omega)
  rw [h.matches.held, same.mem_iff, Directory.mem_keys]
  have known := h.alike.isSome_find? key
  rw [found] at known
  exact known.symm

/-- Then every call is rejected, and every direct call fails before anything is run. -/
theorem rejects_of_full (h : Reachable r s w) (hr : Coherent r.entries) (full : s.length = r.entries.size)
    (c : Caller P H) (target : CallTarget) (arguments : List Argument) (result : HostType) :
    ∃ e, c.Rejects w target arguments result e := by
  rcases c.rejects_or_ready w target arguments result with rejected | ⟨p, ready, free⟩
  · exact rejected
  · exact absurd (h.held_of_full hr full (ready.found (h.alike.coherent hr)).1) free

private theorem invoke_of_full (h : Reachable r s w) (hr : Coherent r.entries) (full : s.length = r.entries.size)
    (run : Runner P H) {key : EntryKey} {e : Entry P} (found : w.registry.find? key = some e)
    (receiver : Option (ObjectId × HostObject)) (arguments : List SlotValue) :
    ∃ err, w.invoke run e receiver arguments = (.error err, w.report (.ofError err)) := by
  obtain ⟨rfl, he⟩ := h.alike.coherent hr key e found
  rcases World.attemptInvoke_cases run receiver arguments found he with ⟨err, refused⟩ | ⟨adapter, accepted, free, -⟩
  · exact ⟨err, by rw [World.invoke, refused, World.reporting]⟩
  · exact absurd (h.held_of_full hr full found) free

end Reachable

namespace Session

/-- What is evaluated with a runner comes to an outcome by runs of programs that nest to a depth at most. These come to
outcomes themselves, and nothing else decides the outcome, whatever else the runner would do. -/
def Settles : Nat → {α : Type} → (Runner Program HostState → α) → α → Prop
  | 0, _, eval, outcome => ∀ again, eval again = outcome
  | depth + 1, _, eval, outcome =>
    ∃ (asked : Program → Frame → State → Prop) (answer : Runner Program HostState),
      (∀ p f w, asked p f w → Settles depth (fun again => runInstructions again p f w) (answer p f w)) ∧
        ∀ again, (∀ p f w, asked p f w → again p f w = answer p f w) → eval again = outcome

/-- What settles has one outcome. -/
theorem Settles.unique {α : Type} {depth depth' : Nat} {eval : Runner Program HostState → α} {outcome outcome' : α}
    (h : Settles depth eval outcome) (h' : Settles depth' eval outcome') : outcome = outcome' := by
  induction depth generalizing α depth' with
  | zero =>
    cases depth' with
    | zero => exact (h runProgram).symm.trans (h' runProgram)
    | succ depth' =>
      obtain ⟨asked', answer', ends', only'⟩ := h'
      exact (h answer').symm.trans (only' answer' fun _ _ _ _ => rfl)
  | succ depth ih =>
    obtain ⟨asked, answer, ends, only⟩ := h
    cases depth' with
    | zero => exact (only answer fun _ _ _ _ => rfl).symm.trans (h' answer)
    | succ depth' =>
      obtain ⟨asked', answer', ends', only'⟩ := h'
      classical
      -- where both ask for a run, it has one outcome
      let both : Runner Program HostState := fun p f w => if asked p f w then answer p f w else answer' p f w
      refine (only both fun p f w ha => if_pos ha).symm.trans (only' both fun p f w ha' => ?_)
      by_cases ha : asked p f w
      · exact (if_pos ha).trans (ih (ends p f w ha) (ends' p f w ha'))
      · exact if_neg ha

variable {r : Registry Program} {s : List Activation} {w : State} {a : Activation}

/-- The depth to which runs may nest does not matter as long as it leaves room for all the tables not in use. -/
theorem runNested_eq (hr : Coherent r.entries) {n m : Nat} (hw : Reachable r (a :: s) w) (sealed : w.host.Sealed)
    (hn : r.entries.size < n + (a :: s).length) (hm : r.entries.size < m + (a :: s).length) :
    AgreeAt (runNested n) (runNested m) a.key w := by
  induction n generalizing m a s w with
  | zero =>
    have := hw.length_le hr
    omega
  | succ n ih =>
    cases m with
    | zero =>
      have := hw.length_le hr
      omega
    | succ m =>
      intro p hasReceiver
      refine runInstructions_congr (runNested_disciplined m) p hasReceiver w a s ⟨hw.alike.coherent hr, sealed⟩ ?_
      intro b s' w' during above hw'
      have deeper := above.length_le
      refine ih (hw.during during) hw'.fit ?_ ?_ <;> simp only [List.length_cons] at * <;> omega

/-- So it does not matter that programs are run with room for all tables. -/
theorem runProgram_agrees (hr : Coherent r.entries) {n : Nat} (hw : Reachable r (a :: s) w) (sealed : w.host.Sealed)
    (hn : r.entries.size < n + (a :: s).length) : AgreeAt runProgram (runNested n) a.key w := by
  have room : r.entries.size < w.registry.entries.size + 1 + (a :: s).length := by
    rw [hw.alike.size]
    omega
  exact fun p hasReceiver => runNested_eq hr hw sealed room hn p hasReceiver

/-- Programs are run like those within them, with no limit to their nesting. -/
theorem runProgram_unlimited (hr : Coherent r.entries) (hw : Reachable r (a :: s) w) (sealed : w.host.Sealed)
    (p : Program) (hasReceiver : Bool) :
    runProgram p ⟨a.key, hasReceiver⟩ w = runInstructions runProgram p ⟨a.key, hasReceiver⟩ w := by
  refine (runInstructions_congr (runNested_disciplined w.registry.entries.size) p hasReceiver w a s
    ⟨hw.alike.coherent hr, sealed⟩ fun b s' w' during above hw' => ?_).symm
  refine runProgram_agrees hr (hw.during during) hw'.fit ?_
  rw [hw.alike.size, List.length_cons]
  omega

/-- Whatever depends on the programs that it starts only, comes to an outcome with as many programs within each other as
there are tables not in use. -/
theorem settles (hr : Coherent r.entries) {depth : Nat} {α : Type} {eval : Runner Program HostState → α}
    (hw : Reachable r s w) (hd : r.entries.size ≤ depth + s.length)
    (h : ∀ again, AgreeAfter HostState.Sealed again runProgram s w → eval again = eval runProgram) :
    Settles depth eval (eval runProgram) := by
  induction depth generalizing α eval s w with
  | zero =>
    -- all tables are in use, so nothing is started
    refine fun again => h again fun b s' w' during above _ => ?_
    have bound := (hw.during during).length_le hr
    have deeper := above.length_le
    simp only [List.length_cons] at bound
    omega
  | succ depth ih =>
    refine ⟨fun p f w' => ∃ b s', During s w (b :: s') w' ∧ s <:+ s' ∧ w'.Sound HostState.Sealed ∧ f.context = b.key,
      runProgram, ?_, fun again agree => h again ?_⟩
    · rintro p ⟨-, hasReceiver⟩ w' ⟨b, s', during, above, hw', rfl⟩
      rw [runProgram_unlimited hr (hw.during during) hw'.fit p hasReceiver]
      have deeper := above.length_le
      refine ih (hw.during during) (by rw [List.length_cons]; omega) fun again agree => ?_
      exact runInstructions_congr runProgram_disciplined p hasReceiver w' b s' hw' agree
    · exact fun b s' w' during above hw' p hasReceiver => agree p _ w' ⟨b, s', during, above, hw', rfl⟩

structure NestingBounded (r : Registry Program) (s : List Activation) (w : State) : Prop where
  /-- Active calls are on different entries of the registry. -/
  distinct : (s.map Activation.key).Nodup
  known : ∀ a ∈ s, (r.find? a.key).isSome = true
  depth : s.length ≤ r.entries.size
  /-- Within as many calls as there are entries any other call is rejected, and nothing is run for it. -/
  call_rejected : s.length = r.entries.size → ∀ (c : Caller Program HostState) target arguments result,
    ∃ e, c.Rejects w target arguments result e ∧
      c.call target arguments result w = (.error e, w.report (.ofError e))
  invoke_rejected : s.length = r.entries.size → ∀ (run : Runner Program HostState) e receiver arguments,
    w.registry.find? e.key = some e →
      ∃ err, w.invoke run e receiver arguments = (.error err, w.report (.ofError err))
  /-- Within an activation a program runs like those it starts, without a limit of its own. -/
  unlimited : w.host.Sealed → ∀ a s', s = a :: s' → ∀ p hasReceiver,
    runProgram p ⟨a.key, hasReceiver⟩ w = runInstructions runProgram p ⟨a.key, hasReceiver⟩ w
  /-- Every call returns, after runs that nest at most as deep as there are tables not in use. -/
  call_returns : w.host.Sealed → ∀ target arguments result, Settles (r.entries.size - s.length)
    (fun again => (Caller.ofRunner again).call target arguments result w)
    ((Caller.ofRunner runProgram).call target arguments result w)
  invoke_returns : w.host.Sealed → ∀ e receiver arguments, w.registry.find? e.key = some e →
    Settles (r.entries.size - s.length) (fun again => w.invoke again e receiver arguments)
      (w.invoke runProgram e receiver arguments)

/-- In every state that is reached on a sealed registry, whatever programs its functions are and however they call each
other, the nesting of calls is bounded and every call returns. -/
theorem nesting_bounded {config : BindConfig} {history : List (Builder.Operation Program)}
    (hw : Reachable ((Builder.new config).after history).build s w) :
    NestingBounded ((Builder.new config).after history).build s w := by
  have hr : Coherent ((Builder.new config).after history).build.entries := Builder.coherent_after config history
  have coherent := hw.coherent
  have room : ((Builder.new config).after history).build.entries.size ≤
      ((Builder.new config).after history).build.entries.size - s.length + s.length := by
    omega
  constructor
  · exact hw.matches.distinct
  · exact hw.known hr
  · exact hw.length_le hr
  · intro full c target arguments result
    obtain ⟨e, rejected⟩ := hw.rejects_of_full hr full c target arguments result
    exact ⟨e, rejected, rejected.call⟩
  · intro full run e receiver arguments found
    exact hw.invoke_of_full hr full run found receiver arguments
  · rintro sealed a s' rfl p hasReceiver
    exact runProgram_unlimited hr hw sealed p hasReceiver
  · intro sealed target arguments result
    exact settles hr hw room fun again agree => agree.call ⟨coherent, sealed⟩ target arguments result
  · intro sealed e receiver arguments found
    exact settles hr hw room fun again agree => agree.invoke ⟨coherent, sealed⟩ found receiver arguments

section Instance

private def callingOn (name : String) : Program := [.step (.call (.function name) none [] .unit)]

private def pingPong : State :=
  .fresh ((Builder.new .standard).after [.register ⟨"", "Ping", .unit, [], .program (callingOn "Pong"), none⟩,
    .register ⟨"", "Pong", .unit, [], .program (callingOn "Ping"), none⟩]).build ⟨.memory, none, [], none, []⟩

/-- A call of the one returns after a run of the other within it, in which the first is busy. -/
theorem nesting_bounded_pingPong :
    Settles 2 (fun again => (Caller.ofRunner again).call (.ofName "Ping") [] .unit pingPong)
        ((Caller.ofRunner runProgram).call (.ofName "Ping") [] .unit pingPong) ∧
      ((Caller.ofRunner runProgram).call (.ofName "Ping") [] .unit pingPong).1 = .ok () ∧
      ((Caller.ofRunner runProgram).call (.ofName "Ping") [] .unit pingPong).2.journal.kept =
        [.ofError (.contextBusy "Ping")] := by
  have bounded := nesting_bounded (.fresh ((Builder.new .standard).after
    [.register ⟨"", "Ping", .unit, [], .program (callingOn "Pong"), none⟩,
      .register ⟨"", "Pong", .unit, [], .program (callingOn "Ping"), none⟩]).build ⟨.memory, none, [], none, []⟩)
  exact ⟨bounded.call_returns rfl _ _ _, by decide +kernel, by decide +kernel⟩

end Instance

end Session
end ScriptBridge
