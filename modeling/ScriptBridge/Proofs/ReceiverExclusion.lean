import ScriptBridge.HostLibrary
import ScriptBridge.Proofs.MethodResolution
import ScriptBridge.Proofs.ObjectUse
import ScriptBridge.Proofs.ProgramDiscipline

/-! Exclusive use of objects, however methods and code of the host nest. The objects in use are those of the uses in
progress, each of one use only. Nobody else gets to them before that use has ended, and everybody gets to the others. -/
namespace ScriptBridge
open ObjectTable (Course Event)
variable {P H : Type}

namespace ObjectTable
variable {t : ObjectTable} {id : ObjectId}

private theorem contains_apply {e : Event} (here : t.contains id = true) (kept : ∀ c, e ≠ .remove c id) :
    (t.apply e).contains id = true := by
  cases e with
  | borrow | giveBack => exact here
  | put l object => exact (Directory.isSome_find?_modify ..).trans here
  | register address object namespaces =>
    change ((t.records.insert ⟨t.lastId + 1⟩ ⟨object, namespaces, address⟩).find? id).isSome = true
    rw [Directory.find?_insert]
    split
    · rfl
    · exact here
  | remove c l =>
    have other : id ≠ l := by
      rintro rfl
      exact kept c rfl
    change ((t.remove c l).2.records.find? id).isSome = true
    rw [find?_remove, if_neg other]
    exact here

/-- Only a removal takes an object out of the table. -/
theorem contains_after {events : List Event} (here : t.contains id = true) (kept : ∀ c, .remove c id ∉ events) :
    (t.after events).contains id = true := by
  induction events generalizing t with
  | nil => exact here
  | cons e rest ih =>
    refine ih (contains_apply here fun c he => kept c ?_) fun c hc => kept c (List.mem_cons_of_mem e hc)
    rw [he]
    exact List.mem_cons_self

private theorem available?_used (used : id ∈ t.borrowed) : t.available? id = none := by rw [available?, if_pos used]

private theorem available?_unused {r : ObjectRecord} (unused : id ∉ t.borrowed) (found : t.records.find? id = some r) :
    t.available? id = some r.object := by
  rw [available?, if_neg unused, found]
  rfl

private theorem contains_of_available {object : HostObject} (h : t.available? id = some object) :
    t.contains id = true := by
  unfold available? at h
  split at h
  · cases h
  · obtain ⟨r, found, -⟩ := Option.map_eq_some_iff.mp h
    rw [contains, Directory.contains, found, Option.isSome_some]

end ObjectTable

namespace Caller

structure GetsTo (c : Caller P H) (w : World P H) (target : CallTarget) (arguments : List Argument) (result : HostType)
    (p : PreparedCall P) (id : ObjectId) : Prop where
  ready : c.Ready w target arguments result p
  free : p.entry.key ∉ w.held
  object : p.object = id
  received : ¬ (id.isNone = true ∨ p.entry.key.scope = globalScope)

variable {run : Runner P H} {objects : ObjectRegistry H} {w : World P H} {target : CallTarget}
  {arguments : List Argument} {result : HostType} {p : PreparedCall P} {id : ObjectId}

/-- The state that a call of a method leaves if nothing was executed: its arguments were written and its failure
reported. -/
def refused (w : World P H) (p : PreparedCall P) : World P H :=
  ((w.enter p.entry.key p.arguments).release p.entry.key).report (.ofError (.executionFailed p.entry.qualified))

private theorem GetsTo.call_unavailable (h : (native run objects).GetsTo w target arguments result p id)
    (hw : Coherent w.registry.entries) (unavailable : w.objects.available? id = none) :
    (native run objects).call target arguments result w =
      (.error (.executionFailed p.entry.qualified), refused w p) := by
  have same := (w.enter_rest p.entry.key p.arguments).2.1
  have failed : (native run objects).run p w = (false, w.enter p.entry.key p.arguments) := by
    obtain rfl := h.object
    refine World.executeNative_unavailable h.received ?_ p.entry.key
    rw [same]
    exact unavailable
  rw [h.ready.call hw h.free, failed]
  rfl

private theorem GetsTo.call_available {adapter : Adapter P} {object : HostObject}
    (h : (native run objects).GetsTo w target arguments result p id) (hw : Coherent w.registry.entries)
    (code : p.entry.adapter? = some adapter) (available : w.objects.available? id = some object) :
    (native run objects).call target arguments result w = World.reporting ((native run objects).finish p result
      ((w.enter p.entry.key p.arguments).runOn run adapter p.entry.key id object)) := by
  have same := (w.enter_rest p.entry.key p.arguments).2.1
  have ran : (native run objects).run p w =
      (w.enter p.entry.key p.arguments).runOn run adapter p.entry.key id object := by
    obtain rfl := h.object
    have populated := World.find?_enter (h.ready.found hw).1 (h.ready.kinds hw)
    refine World.executeNative_received (World.adapter_of_found populated code) h.received ?_ p.entry.key
    rw [same]
    exact available
  rw [h.ready.call hw h.free, ran]

end Caller

namespace World

/-- Nobody gets to an object that is in use. Whatever would have run on it does not, and no object changes. -/
structure Shut (w : World P H) (id : ObjectId) : Prop where
  any : ∀ {α : Type} (body : HostObject → World P H → α × World P H), w.borrowing id body = (none, w)
  typed : ∀ {α : Type} (c : HostClass) (body : c.State → World P H → α × World P H),
    w.borrowingAs c id body = (none, w)
  executed : ∀ (run : Runner P H) key context, ¬ (id.isNone = true ∨ key.scope = globalScope) →
    w.executeNative run id key context = (false, w)
  called : ∀ (run : Runner P H) objects target arguments result p,
    (Caller.native run objects).GetsTo w target arguments result p id →
    (Caller.native run objects).call target arguments result w =
        (.error (.executionFailed p.entry.qualified), Caller.refused w p) ∧
      (Caller.refused w p).objects = w.objects

/-- An object that is not in use is there for everybody, for as long as the table holds it. -/
structure Unused (w : World P H) (id : ObjectId) : Prop where
  any : ∀ r, w.objects.records.find? id = some r → ∀ {α : Type} (body : HostObject → World P H → α × World P H),
    w.borrowing id body = (some (body r.object (w.borrow id)).1, (body r.object (w.borrow id)).2.giveBack id)
  typed : ∀ r, w.objects.records.find? id = some r → ∀ (c : HostClass) state, r.object.stateOf? c = some state →
    ∀ {α : Type} (body : c.State → World P H → α × World P H),
      w.borrowingAs c id body = (some (body state (w.borrow id)).1, (body state (w.borrow id)).2.giveBack id)
  executed : ∀ r, w.objects.records.find? id = some r → ∀ (run : Runner P H) key context adapter,
    ¬ (id.isNone = true ∨ key.scope = globalScope) → (w.registry.find? key).bind (·.adapter?) = some adapter →
      w.executeNative run id key context = w.runOn run adapter context id r.object
  called : ∀ r, w.objects.records.find? id = some r → ∀ (run : Runner P H) objects target arguments result p adapter,
    (Caller.native run objects).GetsTo w target arguments result p id → p.entry.adapter? = some adapter →
      (Caller.native run objects).call target arguments result w =
        World.reporting ((Caller.native run objects).finish p result
          ((w.enter p.entry.key p.arguments).runOn run adapter p.entry.key id r.object))

/-- The uses `s` are in progress, each of an object of its own, and these objects are in use and no others. -/
structure UsedBy (w : World P H) (s : List ObjectId) : Prop where
  holders : w.objects.borrowed = s ∧ s.Nodup
  shut : ∀ id ∈ s, w.Shut id
  others : ∀ id ∉ s, w.Unused id

variable {w w' : World P H} {s s' : List ObjectId} {id : ObjectId}

private theorem shut (hw : Coherent w.registry.entries) (used : id ∈ w.objects.borrowed) : w.Shut id := by
  have unavailable := ObjectTable.available?_used used
  constructor
  · intro α body
    exact borrowing_none body unavailable
  · intro α c body
    exact borrowingAs_none body unavailable
  · intro run key context received
    exact executeNative_unavailable received unavailable context
  · intro run objects target arguments result p h
    exact ⟨h.call_unavailable hw unavailable, (w.enter_rest p.entry.key p.arguments).2.1⟩

private theorem unused (hw : Coherent w.registry.entries) (unused : id ∉ w.objects.borrowed) : w.Unused id := by
  constructor
  · intro r found α body
    exact borrowing_some body (ObjectTable.available?_unused unused found)
  · intro r found c state hc α body
    exact borrowingAs_some body (ObjectTable.available?_unused unused found) hc
  · intro r found run key context adapter received native
    exact executeNative_received native received (ObjectTable.available?_unused unused found) context
  · intro r found run objects target arguments result p adapter h code
    exact h.call_available hw code (ObjectTable.available?_unused unused found)

private theorem usedBy (hw : Coherent w.registry.entries) (hb : w.objects.borrowed = s) (distinct : s.Nodup) :
    w.UsedBy s := by
  subst hb
  exact ⟨⟨rfl, distinct⟩, fun id used => shut hw used, fun id free => unused hw free⟩

def Using (w : World P H) (s : List ObjectId) : Prop :=
  ∃ events, Course [] .empty events s ∧ w.objects = ObjectTable.empty.after events

namespace Using

theorem fresh (r : Registry P) (host : H) : (World.fresh r host).Using [] := ⟨[], .start, rfl⟩

theorem borrowed (h : w.Using s) : w.objects.borrowed = s := by
  obtain ⟨events, course, hw⟩ := h
  rw [hw, course.borrowed rfl]

theorem nodup (h : w.Using s) : s.Nodup := by
  obtain ⟨events, course, -⟩ := h
  exact course.nodup rfl List.nodup_nil

private theorem passes {events : List Event} (h : w.Using s) (j : w.Passes s events s' w') : w'.Using s' := by
  obtain ⟨before, course, hw⟩ := h
  obtain ⟨course', hw'⟩ := j
  rw [hw] at course' hw'
  refine ⟨before ++ events, course.trans course', ?_⟩
  rw [hw', ObjectTable.after_after]

private theorem uses (h : w.Using s) (j : Uses w w') : w'.Using s := by
  obtain ⟨events, passes⟩ := j
  rw [h.borrowed] at passes
  exact h.passes passes

/-- A use begins. -/
theorem borrow {object : HostObject} (h : w.Using s) (available : w.objects.available? id = some object) :
    (w.borrow id).Using (id :: s) := by
  have begun : w.Passes s [.borrow id] (id :: s) (w.borrow id) := ⟨Course.start.borrow available, rfl⟩
  exact h.passes begun

/-- The latest use ends. -/
theorem giveBack (h : w.Using (id :: s)) : (w.giveBack id).Using s := by
  obtain ⟨events, course, hw⟩ := h
  refine ⟨events ++ [.giveBack id], course.giveBack (List.nil_suffix), ?_⟩
  rw [ObjectTable.after_append, ← hw]
  rfl

end Using

structure UsedAlone (r : Registry P) (w : World P H) (s : List ObjectId) (id : ObjectId) (object : HostObject) :
    Prop where
  /-- While it lasts, whatever its code has come to, the object is one of those in use. -/
  lasts : ∀ events s' a w', (w.borrow id).Passes (id :: s) events s' w' → Reachable r a w' → id ∈ s' ∧ w'.UsedBy s'
  /-- When it ends, the objects in use are those from before, and the table holds the object unless it was removed. -/
  ended : ∀ events a w', (w.borrow id).Passes (id :: s) events (id :: s) w' → Reachable r a w' →
    (w'.giveBack id).UsedBy s ∧ id ∉ s ∧
      ((∀ c, .remove c id ∉ events) → (w'.giveBack id).objects.contains id = true)
  /-- The code of a method, which may call others, has ended all other uses at its own end, be it a failure. -/
  method : ∀ run : Runner P H, run.EndsUses → ∀ adapter context, ∃ events,
    (w.borrow id).Passes (id :: s) events (id :: s) ((w.borrow id).dispatch run adapter context (some (id, object))).2

structure UsedExclusively (r : Registry P) (w : World P H) (s : List ObjectId) : Prop where
  now : w.UsedBy s
  next : ∀ id object, w.objects.available? id = some object → w.UsedAlone r s id object
  /-- Executions and calls leave the same objects in use, whether they succeed or fail. -/
  executed : ∀ run : Runner P H, run.EndsUses → ∀ id key context, (w.executeNative run id key context).2.Using s
  called : ∀ c : Caller P H, c.executor.EndsUses → ∀ target arguments result,
    (c.call target arguments result w).2.Using s
  invoked : ∀ run : Runner P H, run.EndsUses → ∀ e receiver arguments, (w.invoke run e receiver arguments).2.Using s
  /-- So does code of the host that uses an object itself, if it ends the uses that it begins. -/
  held : ∀ {α : Type} id (body : HostObject → World P H → α × World P H),
    (∀ object, Uses (w.borrow id) (body object (w.borrow id)).2) → (w.borrowing id body).2.Using s

variable {config : BindConfig} {history : List (Builder.Operation P)} {a : List Activation} {object : HostObject}

private theorem Using.usedBy (h : w.Using s) (hw : Reachable ((Builder.new config).after history).build a w) :
    w.UsedBy s :=
  World.usedBy hw.coherent h.borrowed h.nodup

private theorem Using.usedAlone (h : w.Using s) (available : w.objects.available? id = some object) :
    w.UsedAlone ((Builder.new config).after history).build s id object where
  lasts events s' a w' passes hw' :=
    ⟨passes.1.mem List.mem_cons_self, ((h.borrow available).passes passes).usedBy hw'⟩
  ended events a w' passes hw' := by
    have inside := (h.borrow available).passes passes
    refine ⟨World.usedBy hw'.coherent inside.giveBack.borrowed inside.giveBack.nodup,
      (List.nodup_cons.mp inside.nodup).1, fun kept => ?_⟩
    have here := ObjectTable.contains_of_available available
    have there := ObjectTable.contains_after (t := (w.borrow id).objects) here kept
    rwa [← passes.2] at there
  method run hr adapter context := by
    have ended := dispatch_uses hr adapter context (some (id, object)) (w.borrow id)
    rw [Uses, (h.borrow available).borrowed] at ended
    exact ended

end World

/-- Objects are used exclusively in every state that a host reaches on a sealed registry. While a method or code of the
host uses an object, every other attempt to get to it fails, and every object that nobody uses can be got at. -/
theorem receivers_used_exclusively {config : BindConfig} {history : List (Builder.Operation P)} {a : List Activation}
    {w : World P H} {s : List ObjectId} (hw : Reachable ((Builder.new config).after history).build a w)
    (hs : w.Using s) : w.UsedExclusively ((Builder.new config).after history).build s where
  now := hs.usedBy hw
  next _ _ available := hs.usedAlone available
  executed _ hr id key context := hs.uses (World.executeNative_endsUses hr id key context w)
  called _ hc target arguments result := hs.uses (Caller.call_uses hc target arguments result w)
  invoked _ hr e receiver arguments := hs.uses (World.invoke_uses hr e receiver arguments w)
  held _ _ ends := hs.uses (World.borrowing_uses ends)

section Sessions
open Session HostLibrary

private def getCount : Binding Program := .method "Get" ⟨counterClass, [], .int, .shared fun n _ => n⟩

private def counting : State :=
  .fresh ((Builder.new .standard).after [.register getCount]).build ⟨.memory, none, [], none, []⟩

private def addCounters : List Step :=
  [.objects (.register ⟨counterClass, (7 : Int32)⟩ none), .objects (.register ⟨counterClass, (5 : Int32)⟩ none)]

private def firstHeld : State := (runSteps runProgram addCounters counting).2.borrow ⟨1⟩

/-- A method of the first counter does not run. The second one is there, and so is the first once it is given back. -/
theorem receivers_used_exclusively_counters :
    ((Caller.native runProgram .ofTable).call (.methodOfName (.named ⟨1⟩) "Get") [] .int firstHeld).1 =
      .error (.executionFailed "Counter::Get") ∧
    (firstHeld.borrowing ⟨2⟩ fun object w => (object.boxed, w)).1 = some (.int 5) ∧
    (firstHeld.giveBack ⟨1⟩).UsedBy [] := by
  have sound : counting.Sound HostState.Sealed := ⟨Builder.coherent_after _ _, rfl⟩
  have reached : Reachable ((Builder.new .standard).after [.register getCount]).build []
      (runSteps runProgram addCounters counting).2 := (Reachable.fresh _ _).during (steps_keep sound addCounters).run
  have unheld : (runSteps runProgram addCounters counting).2.Using [] :=
    (World.Using.fresh _ _).uses (runSteps_uses runProgram_endsUses addCounters counting)
  have available : (runSteps runProgram addCounters counting).2.objects.available? ⟨1⟩ =
    some ⟨counterClass, (7 : Int32)⟩ := rfl
  have held : Reachable ((Builder.new .standard).after [.register getCount]).build [] firstHeld :=
    reached.during (.single (.elsewhere _ _ _))
  have before := receivers_used_exclusively reached unheld
  have within : firstHeld.UsedExclusively _ [⟨1⟩] := receivers_used_exclusively held (unheld.borrow available)
  obtain ⟨p, ready, hp⟩ : ∃ p, (Caller.native runProgram .ofTable).Ready firstHeld
      (.methodOfName (.named ⟨1⟩) "Get") [] .int p ∧ (p.entry.key, p.object, p.entry.qualified) =
        (.ofNames "Counter" "Get", ⟨1⟩, "Counter::Get") := Caller.exists_ready (by decide +kernel)
  obtain ⟨hk, ho, hq⟩ : p.entry.key = .ofNames "Counter" "Get" ∧ p.object = ⟨1⟩ ∧
      p.entry.qualified = "Counter::Get" := by simpa using hp
  refine ⟨?_, ?_, ?_⟩
  · have gets : (Caller.native runProgram .ofTable).GetsTo firstHeld (.methodOfName (.named ⟨1⟩) "Get") [] .int p
        ⟨1⟩ := by
      refine ⟨ready, List.not_mem_nil, ho, ?_⟩
      rw [hk]
      decide +kernel
    rw [((within.now.shut _ List.mem_cons_self).called _ _ _ _ _ p gets).1, hq]
  · rw [(within.now.others ⟨2⟩ (by decide)).any _ rfl]
    rfl
  · exact ((before.next _ _ available).ended [] [] firstHeld ⟨.start, rfl⟩ held).1

end Sessions
end ScriptBridge
