import ScriptBridge.HostLibrary
import ScriptBridge.Proofs.DirectCalls

/-! Which method a call on an object runs. Its name is looked up along the namespaces of the object, and the entry that
is found is the one whose slots get the arguments and whose code runs. -/
namespace ScriptBridge
variable {P H : Type}

namespace Registry

structure Resolves (r : Registry P) (object : ObjectEntry) (scope name : UInt32) : Prop where
  /-- A scope has to be one of its namespaces, and no other is searched. -/
  inScope : scope ≠ globalScope → r.findMethod? object scope name =
    if scope ∈ object.namespaces then r.find? ⟨scope, name⟩ else none
  /-- Without a scope, the first of its namespaces with such a method has it. -/
  first_iff : scope = globalScope → ∀ e, r.findMethod? object scope name = some e ↔
    ∃ before s after, object.namespaces = before ++ s :: after ∧ r.find? ⟨s, name⟩ = some e ∧
      ∀ s' ∈ before, r.find? ⟨s', name⟩ = none
  none_iff : scope = globalScope →
    (r.findMethod? object scope name = none ↔ ∀ s ∈ object.namespaces, r.find? ⟨s, name⟩ = none)

/-- An entry stands under a name in a namespace of an object, and no namespace that is searched before has one. -/
structure IsMethodOf (r : Registry P) (object : ObjectEntry) (scope name : UInt32) (e : Entry P) : Prop where
  stands : r.find? e.key = some e
  named : e.key.name = name
  member : e.key.scope ∈ object.namespaces
  inScope : scope ≠ globalScope → e.key.scope = scope
  unshadowed : scope = globalScope → ∃ before after, object.namespaces = before ++ e.key.scope :: after ∧
    ∀ s ∈ before, r.find? ⟨s, name⟩ = none

private theorem resolves (r : Registry P) (object : ObjectEntry) (scope name : UInt32) :
    r.Resolves object scope name where
  inScope h := by simp only [findMethod?, if_neg h, ObjectEntry.hasNamespace, List.contains_iff_mem]
  first_iff h e := by rw [findMethod?, if_pos h, List.findSome?_eq_some_iff]
  none_iff h := by rw [findMethod?, if_pos h, List.findSome?_eq_none_iff]

/-- What is found stands under the key that was looked up. -/
theorem findMethod?_isMethodOf {r : Registry P} (hr : Coherent r.entries) {object : ObjectEntry} {scope name : UInt32}
    {e : Entry P} (h : r.findMethod? object scope name = some e) : r.IsMethodOf object scope name e := by
  by_cases hs : scope = globalScope
  · obtain ⟨before, s, after, hchain, found, none⟩ := ((r.resolves object scope name).first_iff hs e).mp h
    have hk : e.key = ⟨s, name⟩ := (hr _ e found).1
    refine ⟨hk ▸ found, congrArg EntryKey.name hk, ?_, fun h => absurd hs h, fun _ => ⟨before, after, ?_, none⟩⟩
    · rw [hk, hchain]
      exact List.mem_append_right before List.mem_cons_self
    · rw [hk, hchain]
  · rw [(r.resolves object scope name).inScope hs] at h
    split at h
    · rename_i member
      have hk : e.key = ⟨scope, name⟩ := (hr _ e h).1
      exact ⟨hk ▸ h, congrArg EntryKey.name hk, hk ▸ member, fun _ => congrArg EntryKey.scope hk, fun h => absurd h hs⟩
    · cases h

end Registry

/-- Executed natively under its own key, an entry runs its own code on its own slot table: without a receiver in the
global scope or for the null id, and otherwise only with the object, as long as nobody uses that. -/
structure World.RunsOwnCode (run : Runner P H) (object : ObjectId) (e : Entry P) (w : World P H) : Prop where
  scripted : e.adapter? = none → w.executeNative run object e.key e.key = (false, w)
  free : ∀ adapter, e.adapter? = some adapter → object.isNone = true ∨ e.key.scope = globalScope →
    w.executeNative run object e.key e.key =
      ((w.dispatch run adapter e.key none).1.toBool, (w.dispatch run adapter e.key none).2)
  received : ∀ adapter receiver, e.adapter? = some adapter → ¬ (object.isNone = true ∨ e.key.scope = globalScope) →
    w.objects.available? object = some receiver →
    w.executeNative run object e.key e.key =
      (((w.borrow object).dispatch run adapter e.key (some (object, receiver))).1.toBool,
        ((w.borrow object).dispatch run adapter e.key (some (object, receiver))).2.giveBack object)
  unavailable : ∀ adapter, e.adapter? = some adapter → ¬ (object.isNone = true ∨ e.key.scope = globalScope) →
    w.objects.available? object = none → w.executeNative run object e.key e.key = (false, w)

/-- Only what stands under the key counts, not its slots. -/
theorem World.runsOwnCode (run : Runner P H) (object : ObjectId) {e e' : Entry P} {w : World P H}
    (found : w.registry.find? e.key = some e') (same : e'.adapter? = e.adapter?) : w.RunsOwnCode run object e where
  scripted h := by
    have none : (w.registry.find? e.key).bind (·.adapter?) = none := by
      rw [found]
      exact same.trans h
    exact executeNative_scripted none e.key
  free _ h free := executeNative_free (adapter_of_found found (same.trans h)) free e.key
  received _ _ h received available :=
    executeNative_received (adapter_of_found found (same.trans h)) received available e.key
  unavailable _ _ received unavailable := executeNative_unavailable received unavailable e.key

namespace Caller

variable {c : Caller P H} {w : World P H} {object : ObjectRef} {scope name : UInt32} {label : String}
  {arguments : List Argument} {result : HostType}

/-- A call fails for want of its target exactly if something is missing. -/
theorem call_misses_iff (hw : Coherent w.registry.entries) (text : String) :
    (c.call (.method object scope name label) arguments result w).1 = .error (.targetNotFound text) ↔
      c.Misses w scope name label object text := by
  rw [call_fails_iff hw]
  constructor
  · intro h
    obtain ⟨missing⟩ := h.rejects trivial
    obtain ⟨e, id, finds⟩ | ⟨text', misses⟩ := c.finds_or_misses w object scope name label
    · rw [finds.resolve] at missing
      cases missing
    · rw [misses.resolve] at missing
      cases missing
      exact misses
  · intro h
    exact .rejected (.target h.resolve)

structure Executes (c : Caller P H) (w : World P H) (object : ObjectRef) (scope name : UInt32) (label : String)
    (arguments : List Argument) (result : HostType) (runs : List (ObjectId × EntryKey × EntryKey)) (e : Entry P)
    (id : ObjectId) (values : List SlotValue) : Prop where
  finds : c.Finds w object scope name e id
  /-- The arguments are in the slots of the method, before anything else happens to them. -/
  populated : (w.enter e.key values).registry.find? e.key = some { e with table := e.table.withArguments values }
  /-- The executor runs once, on the receiver and under the key of the method. -/
  run : (c.recording.call (.method object scope name label) arguments result (w.withHost (w.host, runs))).2.host.2 =
    runs ++ [(id, e.key, e.key)]
  outcome : ∃ p, c.Ready w (.method object scope name label) arguments result p ∧
    p.entry = e ∧ p.object = id ∧ p.arguments = values ∧
    c.call (.method object scope name label) arguments result w =
      World.reporting (c.finish p result (c.executor id e.key e.key (w.enter e.key values)))
  native : ∀ run : Runner P H, (w.enter e.key values).RunsOwnCode run id e

private theorem Ready.executes {p : PreparedCall P}
    (h : c.Ready w (.method object scope name label) arguments result p) (hw : Coherent w.registry.entries)
    (free : p.entry.key ∉ w.held) (runs : List (ObjectId × EntryKey × EntryKey)) :
    c.Executes w object scope name label arguments result runs p.entry p.object p.arguments := by
  have populated := World.find?_enter (h.found hw).1 (h.kinds hw)
  refine ⟨finds_of_resolve h.resolved, populated, ?_, ⟨p, h, rfl, rfl, rfl, h.call hw free⟩,
    fun run => World.runsOwnCode run p.object populated rfl⟩
  rw [h.recording_call runs hw free]
  rfl

/-- A method is found in the first namespace of its object that has one, or in the one asked for. In every reachable
state, a call of a method that is not refused runs the executor once, on the receiver and under the key of the method,
and native execution under that key runs the code of the entry whose slots have the arguments. A call whose receiver or
method is missing is refused for that reason only. -/
theorem method_calls_resolve {config : BindConfig} {history : List (Builder.Operation P)} {s : List Activation}
    (hw : Reachable ((Builder.new config).after history).build s w) (c : Caller P H) (object : ObjectRef)
    (scope name : UInt32) (label : String) (arguments : List Argument) (result : HostType)
    (runs : List (ObjectId × EntryKey × EntryKey)) :
    (∀ (r : Registry P) (o : ObjectEntry), r.Resolves o scope name) ∧
    (∀ (o : ObjectEntry) (e : Entry P), w.registry.findMethod? o scope name = some e →
      w.registry.IsMethodOf o scope name e) ∧
    (∀ text, (c.call (.method object scope name label) arguments result w).1 = .error (.targetNotFound text) ↔
      c.Misses w scope name label object text) ∧
    ((∃ err, c.Rejects w (.method object scope name label) arguments result err ∧
        (c.call (.method object scope name label) arguments result w).1 = .error err ∧
        (c.recording.call (.method object scope name label) arguments result (w.withHost (w.host, runs))).2.host.2 =
          runs) ∨
      ∃ e id values, c.Executes w object scope name label arguments result runs e id values) := by
  have coherent := hw.coherent
  refine ⟨fun r o => r.resolves o scope name, fun o e => Registry.findMethod?_isMethodOf coherent,
    call_misses_iff coherent, ?_⟩
  obtain ⟨err, rejected⟩ | ⟨p, ready, free⟩ :=
    c.rejects_or_ready w (.method object scope name label) arguments result
  · refine .inl ⟨err, rejected, congrArg Prod.fst rejected.call, ?_⟩
    rw [rejected.recording_call]
    rfl
  · exact .inr ⟨_, _, _, ready.executes coherent free runs⟩

section Instance
open HostLibrary

private def labelled : World Empty Unit where
  registry := ((Builder.new .standard).after [.register (.method "Length" textLength)]).build
  held := []
  objects := (ObjectTable.empty.register (.cell 1) ⟨textClass, "abc"⟩ [nameHash "Label", nameHash "Text"]).2
  journal := .empty
  host := ()

private def atOnce : Caller Empty Unit := .native (fun p => p.elim) .ofTable

theorem method_calls_resolve_length :
    (∃ e values, atOnce.Executes labelled (.located (.cell 1)) globalScope (nameHash "Length") "Length" [] .int [] e ⟨1⟩
      values) ∧
    atOnce.Misses labelled globalScope (nameHash "Length") "Length" (.located (.cell 2)) "object at <addr>" := by
  have hw : Reachable _ [] labelled := ⟨labelled, rfl, rfl, .start⟩
  have resolved (object : ObjectRef) :=
    method_calls_resolve hw atOnce object globalScope (nameHash "Length") "Length" [] .int []
  constructor
  · obtain ⟨-, -, -, ⟨err, -, failed, -⟩ | ⟨e, id, values, executes⟩⟩ := resolved (.located (.cell 1))
    · have returned :
          (atOnce.call (.methodOfName (.located (.cell 1)) "Length") [] .int labelled).1 = .ok (3 : Int32) := by
        decide +kernel
      cases returned.symm.trans failed
    · obtain rfl : (⟨1⟩ : ObjectId) = id := by
        cases executes.finds.receiver with
        | address found => exact Option.some.inj found
      exact ⟨e, values, executes⟩
  · exact ((resolved (.located (.cell 2))).2.2.1 _).mp (by decide +kernel)

end Instance

end Caller
end ScriptBridge
