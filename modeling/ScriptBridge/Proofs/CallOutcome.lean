import ScriptBridge.Proofs.ArgumentKinds
import ScriptBridge.Proofs.Shape

/-! What a call and a direct call come to: the checks they pass, and the one run of the callee that is left of them
where all checks pass and the slot table is free. -/
namespace ScriptBridge
variable {P H : Type}

private theorem Registry.findMethod?_found {r : Registry P} {object : ObjectEntry} {scope name : UInt32} {e : Entry P}
    (h : r.findMethod? object scope name = some e) : ∃ key, r.find? key = some e := by
  unfold findMethod? at h
  split at h
  · obtain ⟨s, -, hs⟩ := List.exists_of_findSome?_eq_some h
    exact ⟨_, hs⟩
  · split at h
    · exact ⟨_, h⟩
    · cases h

namespace Caller
variable {c : Caller P H} {w : World P H} {target : CallTarget} {arguments : List Argument} {result : HostType}

inductive Names (c : Caller P H) (w : World P H) : ObjectRef → ObjectId → Prop where
  | id (id : ObjectId) : Names c w (.named id) id
  | address {address id} (found : c.objects.findByAddress? w.objects w.host address = some id) :
      Names c w (.located address) id

structure Finds (c : Caller P H) (w : World P H) (object : ObjectRef) (scope name : UInt32) (e : Entry P)
    (id : ObjectId) : Prop where
  receiver : c.Names w object id
  method : ∃ o, c.objects.entry? w.objects w.host id = some o ∧ w.registry.findMethod? o scope name = some e

inductive Misses (c : Caller P H) (w : World P H) (scope name : UInt32) (label : String) :
    ObjectRef → String → Prop where
  | address {address} (unknown : c.objects.findByAddress? w.objects w.host address = none) :
      Misses c w scope name label (.located address) ("object at " ++ address.text)
  | id {object id} (receiver : c.Names w object id) (dead : c.objects.entry? w.objects w.host id = none) :
      Misses c w scope name label object ("object " ++ id.text)
  | method {object id o} (receiver : c.Names w object id) (live : c.objects.entry? w.objects w.host id = some o)
      (missing : w.registry.findMethod? o scope name = none) :
      Misses c w scope name label object s!"method '{label}' on object {id.text}"

section Method
variable {object : ObjectRef} {scope name : UInt32} {label : String}

theorem Names.receiver {id : ObjectId} (h : c.Names w object id) : c.receiver w object = .ok id := by
  cases h with
  | id id => rfl
  | address found => simp only [Caller.receiver, found]

private theorem receiver_cases (c : Caller P H) (w : World P H) (object : ObjectRef) :
    (∃ id, c.Names w object id) ∨
      ∃ address, object = .located address ∧ c.objects.findByAddress? w.objects w.host address = none := by
  cases object with
  | named id => exact .inl ⟨id, .id id⟩
  | located address =>
    cases h : c.objects.findByAddress? w.objects w.host address with
    | none => exact .inr ⟨address, rfl, h⟩
    | some id => exact .inl ⟨id, .address h⟩

theorem Finds.resolve {e : Entry P} {id : ObjectId} (h : c.Finds w object scope name e id) (label : String) :
    c.resolve w (.method object scope name label) = .ok (e, id) := by
  obtain ⟨o, live, found⟩ := h.method
  simp only [Caller.resolve, h.receiver.receiver]
  dsimp only [Bind.bind, Except.bind]
  simp only [resolveMethod, live, found]

theorem Misses.resolve {text : String} (h : c.Misses w scope name label object text) :
    c.resolve w (.method object scope name label) = .error (.targetNotFound text) := by
  cases h with
  | address unknown =>
    simp only [Caller.resolve, receiver, unknown]
    rfl
  | id named dead =>
    simp only [Caller.resolve, named.receiver]
    dsimp only [Bind.bind, Except.bind]
    simp only [resolveMethod, dead]
    rfl
  | method named live missing =>
    simp only [Caller.resolve, named.receiver]
    dsimp only [Bind.bind, Except.bind]
    simp only [resolveMethod, live, missing]

/-- Either there is a method and a receiver, or one thing that is missing. -/
theorem finds_or_misses (c : Caller P H) (w : World P H) (object : ObjectRef) (scope name : UInt32) (label : String) :
    (∃ e id, c.Finds w object scope name e id) ∨ ∃ text, c.Misses w scope name label object text := by
  obtain ⟨id, named⟩ | ⟨address, rfl, unknown⟩ := c.receiver_cases w object
  · cases live : c.objects.entry? w.objects w.host id with
    | none => exact .inr ⟨_, .id named live⟩
    | some o =>
      cases found : w.registry.findMethod? o scope name with
      | none => exact .inr ⟨_, .method named live found⟩
      | some e => exact .inl ⟨e, id, named, o, live, found⟩
  · exact .inr ⟨_, .address unknown⟩

theorem finds_of_resolve {e : Entry P} {id : ObjectId}
    (h : c.resolve w (.method object scope name label) = .ok (e, id)) : c.Finds w object scope name e id := by
  obtain ⟨e', id', finds⟩ | ⟨text, misses⟩ := c.finds_or_misses w object scope name label
  · rw [finds.resolve] at h
    cases h
    exact finds
  · rw [misses.resolve] at h
    cases h

end Method

theorem resolve_found {e : Entry P} {object : ObjectId} (h : c.resolve w target = .ok (e, object)) :
    ∃ key, w.registry.find? key = some e := by
  cases target with
  | function name label =>
    simp only [resolve] at h
    split at h
    · rename_i entry found
      cases h
      exact ⟨_, found⟩
    · cases h
  | method receiver scope name label =>
    obtain ⟨o, -, found⟩ := (finds_of_resolve h).method
    exact Registry.findMethod?_found found

theorem resolve_error {e : BindError} (h : c.resolve w target = .error e) : ∃ text, e = .targetNotFound text := by
  cases target with
  | function name label =>
    simp only [resolve] at h
    split at h <;> cases h
    exact ⟨_, rfl⟩
  | method object scope name label =>
    obtain ⟨e', id, finds⟩ | ⟨text, misses⟩ := c.finds_or_misses w object scope name label
    · rw [finds.resolve] at h
      cases h
    · rw [misses.resolve] at h
      cases h
      exact ⟨text, rfl⟩

/-- What stands before the slot table is asked for: a callee, as many arguments as it has parameters, a type of result
that scripts know, and a value for every argument. -/
structure Ready (c : Caller P H) (w : World P H) (target : CallTarget) (arguments : List Argument)
    (result : HostType) (p : PreparedCall P) : Prop where
  resolved : c.resolve w target = .ok (p.entry, p.object)
  arity : arguments.length = p.entry.arity
  kind : p.resultKind = w.registry.kinds.kindOf result
  known : p.resultKind.isRegistered = true
  converted : conversions (c.objects.isLive w.objects w.host) arguments p.entry.signature.params = p.arguments.map some

inductive Rejects (c : Caller P H) (w : World P H) (target : CallTarget) (arguments : List Argument)
    (result : HostType) : BindError → Prop where
  | target {text} (missing : c.resolve w target = .error (.targetNotFound text)) :
      Rejects c w target arguments result (.targetNotFound text)
  | arity {e object} (resolved : c.resolve w target = .ok (e, object)) (differ : arguments.length ≠ e.arity) :
      Rejects c w target arguments result (.arityMismatch e.qualified e.arity arguments.length)
  | resultType {e object} (resolved : c.resolve w target = .ok (e, object)) (arity : arguments.length = e.arity)
      (unknown : (w.registry.kinds.kindOf result).isRegistered = false) :
      Rejects c w target arguments result (.unsupportedReturnType result.label)
  /-- The least argument that does not convert is named, counted from one. -/
  | argument {e object index} (resolved : c.resolve w target = .ok (e, object)) (arity : arguments.length = e.arity)
      (known : (w.registry.kinds.kindOf result).isRegistered = true)
      (bad : (conversions (c.objects.isLive w.objects w.host) arguments e.signature.params)[index]? = some none)
      (least : ∀ j < index, ∃ v,
        (conversions (c.objects.isLive w.objects w.host) arguments e.signature.params)[j]? = some (some v)) :
      Rejects c w target arguments result (.argumentConversionFailed e.qualified (index + 1))
  | busy {p} (ready : c.Ready w target arguments result p) (held : p.entry.key ∈ w.held) :
      Rejects c w target arguments result (.contextBusy p.entry.qualified)

private theorem prepare_of_unresolved {e : BindError} (h : c.resolve w target = .error e) :
    c.prepare w target arguments result = .error e := by
  rw [prepare, prepareSupplied, h]
  rfl

/-- The checks that follow when the callee is found. -/
theorem prepare_of_resolved {e : Entry P} {object : ObjectId} (h : c.resolve w target = .ok (e, object)) :
    c.prepare w target arguments result =
      if arguments.length ≠ e.arity then .error (.arityMismatch e.qualified e.arity arguments.length)
      else if !(w.registry.kinds.kindOf result).isRegistered then .error (.unsupportedReturnType result.label)
      else do
        let values ← convertArguments (c.objects.isLive w.objects w.host) e.qualified 1 arguments e.signature.params
        return ⟨e, object, values, w.registry.kinds.kindOf result⟩ := by
  unfold prepare prepareSupplied Supply.ofList
  rw [h]
  rfl

private theorem attempt_of_error {e : BindError} (h : c.prepare w target arguments result = .error e) :
    c.attempt target arguments result w = (.error e, w) := by
  rw [attempt, h]
  rfl

/-- The checks before the slot table either find the first that fails, or leave a call that is ready. -/
theorem prepare_cases (c : Caller P H) (w : World P H) (target : CallTarget) (arguments : List Argument)
    (result : HostType) :
    (∃ e, c.prepare w target arguments result = .error e ∧ c.Rejects w target arguments result e) ∨
      ∃ p, c.prepare w target arguments result = .ok p ∧ c.Ready w target arguments result p := by
  cases hr : c.resolve w target with
  | error e =>
    obtain ⟨text, rfl⟩ := resolve_error hr
    exact .inl ⟨_, prepare_of_unresolved hr, .target hr⟩
  | ok found =>
    obtain ⟨e, object⟩ := found
    rw [prepare_of_resolved hr]
    split
    · rename_i differ
      exact .inl ⟨_, rfl, .arity hr differ⟩
    · rename_i arity
      have arity := not_not.mp arity
      split
      · rename_i unknown
        exact .inl ⟨_, rfl, .resultType hr arity (by simpa using unknown)⟩
      · rename_i known
        have known : (w.registry.kinds.kindOf result).isRegistered = true := by simpa using known
        obtain ⟨vs, hv, converted⟩ | ⟨i, hv, bad, least⟩ := convertArguments_spec
          (c.objects.isLive w.objects w.host) e.qualified 1 arguments e.signature.params
        · rw [hv]
          exact .inr ⟨_, rfl, hr, arity, rfl, known, converted⟩
        · rw [hv, Nat.add_comm 1 i]
          exact .inl ⟨_, rfl, .argument hr arity known bad least⟩

theorem Ready.prepare {p : PreparedCall P} (h : c.Ready w target arguments result p) :
    c.prepare w target arguments result = .ok p := by
  obtain ⟨e, object, vs, k⟩ := p
  obtain rfl : k = _ := h.kind
  rw [prepare_of_resolved h.resolved, if_neg (not_not.mpr h.arity), if_neg (by simp [h.known]),
    convertArguments_of_conversions _ _ h.converted]
  rfl

private theorem ready_of_prepare {p : PreparedCall P} (h : c.prepare w target arguments result = .ok p) :
    c.Ready w target arguments result p := by
  obtain ⟨e, he, -⟩ | ⟨p', hp, ready⟩ := c.prepare_cases w target arguments result
  · rw [he] at h
    cases h
  · rw [hp] at h
    cases h
    exact ready

theorem exists_ready {α : Type} {f : PreparedCall P → α} {a : α}
    (h : (c.prepare w target arguments result).map f = .ok a) :
    ∃ p, c.Ready w target arguments result p ∧ f p = a := by
  cases hp : c.prepare w target arguments result with
  | error e =>
    rw [hp] at h
    cases h
  | ok p =>
    rw [hp] at h
    cases h
    exact ⟨p, ready_of_prepare hp, rfl⟩

/-- A prepared call is on an entry that stands under its own key and declares the shape of its slot table. -/
theorem Ready.found {p : PreparedCall P} (h : c.Ready w target arguments result p) (hw : Coherent w.registry.entries) :
    w.registry.find? p.entry.key = some p.entry ∧ p.entry.Coherent := by
  obtain ⟨key, found⟩ := resolve_found h.resolved
  obtain ⟨rfl, hc⟩ := hw key p.entry found
  exact ⟨found, hc⟩

theorem Ready.kinds {p : PreparedCall P} (h : c.Ready w target arguments result p) (hw : Coherent w.registry.entries) :
    p.arguments.map SlotValue.kind = p.entry.table.params.map Slot.kind := by
  have hk := kinds_of_conversions h.arity h.converted
  rw [(h.found hw).2] at hk
  exact hk

def finish (c : Caller P H) (p : PreparedCall P) (result : HostType) :
    Bool × World P H → Except BindError result.Carrier × World P H
  | (true, w) => (c.convertResult (w.release p.entry.key) p.entry.qualified p.resultKind result
      (w.resultValue p.entry.key), w.release p.entry.key)
  | (false, w) => (.error (.executionFailed p.entry.qualified), w.release p.entry.key)

end Caller

namespace World

/-- Values of the kinds of the parameter slots are all written. -/
theorem fill_enter {w : World P H} {e : Entry P} {values : List SlotValue} (found : w.registry.find? e.key = some e)
    (hk : values.map SlotValue.kind = e.table.params.map Slot.kind) :
    (w.hold e.key).fill e.key values = (.ok (), w.enter e.key values) ∧
      w.enter e.key values = (w.hold e.key).putTable e.key (e.table.withArguments values) := by
  have ht : (w.hold e.key).table? e.key = some e.table := congrArg (Option.map Entry.table) found
  have hf : (w.hold e.key).fill e.key values =
      (.ok (), (w.hold e.key).putTable e.key (e.table.withArguments values)) := by
    simp only [fill, ht, SlotTable.fill_eq _ _ hk]
  refine ⟨?_, ?_⟩
  · simp only [enter, hf]
  · simp only [enter, hf]

/-- In the state in which code starts, its entry has the arguments in its slots and is the same otherwise. -/
theorem find?_enter {w : World P H} {e : Entry P} {values : List SlotValue} (found : w.registry.find? e.key = some e)
    (hk : values.map SlotValue.kind = e.table.params.map Slot.kind) :
    (w.enter e.key values).registry.find? e.key = some { e with table := e.table.withArguments values } := by
  have hf : (w.hold e.key).registry.find? e.key = some e := found
  rw [(fill_enter found hk).2, find?_putTable, if_pos rfl, hf]
  rfl

theorem locking_held {α : Type} {w : World P H} {e : Entry P} (body : World P H → Except BindError α × World P H)
    (held : e.key ∈ w.held) : w.locking e body = (.error (.contextBusy e.qualified), w) := by
  simp only [locking, if_pos held]

theorem locking_free {α : Type} {w : World P H} {e : Entry P} (body : World P H → Except BindError α × World P H)
    (free : e.key ∉ w.held) :
    w.locking e body = ((body (w.hold e.key)).1, (body (w.hold e.key)).2.release e.key) := by
  simp only [locking, if_neg free]
  rfl

end World

namespace Caller
variable {c : Caller P H} {w : World P H} {target : CallTarget} {arguments : List Argument} {result : HostType}

/-- A call that is ready on a free table is one run of the executor on the table with its arguments. -/
theorem Ready.attempt {p : PreparedCall P} (h : c.Ready w target arguments result p) (hw : Coherent w.registry.entries)
    (free : p.entry.key ∉ w.held) :
    c.attempt target arguments result w =
      c.finish p result (c.executor p.object p.entry.key p.entry.key (w.enter p.entry.key p.arguments)) := by
  have hf := (World.fill_enter (h.found hw).1 (h.kinds hw)).1
  simp only [Caller.attempt, complete, h.prepare, perform, World.locking_free _ free, hf]
  generalize c.executor p.object p.entry.key p.entry.key (w.enter p.entry.key p.arguments) = run
  obtain ⟨_ | _, w'⟩ := run <;> rfl

/-- A rejected call changes nothing. -/
theorem Rejects.attempt {e : BindError} (h : c.Rejects w target arguments result e) :
    c.attempt target arguments result w = (.error e, w) := by
  cases h with
  | target missing => exact attempt_of_error (prepare_of_unresolved missing)
  | arity resolved differ =>
    refine attempt_of_error ?_
    rw [prepare_of_resolved resolved, if_pos differ]
  | resultType resolved arity unknown =>
    refine attempt_of_error ?_
    rw [prepare_of_resolved resolved, if_neg (not_not.mpr arity), if_pos (by simp [unknown])]
  | argument resolved arity known bad least =>
    refine attempt_of_error ?_
    rw [prepare_of_resolved resolved, if_neg (not_not.mpr arity), if_neg (by simp [known]),
      convertArguments_of_least _ _ bad least, Nat.add_comm 1]
    rfl
  | busy ready held => simp only [Caller.attempt, complete, ready.prepare, perform, World.locking_held _ held]

/-- A call is rejected with one error, or it is ready and its table is free. -/
theorem rejects_or_ready (c : Caller P H) (w : World P H) (target : CallTarget) (arguments : List Argument)
    (result : HostType) :
    (∃ e, c.Rejects w target arguments result e) ∨
      ∃ p, c.Ready w target arguments result p ∧ p.entry.key ∉ w.held := by
  obtain ⟨e, -, h⟩ | ⟨p, -, ready⟩ := c.prepare_cases w target arguments result
  · exact .inl ⟨e, h⟩
  · by_cases held : p.entry.key ∈ w.held
    · exact .inl ⟨_, .busy ready held⟩
    · exact .inr ⟨p, ready, held⟩

end Caller

private theorem World.kinds_of_checkKinds {position : Nat} {vs : List SlotValue} {ks : List Kind}
    (hn : vs.length = ks.length) (h : checkKinds position vs ks = .ok ()) : vs.map SlotValue.kind = ks := by
  induction vs generalizing position ks with
  | nil => exact (List.length_eq_zero_iff.mp hn.symm).symm
  | cons v vs ih =>
    cases ks with
    | nil => cases hn
    | cons k ks =>
      rw [checkKinds] at h
      split at h
      · rename_i hk
        exact congrArg₂ List.cons hk (ih (Nat.succ.inj hn) h)
      · cases h

theorem World.checkKinds_error {position : Nat} {vs : List SlotValue} {ks : List Kind} {err : BindError}
    (h : checkKinds position vs ks = .error err) :
    ∃ slot expected found, err = .slotKindMismatch slot expected found := by
  induction vs generalizing position ks with
  | nil => cases h
  | cons v vs ih =>
    cases ks with
    | nil => cases h
    | cons k ks =>
      rw [checkKinds] at h
      split at h
      · exact ih h
      · cases h
        exact ⟨_, _, _, rfl⟩

/-- What a direct call checks before it asks for the slot table: native code, as many values as there are parameters,
and the kinds of their slots. -/
structure Entry.Accepts (e : Entry P) (adapter : Adapter P) (arguments : List SlotValue) : Prop where
  native : e.adapter? = some adapter
  arity : arguments.length = e.arity
  checked : World.checkKinds 1 arguments e.signature.params = .ok ()

theorem Entry.Accepts.kinds {e : Entry P} {adapter : Adapter P} {arguments : List SlotValue}
    (h : e.Accepts adapter arguments) (he : e.Coherent) :
    arguments.map SlotValue.kind = e.table.params.map Slot.kind := by
  have hk := World.kinds_of_checkKinds h.arity h.checked
  rw [he] at hk
  exact hk

namespace World

def finishInvoke (e : Entry P) : Except BindError Unit × World P H → Except BindError SlotValue × World P H
  | (.ok (), w) => (.ok (w.resultValue e.key), w.release e.key)
  | (.error err, w) => (.error err, w.release e.key)

variable {w : World P H} {e : Entry P} {adapter : Adapter P} {arguments : List SlotValue}

/-- A direct call that checks out on a free table is one run of the adapter on the table with its arguments. -/
theorem attemptInvoke_free (run : Runner P H) (receiver : Option (ObjectId × HostObject))
    (h : e.Accepts adapter arguments) (found : w.registry.find? e.key = some e) (he : e.Coherent)
    (free : e.key ∉ w.held) :
    w.attemptInvoke run e receiver arguments =
      finishInvoke e ((w.enter e.key arguments).dispatch run adapter e.key receiver) := by
  have hf := (fill_enter found (h.kinds he)).1
  simp only [attemptInvoke, h.native, h.arity, ne_eq, not_true, if_false, h.checked, locking_free _ free, hf]
  generalize (w.enter e.key arguments).dispatch run adapter e.key receiver = done
  obtain ⟨_ | _, w'⟩ := done <;> rfl

theorem attemptInvoke_held (run : Runner P H) (receiver : Option (ObjectId × HostObject))
    (h : e.Accepts adapter arguments) (held : e.key ∈ w.held) :
    w.attemptInvoke run e receiver arguments = (.error (.contextBusy e.qualified), w) := by
  simp only [attemptInvoke, h.native, h.arity, ne_eq, not_true, if_false, h.checked, locking_held _ held]

/-- A direct call that does not check out fails in any state without asking for the slot table. -/
theorem attemptInvoke_refused (h : ∀ adapter, ¬ e.Accepts adapter arguments) :
    ∃ err, (∀ (run : Runner P H) (receiver : Option (ObjectId × HostObject)) (w : World P H),
      w.attemptInvoke run e receiver arguments = (.error err, w)) ∧ ∀ f, err ≠ .contextBusy f := by
  simp only [attemptInvoke]
  split
  · exact ⟨_, fun _ _ _ => rfl, by simp⟩
  · rename_i adapter native
    split
    · exact ⟨_, fun _ _ _ => rfl, by simp⟩
    · rename_i arity
      cases hk : checkKinds 1 arguments e.signature.params with
      | error err =>
        obtain ⟨slot, expected, found, rfl⟩ := checkKinds_error hk
        exact ⟨_, fun _ _ _ => rfl, by simp⟩
      | ok _ => exact absurd ⟨native, not_not.mp arity, hk⟩ (h adapter)

/-- A direct call either fails and changes nothing, or is one run of an adapter that accepts the arguments. -/
theorem attemptInvoke_cases (run : Runner P H) (receiver : Option (ObjectId × HostObject)) (arguments : List SlotValue)
    (found : w.registry.find? e.key = some e) (he : e.Coherent) :
    (∃ err, w.attemptInvoke run e receiver arguments = (.error err, w)) ∨
      ∃ adapter, e.Accepts adapter arguments ∧ e.key ∉ w.held ∧ w.attemptInvoke run e receiver arguments =
        finishInvoke e ((w.enter e.key arguments).dispatch run adapter e.key receiver) := by
  by_cases accepted : ∃ adapter, e.Accepts adapter arguments
  · obtain ⟨adapter, accepted⟩ := accepted
    by_cases held : e.key ∈ w.held
    · exact .inl ⟨_, attemptInvoke_held run receiver accepted held⟩
    · exact .inr ⟨adapter, accepted, held, attemptInvoke_free run receiver accepted found he held⟩
  · obtain ⟨err, refused, -⟩ := attemptInvoke_refused (not_exists.mp accepted)
    exact .inl ⟨err, refused run receiver w⟩

section Native
variable {run : Runner P H} {id : ObjectId} {key : EntryKey}

theorem adapter_of_found {e : Entry P} {adapter : Adapter P} (found : w.registry.find? key = some e)
    (native : e.adapter? = some adapter) : (w.registry.find? key).bind (·.adapter?) = some adapter := by
  rw [found]
  exact native

def runOn (w : World P H) (run : Runner P H) (adapter : Adapter P) (context : EntryKey) (id : ObjectId)
    (object : HostObject) : Bool × World P H :=
  (((w.borrow id).dispatch run adapter context (some (id, object))).1.toBool,
    ((w.borrow id).dispatch run adapter context (some (id, object))).2.giveBack id)

theorem executeNative_scripted (h : (w.registry.find? key).bind (·.adapter?) = none) (context : EntryKey) :
    w.executeNative run id key context = (false, w) := by
  simp only [executeNative, h]

/-- Native code in the global scope or for the null id runs without a receiver. -/
theorem executeNative_free (native : (w.registry.find? key).bind (·.adapter?) = some adapter)
    (free : id.isNone = true ∨ key.scope = globalScope) (context : EntryKey) :
    w.executeNative run id key context =
      ((w.dispatch run adapter context none).1.toBool, (w.dispatch run adapter context none).2) := by
  simp only [executeNative, native, if_pos free]

/-- Other code runs on its object, if nobody uses that. -/
theorem executeNative_received {object : HostObject} (native : (w.registry.find? key).bind (·.adapter?) = some adapter)
    (received : ¬ (id.isNone = true ∨ key.scope = globalScope)) (available : w.objects.available? id = some object)
    (context : EntryKey) : w.executeNative run id key context = w.runOn run adapter context id object := by
  simp only [executeNative, native, if_neg received, borrowing_some _ available]
  rfl

theorem executeNative_unavailable (received : ¬ (id.isNone = true ∨ key.scope = globalScope))
    (unavailable : w.objects.available? id = none) (context : EntryKey) :
    w.executeNative run id key context = (false, w) := by
  unfold executeNative
  split
  · rfl
  · rw [if_neg received, borrowing_none _ unavailable]
    rfl

end Native

end World
end ScriptBridge
