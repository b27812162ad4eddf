import ScriptBridge.HostLibrary
import ScriptBridge.Proofs.CallOrder
import ScriptBridge.Proofs.TypedDispatch

/-! Calls of typed native code from end to end. The arguments as converted are the native arguments, the code is
applied to them, and its result is converted to the type asked for. -/
namespace ScriptBridge

namespace HostType

def Plain : HostType → Prop
  | .int | .float | .bool | .string | .object | .vector => True
  | _ => False

variable {t : HostType} {v : SlotValue}

private theorem Plain.exists_box (h : t.Plain) (hk : v.kind = KindMap.builtIn.kindOf t) : ∃ a, t.box a = v := by
  cases t <;> first | exact h.elim | skip
  all_goals
    cases v <;> first | exact ⟨_, rfl⟩ | nomatch hk

private theorem box_kind (h : t.Plain ∨ t = .unit ∨ t = .literal) (a : t.Carrier) :
    (t.box a).kind = KindMap.builtIn.kindOf t := by
  rcases h with h | rfl | rfl
  · cases t <;> first | exact h.elim | rfl
  · rfl
  · rfl

/-- A value converted to the kind of a requested type is one of that type. -/
theorem exists_unbox (h : t.Plain ∨ t = .unit) (hk : v.kind = KindMap.builtIn.kindOf t) : ∃ r, t.unbox v = .ok r := by
  rcases h with h | rfl
  · obtain ⟨a, rfl⟩ := h.exists_box hk
    exact ⟨a, t.unbox_box a⟩
  · exact ⟨(), rfl⟩

end HostType

/-- Values of the kinds of plain parameters are native arguments. -/
theorem exists_boxArguments {ts : List HostType} {vs : List SlotValue} (h : ∀ t ∈ ts, t.Plain)
    (hk : vs.map SlotValue.kind = ts.map KindMap.builtIn.kindOf) : ∃ as : Arguments ts, boxArguments ts as = vs := by
  induction ts generalizing vs with
  | nil => exact ⟨(), (List.map_eq_nil_iff.mp hk).symm⟩
  | cons t ts ih =>
    obtain ⟨v, vs, rfl, hv, hvs⟩ := List.map_eq_cons_iff.mp hk
    obtain ⟨a, rfl⟩ := (h t List.mem_cons_self).exists_box hv
    obtain ⟨as, rfl⟩ := ih (fun t ht => h t (List.mem_cons_of_mem _ ht)) hvs
    exact ⟨(a, as), rfl⟩

namespace SlotTable

/-- The slots of a native signature have the kinds of its types. -/
theorem ofSignature_kinds {kinds : KindMap} {result : HostType} {params : List HostType} {t : SlotTable}
    (h : ofSignature kinds result params = .ok t) :
    t.result.kind = kinds.kindOf result ∧ t.params.map Slot.kind = params.map kinds.kindOf := by
  obtain ⟨-, -, rfl⟩ := ofSignature_eq_ok_iff.mp h
  exact ⟨rfl, map_kind_nativeLayout kinds result params⟩

end SlotTable

/-- The entry of a binding that was registered under a kind mapping, whatever its slots hold and with whatever default
record. -/
structure Entry.Of {P : Type} (e : Entry P) (b : Binding P) (kinds : KindMap) : Prop where
  scope : e.scope = b.scope
  name : e.name = b.name
  behaviour : e.behaviour = .native b.adapter
  shape : ∃ table, SlotTable.ofSignature kinds b.returnType b.params = .ok table ∧ e.table.clear = table.clear

namespace Entry.Of
variable {P : Type} {e e' : Entry P} {b : Binding P} {kinds : KindMap}

theorem of_blank (h : e.Of b kinds) (he : e'.blank = e.blank) : e'.Of b kinds := by
  obtain ⟨table, ht, hc⟩ := h.shape
  exact ⟨(congrArg Entry.scope he :).trans h.scope, (congrArg Entry.name he :).trans h.name,
    (behaviour_of_blank he).trans h.behaviour, table, ht, (clear_of_blank he).trans hc⟩

theorem resultKind (h : e.Of b kinds) : e.table.result.kind = kinds.kindOf b.returnType := by
  obtain ⟨table, ht, hc⟩ := h.shape
  rw [SlotTable.result_kind_of_clear hc, (SlotTable.ofSignature_kinds ht).1]

private theorem paramKinds (h : e.Of b kinds) : e.table.params.map Slot.kind = b.params.map kinds.kindOf := by
  obtain ⟨table, ht, hc⟩ := h.shape
  rw [SlotTable.map_kind_of_clear hc, (SlotTable.ofSignature_kinds ht).2]

theorem native (h : e.Of b kinds) : e.adapter? = some b.adapter := by
  simp only [adapter?, h.behaviour]

end Entry.Of

section Execution
variable {P H : Type} {run : Runner P H} {w : World P H} {e : Entry P} {key : EntryKey} {object : ObjectId}
  {t t' : SlotTable}

/-- A free function that succeeds leaves its slot table. -/
theorem World.executeNative_function {f : HostFunction} (found : w.registry.find? key = some e)
    (native : e.adapter? = some (.function f)) (global : key.scope = globalScope) (h : f.dispatch e.table = .ok t') :
    w.executeNative run object key key = (true, w.putTable key t') := by
  have ht : w.table? key = some e.table := congrArg (Option.map Entry.table) found
  rw [executeNative_free (adapter_of_found found native) (.inr global)]
  simp only [dispatch, ht, h, adopt, Except.toBool]

/-- A method that succeeds leaves its slot table and its receiver. -/
theorem World.executeNative_method {m : HostMethod} {name className : String} {receiver after : HostObject}
    (found : w.registry.find? key = some e) (native : e.adapter? = some (.method m name className))
    (inScope : key.scope ≠ globalScope) (present : object.isNone = false)
    (available : w.objects.available? object = some receiver)
    (h : m.dispatch name className (some receiver) e.table = (.ok t', some after)) :
    w.executeNative run object key key =
      (true, { w with objects := w.objects.put object after }.putTable key t') := by
  -- the receiver is marked as in use while the method runs, which the tables do not notice
  have hd : (w.borrow object).dispatch run (.method m name className) key (some (object, receiver)) =
      (.ok (), { w.borrow object with objects := (w.borrow object).objects.put object after }.putTable key t') := by
    have ht : (w.borrow object).table? key = some e.table := congrArg (Option.map Entry.table) found
    simp only [dispatch, ht, Option.map_some, h, putReceiver, adopt]
  rw [executeNative_received (adapter_of_found found native) (by simp [present, inScope]) available]
  simp only [runOn, hd, Except.toBool]
  simp only [giveBack, borrow, putTable, ObjectTable.put, List.erase_cons_head]

/-- Code bound from a native function runs on the arguments in its slots and leaves its result. -/
theorem Entry.Of.run_function {name : String} {f : HostFunction} {as : Arguments f.params}
    (entry : e.Of (.function name f) .builtIn) (returned : f.result.Plain ∨ f.result = .unit ∨ f.result = .literal)
    (hn : (boxArguments f.params as).length = e.table.params.length)
    (found : w.registry.find? e.key =
      some { e with table := e.table.withArguments (boxArguments f.params as) }) :
    w.executeNative run object e.key e.key = (true, w.putTable e.key
      ((e.table.withArguments (boxArguments f.params as)).withResult (f.result.box (f.run as)))) := by
  have fits : (f.result.box (f.run as)).kind = e.table.result.kind :=
    (HostType.box_kind returned _).trans entry.resultKind.symm
  have global : e.key.scope = globalScope := by
    rw [Entry.key, entry.scope]
    rfl
  have dispatched := (HostFunction.dispatch_withArguments hn).trans
    ((SlotTable.setResult_eq _ _).trans (if_pos fits))
  exact World.executeNative_function found entry.native global dispatched

/-- So does code bound from a native method, and it leaves its receiver. -/
theorem Entry.Of.run_method {className name : String} {m : HostMethod} {as : Arguments m.params}
    {receiver : HostObject} {state : m.cls.State} (entry : e.Of (.methodIn className name m) .builtIn)
    (inScope : nameHash className ≠ globalScope)
    (returned : m.result.Plain ∨ m.result = .unit ∨ m.result = .literal) (present : object ≠ .none)
    (available : w.objects.available? object = some receiver) (hstate : receiver.stateOf? m.cls = some state)
    (hn : (boxArguments m.params as).length = e.table.params.length)
    (found : w.registry.find? e.key =
      some { e with table := e.table.withArguments (boxArguments m.params as) }) :
    w.executeNative run object e.key e.key =
      (true, { w with objects := w.objects.put object ⟨m.cls, (m.body.run state as).2⟩ }.putTable e.key
        ((e.table.withArguments (boxArguments m.params as)).withResult (m.result.box (m.body.run state as).1))) := by
  have fits : (m.result.box (m.body.run state as).1).kind = e.table.result.kind :=
    (HostType.box_kind returned _).trans entry.resultKind.symm
  have inScope : e.key.scope ≠ globalScope := by
    rw [Entry.key, entry.scope]
    exact inScope
  have isPresent : object.isNone = false := by
    cases object
    simpa [ObjectId.isNone, ObjectId.none] using present
  have stored := (SlotTable.setResult_eq (e.table.withArguments (boxArguments m.params as)) _).trans (if_pos fits)
  have dispatched : m.dispatch name className (some receiver) (e.table.withArguments (boxArguments m.params as)) =
      (.ok ((e.table.withArguments (boxArguments m.params as)).withResult (m.result.box (m.body.run state as).1)),
        some ⟨m.cls, (m.body.run state as).2⟩) := by
    rw [HostMethod.dispatch_withArguments hstate hn, stored]
  exact World.executeNative_method found entry.native inScope isPresent available dispatched

private theorem ObjectTable.available?_put {table : ObjectTable} {receiver after : HostObject}
    (h : table.available? object = some receiver) : (table.put object after).available? object = some after := by
  rw [available?] at h
  split at h
  · cases h
  · rename_i free
    obtain ⟨record, hr, -⟩ := Option.map_eq_some_iff.mp h
    have hp : (table.put object after).records.find? object = some { record with object := after } := by
      rw [put, Directory.find?_modify, if_pos rfl, hr]
      rfl
    have hb : object ∉ (table.put object after).borrowed := free
    rw [available?, if_neg hb, hp]
    rfl

end Execution

namespace Caller
variable {P H : Type}

/-- The call hands back a value of the callee, converted to the type asked for and read as one of that type. Its only
way to fail is that the value does not convert. -/
def Returns (c : Caller P H) (w : World P H) (target : CallTarget) (arguments : List Argument) (result : HostType)
    (function : String) (v : SlotValue) : Prop :=
  let kind := w.registry.kinds.kindOf result
  let (outcome, after) := c.call target arguments result w
  match Conversion.convert? (c.objects.isLive after.objects after.host) v kind with
  | some converted => ∃ r, result.unbox converted = .ok r ∧ outcome = .ok r
  | none => outcome = .error (.returnConversionFailed function v.kind kind)

variable {c : Caller P H} {w w' : World P H} {target : CallTarget} {arguments : List Argument} {result : HostType}

/-- A run that succeeds hands back what is then in the result slot. -/
theorem Ready.returns {p : PreparedCall P} {v : SlotValue} (ready : c.Ready w target arguments result p)
    (hw : Coherent w.registry.entries) (free : p.entry.key ∉ w.held) (builtIn : w.registry.kinds = .builtIn)
    (requested : result.Plain ∨ result = .unit) (hrun : c.run p w = (true, w')) (hv : w'.resultValue p.entry.key = v) :
    c.Returns w target arguments result p.entry.qualified v ∧
      (c.call target arguments result w).2.objects = w'.objects := by
  have hcall : c.call target arguments result w = World.reporting (c.convertResult (w'.release p.entry.key)
      p.entry.qualified (w.registry.kinds.kindOf result) result v, w'.release p.entry.key) := by
    rw [ready.call hw free, hrun, finish, hv, ready.kind]
  cases hu : Conversion.convert? (c.objects.isLive w'.objects w'.host) v (w.registry.kinds.kindOf result) with
  | none =>
    have hconv : c.convertResult (w'.release p.entry.key) p.entry.qualified (w.registry.kinds.kindOf result) result v =
        .error (.returnConversionFailed p.entry.qualified v.kind (w.registry.kinds.kindOf result)) := by
      simp only [convertResult, World.release, hu]
    rw [hconv, World.reporting] at hcall
    simp only [Returns, hcall, World.report, World.release, hu, and_self]
  | some u =>
    obtain ⟨r, hr⟩ : ∃ r, result.unbox u = .ok r :=
      HostType.exists_unbox requested (builtIn ▸ Conversion.convert?_kind hu)
    have hconv : c.convertResult (w'.release p.entry.key) p.entry.qualified (w.registry.kinds.kindOf result) result v =
        .ok r := by
      simp only [convertResult, World.release, hu, hr]
    rw [hconv, World.reporting] at hcall
    simp only [Returns, hcall, World.release, hu, and_true]
    exact ⟨r, hr, rfl⟩

/-- A call of typed native code that passes the checks before the run, on a free table, applies the code to the
arguments as converted and hands back its result as converted, whatever the slots held before. A free function leaves
the objects alone, and a method leaves its receiver as its body does. -/
theorem typed_call_returns {config : BindConfig} {history : List (Builder.Operation P)} {s : List Activation}
    (hw : Reachable ((Builder.new config).after history).build s w) (builtIn : w.registry.kinds = .builtIn)
    (run : Runner P H) (objects : ObjectRegistry H) {e : Entry P} {object : ObjectId} {values : List SlotValue}
    (requested : result.Plain ∨ result = .unit)
    (resolved : resolve ⟨World.executeNative run, objects⟩ w target = .ok (e, object))
    (arity : arguments.length = e.arity)
    (converted : conversions (objects.isLive w.objects w.host) arguments e.signature.params = values.map some)
    (free : e.key ∉ w.held) :
    (∀ name f, e.Of (.function name f) .builtIn → (∀ t ∈ f.params, t.Plain) →
      f.result.Plain ∨ f.result = .unit ∨ f.result = .literal →
      ∃ as : Arguments f.params, boxArguments f.params as = values ∧
        Returns ⟨World.executeNative run, objects⟩ w target arguments result e.qualified (f.result.box (f.run as)) ∧
        (call ⟨World.executeNative run, objects⟩ target arguments result w).2.objects = w.objects) ∧
    (∀ className name m receiver state, e.Of (.methodIn className name m) .builtIn → nameHash className ≠ globalScope →
      (∀ t ∈ m.params, t.Plain) → m.result.Plain ∨ m.result = .unit ∨ m.result = .literal → object ≠ .none →
      w.objects.available? object = some receiver → receiver.stateOf? m.cls = some state →
      ∃ as : Arguments m.params, boxArguments m.params as = values ∧
        Returns ⟨World.executeNative run, objects⟩ w target arguments result e.qualified
          (m.result.box (m.body.run state as).1) ∧
        (call ⟨World.executeNative run, objects⟩ target arguments result w).2.objects.available? object =
          some ⟨m.cls, (m.body.run state as).2⟩) := by
  have coherent := hw.coherent
  have ready : Ready ⟨World.executeNative run, objects⟩ w target arguments result
      ⟨e, object, values, w.registry.kinds.kindOf result⟩ := by
    refine ⟨resolved, arity, rfl, ?_, converted⟩
    rw [builtIn]
    rcases requested with plain | rfl
    · cases result <;> first | exact plain.elim | rfl
    · rfl
  have hkinds : values.map SlotValue.kind = e.table.params.map Slot.kind := ready.kinds coherent
  have hfound : (w.enter e.key values).registry.find? e.key = some { e with table := e.table.withArguments values } :=
    World.find?_enter (ready.found coherent).1 hkinds
  have hobjects := (w.enter_rest e.key values).2.1
  have hlength : values.length = e.table.params.length := by
    simpa only [List.length_map] using congrArg List.length hkinds
  have htable : (w.enter e.key values).table? e.key = some (e.table.withArguments values) :=
    congrArg (Option.map Entry.table) hfound
  constructor
  · intro name f entry plain returned
    obtain ⟨as, rfl⟩ := exists_boxArguments plain (hkinds.trans entry.paramKinds)
    have executed : World.executeNative run object e.key e.key _ = _ := entry.run_function returned hlength hfound
    have returns := ready.returns coherent free builtIn requested executed (World.resultValue_putTable htable _)
    exact ⟨as, rfl, returns.1, returns.2.trans hobjects⟩
  · intro className name m receiver state entry inScope plain returned present available hstate
    obtain ⟨as, rfl⟩ := exists_boxArguments plain (hkinds.trans entry.paramKinds)
    rw [← hobjects] at available
    have executed : World.executeNative run object e.key e.key _ = _ :=
      entry.run_method inScope returned present available hstate hlength hfound
    have returns := ready.returns coherent free builtIn requested executed (World.resultValue_putTable htable _)
    refine ⟨as, rfl, returns.1, ?_⟩
    rw [returns.2]
    exact ObjectTable.available?_put available

section Instance
open HostLibrary

private def counting : World Empty Unit where
  registry := ((Builder.new .standard).after [.register (.function "Sum" (sum 2)),
    .register (.method "Length" textLength)]).build
  held := []
  objects := (ObjectTable.empty.register (.cell 1) ⟨textClass, "abc"⟩ [nameHash "Text"]).2
  journal := .empty
  host := ()

private def sumEntry : Entry Empty := .make "" "Sum" (.native (.function (sum 2)))
  ⟨⟨"__return", .int, some .int, .void⟩, [⟨"_p1", .int, some .int, .void⟩, ⟨"_p2", .int, some .int, .void⟩]⟩

private def lengthEntry : Entry Empty := .make "Text" "Length" (.native (.method textLength "Length" "Text"))
  ⟨⟨"__return", .int, some .int, .void⟩, []⟩

theorem typed_call_returns_sum_and_length :
    Returns ⟨World.executeNative Empty.elim, .ofTable⟩ counting (.ofName "Sum") [.text "3", .value (.bool true)] .string
        "Sum" (.int 4) ∧
      Returns ⟨World.executeNative Empty.elim, .ofTable⟩ counting (.methodOfName (.named ⟨1⟩) "Length") [] .int
        "Text::Length" (.int 3) := by
  have hw : Reachable _ [] counting := ⟨counting, rfl, rfl, .start⟩
  constructor
  · obtain ⟨as, ha, returns, -⟩ := (typed_call_returns hw rfl (fun p => p.elim) .ofTable
      (show HostType.string.Plain ∨ _ from .inl trivial)
      (show resolve _ counting (.ofName "Sum") = .ok (sumEntry, .none) from rfl)
      (show [Argument.text "3", .value (.bool true)].length = 2 from rfl)
      (show _ = [SlotValue.int 3, .int 1].map some from rfl) List.not_mem_nil).1 "Sum" (sum 2)
      ⟨rfl, rfl, rfl, _, rfl, rfl⟩ (by simp [sum, HostType.Plain]) (.inl trivial)
    obtain ⟨a, b, ⟨⟩⟩ := as
    cases ha
    exact returns
  · obtain ⟨as, -, returns, -⟩ := (typed_call_returns hw rfl (fun p => p.elim) .ofTable
      (show HostType.int.Plain ∨ _ from .inl trivial)
      (show resolve _ counting (.methodOfName (.named ⟨1⟩) "Length") = .ok (lengthEntry, ⟨1⟩) from rfl)
      (show ([] : List Argument).length = 0 from rfl)
      (show _ = ([] : List SlotValue).map some from rfl) List.not_mem_nil).2 "Text" "Length" textLength
      ⟨textClass, "abc"⟩ "abc" ⟨rfl, rfl, rfl, _, rfl, rfl⟩ (by decide) (by simp [textLength]) (.inl trivial)
      (by decide) rfl rfl
    exact returns

end Instance

end Caller

end ScriptBridge
