import ScriptBridge.HostLibrary
import ScriptBridge.Proofs.CallOrder
import ScriptBridge.Proofs.Discipline

/-! The two ways into native code. With values of the declared kinds, a call of a free function through the native
executor and a direct call of its entry are one and the same run. Only the call converts what the run leaves. -/
namespace ScriptBridge
variable {P H : Type}

theorem Argument.convert?_same (live : ObjectId → Bool) {a : Argument} {k : Kind} (h : a.asValue.kind = k) :
    a.convert? live k = some a.asValue := by
  rw [Argument.convert?_eq]
  exact Conversion.convert?_same live h

/-- Arguments of the kinds asked for are not changed by conversion, whatever objects there are. -/
theorem conversions_same (live : ObjectId → Bool) {as : List Argument} {ks : List Kind}
    (h : (as.map Argument.asValue).map SlotValue.kind = ks) :
    conversions live as ks = (as.map Argument.asValue).map some := by
  subst h
  induction as with
  | nil => rfl
  | cons a as ih => exact congrArg₂ List.cons (Argument.convert?_same live rfl) ih

private theorem World.checkKinds_ok (position : Nat) {vs : List SlotValue} {ks : List Kind}
    (h : vs.map SlotValue.kind = ks) : checkKinds position vs ks = .ok () := by
  subst h
  induction vs generalizing position with
  | nil => rfl
  | cons v vs ih =>
    rw [List.map_cons, checkKinds, if_pos rfl]
    exact ih (position + 1)

/-- Native code in the global scope runs without a receiver, and its error is only noticed. -/
theorem World.executeNative_global {run : Runner P H} {w : World P H} {e : Entry P} {adapter : Adapter P}
    {key : EntryKey} (found : w.registry.find? key = some e) (native : e.adapter? = some adapter)
    (global : key.scope = globalScope) (object : ObjectId) (context : EntryKey) :
    w.executeNative run object key context =
      ((w.dispatch run adapter context none).1.toBool, (w.dispatch run adapter context none).2) :=
  executeNative_free (adapter_of_found found native) (.inr global) context

namespace Caller
variable {c : Caller P H} {w w' : World P H} {target : CallTarget} {arguments : List Argument} {result : HostType}
  {e : Entry P} {p : PreparedCall P}

def native (run : Runner P H) (objects : ObjectRegistry H) : Caller P H := ⟨World.executeNative run, objects⟩

/-- The call gets to the conversion of its result with a value, which it takes from slot zero of the entry. -/
def Reaches (c : Caller P H) (w : World P H) (target : CallTarget) (arguments : List Argument) (result : HostType)
    (e : Entry P) (v : SlotValue) : Prop :=
  ∃ p, c.prepare w target arguments result = .ok p ∧ p.entry = e ∧ (c.perform p w).1 = .ok v ∧
    (c.perform p w).2.resultValue e.key = v

/-- A call that is ready on a free table has what its one run leaves in slot zero. -/
theorem Ready.perform (h : c.Ready w target arguments result p) (hw : Coherent w.registry.entries)
    (free : p.entry.key ∉ w.held) :
    c.perform p w = (if (c.run p w).1 then .ok ((c.run p w).2.resultValue p.entry.key)
      else .error (.executionFailed p.entry.qualified), (c.run p w).2.release p.entry.key) := by
  have hf := (World.fill_enter (h.found hw).1 (h.kinds hw)).1
  cases hr : c.run p w with
  | mk success w' =>
    rw [run] at hr
    simp only [Caller.perform, World.locking_free _ free, hf, hr]
    cases success <;> rfl

private theorem Ready.reaches_iff (h : c.Ready w target arguments result p) (hw : Coherent w.registry.entries)
    (free : p.entry.key ∉ w.held) (v : SlotValue) :
    c.Reaches w target arguments result p.entry v ↔
      (c.run p w).1 = true ∧ (c.run p w).2.resultValue p.entry.key = v := by
  have hv : ((c.run p w).2.release p.entry.key).resultValue p.entry.key = (c.run p w).2.resultValue p.entry.key := rfl
  constructor
  · rintro ⟨p', hp, -, performed, slot⟩
    obtain rfl : p' = p := Except.ok.inj (hp.symm.trans h.prepare)
    rw [h.perform hw free] at performed slot
    cases hr : (c.run p' w).1 with
    | false =>
      rw [hr] at performed
      cases performed
    | true => exact ⟨rfl, slot⟩
  · rintro ⟨succeeded, slot⟩
    refine ⟨p, h.prepare, rfl, ?_, ?_⟩
    · rw [h.perform hw free, succeeded, if_pos rfl, slot]
    · rw [h.perform hw free]
      exact slot

/-- The outcomes of a direct call and of a call that asks for a result of a given kind. Either both fail in the code, or
the call converts and extracts what the direct call hands back. Both leave the same slots and the same tables in use. -/
structure Agree (e : Entry P) (result : HostType) (kind : Kind) (live : ObjectId → Bool)
    (direct : Except BindError SlotValue × World P H) (called : Except BindError result.Carrier × World P H) :
    Prop where
  returned : ∀ r, called.1 = .ok r ↔
    ∃ v u, direct.1 = .ok v ∧ Conversion.convert? live v kind = some u ∧ result.unbox u = .ok r
  unconverted : (∃ source, called.1 = .error (.returnConversionFailed e.qualified source kind)) ↔
    ∃ v, direct.1 = .ok v ∧ ∀ u, Conversion.convert? live v kind = some u → ∃ err, result.unbox u = .error err
  failed : (∃ err, direct.1 = .error err) ↔ called.1 = .error (.executionFailed e.qualified)
  slots : called.2.registry = direct.2.registry
  held : called.2.held = direct.2.held

/-- A value handed back by the one is what the other converts. -/
theorem Agree.of_value {direct : Except BindError SlotValue × World P H}
    {called : Except BindError result.Carrier × World P H} {kind : Kind} {v : SlotValue}
    (hd : direct = (.ok v, w))
    (hc : called = World.reporting (c.convertResult w e.qualified kind result v, w)) :
    Agree e result kind (c.objects.isLive called.2.objects called.2.host) direct called := by
  subst hd hc
  cases hu : Conversion.convert? (c.objects.isLive w.objects w.host) v kind with
  | none =>
    have hr : c.convertResult w e.qualified kind result v =
        .error (.returnConversionFailed e.qualified v.kind kind) := by simp only [convertResult, hu]
    rw [hr]
    constructor <;> simp [World.reporting, World.report, hu]
  | some u =>
    cases hx : result.unbox u with
    | error err =>
      have hr : c.convertResult w e.qualified kind result v =
          .error (.returnConversionFailed e.qualified u.kind kind) := by simp only [convertResult, hu, hx]
      rw [hr]
      constructor <;> simp [World.reporting, World.report, hu, hx]
    | ok r =>
      have hr : c.convertResult w e.qualified kind result v = .ok r := by simp only [convertResult, hu, hx]
      rw [hr]
      constructor <;> simp [World.reporting, hu, hx]

private theorem Agree.of_error {direct : Except BindError SlotValue × World P H}
    {called : Except BindError result.Carrier × World P H} {kind : Kind} (live : ObjectId → Bool) {err : BindError}
    {d : Diagnostic} (hd : direct = (.error err, w.report d))
    (hc : called = World.reporting (.error (.executionFailed e.qualified), w)) :
    Agree e result kind live direct called := by
  subst hd hc
  constructor <;> simp [World.reporting, World.report]

end Caller

/-- A free function of native code stands in the registry with its slot table free, and values have exactly the kinds
that it declares. -/
structure World.Fits (w : World P H) (e : Entry P) (adapter : Adapter P) (values : List SlotValue) : Prop where
  found : w.registry.find? e.key = some e
  global : e.key.scope = globalScope
  native : e.adapter? = some adapter
  kinds : values.map SlotValue.kind = e.signature.params
  free : e.key ∉ w.held

namespace World.Fits
variable {w : World P H} {e : Entry P} {adapter : Adapter P} {arguments : List Argument} {result : HostType}
  {run : Runner P H} {objects : ObjectRegistry H} {label : String} {ran : Except BindError Unit × World P H}

theorem accepts {values : List SlotValue} (h : w.Fits e adapter values) : e.Accepts adapter values := by
  refine ⟨h.native, ?_, World.checkKinds_ok 1 h.kinds⟩
  rw [Entry.arity, Signature.arity, ← h.kinds, List.length_map]

/-- The direct call is the run of the adapter, and the report of its error. -/
theorem invoke {values : List SlotValue} (h : w.Fits e adapter values) (hw : Coherent w.registry.entries)
    (hr : (w.enter e.key values).dispatch run adapter e.key none = ran) :
    w.invoke run e none values = reporting (finishInvoke e ran) := by
  rw [World.invoke, attemptInvoke_free run none h.accepts h.found (hw e.key e h.found).2 h.free, hr]

theorem resolved {values : List SlotValue} (h : w.Fits e adapter values) (c : Caller P H) (label : String) :
    c.resolve w (.function e.key.name label) = .ok (e, .none) := by
  have hf : w.registry.findFunction? e.key.name = some e := by
    rw [Registry.findFunction?, ← h.global]
    exact h.found
  simp only [Caller.resolve, hf]

theorem arity (h : w.Fits e adapter (arguments.map Argument.asValue)) : arguments.length = e.arity := by
  rw [← h.accepts.arity, List.length_map]

/-- The call passes all checks with its arguments as they are. -/
theorem exists_ready (h : w.Fits e adapter (arguments.map Argument.asValue)) (c : Caller P H) (label : String)
    (known : (w.registry.kinds.kindOf result).isRegistered = true) :
    ∃ p, c.Ready w (.function e.key.name label) arguments result p ∧ p.entry = e ∧
      p.arguments = arguments.map Argument.asValue :=
  ⟨⟨e, .none, arguments.map Argument.asValue, w.registry.kinds.kindOf result⟩,
    ⟨h.resolved c label, h.arity, rfl, known, conversions_same _ h.kinds⟩, rfl, rfl⟩

/-- Its executor runs the same adapter in the same state, and only notices whether there is an error. -/
theorem runs {p : PreparedCall P} (h : w.Fits p.entry adapter p.arguments) (hw : Coherent w.registry.entries) :
    (Caller.native run objects).run p w =
      (((w.enter p.entry.key p.arguments).dispatch run adapter p.entry.key none).1.toBool,
        ((w.enter p.entry.key p.arguments).dispatch run adapter p.entry.key none).2) := by
  have entered := World.find?_enter h.found (h.accepts.kinds (hw _ _ h.found).2)
  exact World.executeNative_global entered h.native h.global p.object p.entry.key

end World.Fits

namespace Caller
variable {w : World P H} {arguments : List Argument} {result : HostType} {e : Entry P}

/-- In every reachable state, a direct call of a native free function with values of the declared kinds, on a free table,
and a call of the function with the same values come to one run of its code. Only a call for a type of result that
scripts do not know is refused before. -/
theorem direct_call_agrees {config : BindConfig} {history : List (Builder.Operation P)} {s : List Activation}
    (hw : Reachable ((Builder.new config).after history).build s w) (run : Runner P H) (objects : ObjectRegistry H)
    {adapter : Adapter P} (fits : w.Fits e adapter (arguments.map Argument.asValue)) (label : String)
    {ran : Except BindError Unit × World P H} {direct : Except BindError SlotValue × World P H}
    {called : Except BindError result.Carrier × World P H}
    (hr : (w.enter e.key (arguments.map Argument.asValue)).dispatch run adapter e.key none = ran)
    (hd : w.invoke run e none (arguments.map Argument.asValue) = direct)
    (hc : (native run objects).call (.function e.key.name label) arguments result w = called) :
    (∀ err, direct.1 = .error err ↔ ran.1 = .error err) ∧
    (∀ fit, fit w.host → run.Disciplined fit → direct.2.held = w.held) ∧
    ((w.registry.kinds.kindOf result).isRegistered = true →
      (∀ v, direct.1 = .ok v ↔
        (native run objects).Reaches w (.function e.key.name label) arguments result e v) ∧
      Agree e result (w.registry.kinds.kindOf result) (objects.isLive called.2.objects called.2.host) direct called) ∧
    ((w.registry.kinds.kindOf result).isRegistered = false →
      called = (.error (.unsupportedReturnType result.label),
        w.report (.ofError (.unsupportedReturnType result.label)))) := by
  have coherent := hw.coherent
  have hdirect := hd.symm.trans (fits.invoke coherent hr)
  refine ⟨fun err => ?_, fun fit hf disciplined => ?_, fun known => ?_, fun unknown => ?_⟩
  · rw [hdirect, reporting_fst]
    obtain ⟨_ | _, w'⟩ := ran <;> simp [World.finishInvoke]
  · rw [← hd]
    have keeps := World.invoke_keeps (s := s) disciplined ⟨coherent, hf⟩ fits.found none
      (arguments.map Argument.asValue)
    exact hw.matches.held_eq keeps.run
  · obtain ⟨p, ready, rfl, hp⟩ := fits.exists_ready (native run objects) label known
    have hcalled := hc.symm.trans (ready.call coherent fits.free)
    rw [← hp] at fits hr
    have hrun : (native run objects).run p w = _ := fits.runs coherent
    rw [hr] at hrun
    rw [hrun] at hcalled
    rw [← ready.kind]
    simp only [ready.reaches_iff coherent fits.free, hrun]
    obtain ⟨err | _, w'⟩ := ran
    · refine ⟨fun v => ?_, .of_error _ hdirect hcalled⟩
      simp [hdirect, World.finishInvoke, World.reporting, Except.toBool]
    · refine ⟨fun v => ?_, ?_⟩
      · simp [hdirect, World.finishInvoke, World.reporting, Except.toBool]
      · exact .of_value hdirect hcalled
  · rw [← hc]
    exact (Rejects.resultType (fits.resolved _ label) fits.arity unknown).call

section Instance

private def addition : World Empty Unit :=
  .fresh ((Builder.new .standard).after [.register (.function "Sum" (HostLibrary.sum 2))]).build ()

private def additionEntry : Entry Empty := .make "" "Sum" (.native (.function (HostLibrary.sum 2)))
  ⟨⟨"__return", .int, some .int, .void⟩, [⟨"_p1", .int, some .int, .void⟩, ⟨"_p2", .int, some .int, .void⟩]⟩

private theorem addition_fits : addition.Fits additionEntry (.function (HostLibrary.sum 2))
    ([.value (.int 1), .value (.int 2)].map Argument.asValue) :=
  ⟨rfl, rfl, rfl, rfl, List.not_mem_nil⟩

/-- The sum is an integer in both, and the call reads it as the text asked for. -/
theorem direct_call_agrees_sum :
    (addition.invoke (fun p => p.elim) additionEntry none [.int 1, .int 2]).1 = .ok (.int 3) ∧
      (native (fun p => p.elim) .ofTable).Reaches addition (.ofName "Sum") [.value (.int 1), .value (.int 2)] .string
        additionEntry (.int 3) ∧
      ((native (fun p => p.elim) .ofTable).call (.ofName "Sum") [.value (.int 1), .value (.int 2)] .string
        addition).1 = .ok "3" := by
  have hw : Reachable _ [] addition := .fresh _ ()
  obtain ⟨-, -, h, -⟩ := direct_call_agrees hw (fun p => p.elim) .ofTable addition_fits "Sum" rfl rfl
    (show (native _ _).call _ _ .string _ = _ from rfl)
  obtain ⟨reached, agree⟩ := h rfl
  have invoked : (addition.invoke (fun p => p.elim) additionEntry none [.int 1, .int 2]).1 = .ok (.int 3) := by
    decide +kernel
  exact ⟨invoked, (reached _).mp invoked, (agree.returned _).mpr ⟨_, _, invoked, rfl, rfl⟩⟩

/-- A call that asks for a slot value as it stands is refused, since scripts know no such type. The direct call hands the
value back. -/
theorem slot_value_refused :
    addition.Fits additionEntry (.function (HostLibrary.sum 2))
        ([.value (.int 1), .value (.int 2)].map Argument.asValue) ∧
      (addition.invoke (fun p => p.elim) additionEntry none [.int 1, .int 2]).1 = .ok (.int 3) ∧
      ¬ (native (fun p => p.elim) .ofTable).Reaches addition (.ofName "Sum") [.value (.int 1), .value (.int 2)] .value
        additionEntry (.int 3) ∧
      ((native (fun p => p.elim) .ofTable).call (.ofName "Sum") [.value (.int 1), .value (.int 2)] .value
        addition).1 = .error (.unsupportedReturnType "hostbind_sdk::value::SlotValue") := by
  refine ⟨addition_fits, by decide +kernel, ?_, by decide +kernel⟩
  rintro ⟨p, hp, -⟩
  have refused : (native (fun p => p.elim) .ofTable).prepare addition (.ofName "Sum")
      [.value (.int 1), .value (.int 2)] .value = .error (.unsupportedReturnType "hostbind_sdk::value::SlotValue") :=
    rfl
  rw [refused] at hp
  cases hp

end Instance

end Caller
end ScriptBridge
