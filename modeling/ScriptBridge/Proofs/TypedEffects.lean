import ScriptBridge.HostLibrary
import ScriptBridge.Proofs.Discipline

/-! Typed code with effects. All arguments are read before the code runs, so a dispatch either runs it once, or finds
something wrong first and leaves the slots, the receiver and the host as they were. -/
namespace ScriptBridge

private theorem HostObject.eq_of_stateOf? {object : HostObject} {cls : HostClass} {state : cls.State}
    (h : object.stateOf? cls = some state) : object = ⟨cls, state⟩ := by
  rw [stateOf?] at h
  split at h
  · rename_i hc
    subst hc
    cases h
    rfl
  · cases h

/-- Native code that acts on a state besides giving a result. For a method the state begins with that of its receiver,
and the host comes after it. -/
structure ActingCode (σ : Type) where
  params : List HostType
  result : HostType
  run : Arguments params → σ → result.Carrier × σ

namespace ActingCode
variable {σ : Type} {cls : HostClass}

def dispatch (code : ActingCode σ) (table : SlotTable) (s : σ) : Except BindError SlotTable × σ :=
  match readArguments code.params 1 table with
  | .error e => (.error e, s)
  | .ok arguments =>
    let (result, s) := code.run arguments s
    (table.setResult (code.result.box result), s)

def dispatchOn (code : ActingCode (cls.State × σ)) (name className : String) (receiver : Option HostObject)
    (table : SlotTable) (s : σ) : (Except BindError SlotTable × Option HostObject) × σ :=
  match receiver with
  | none => ((.error (.missingReceiver name), none), s)
  | some object =>
    match object.stateOf? cls with
    | none => ((.error (.receiverMismatch name className), some object), s)
    | some state =>
      let (outcome, state, s) := code.dispatch table (state, s)
      ((outcome, some ⟨cls, state⟩), s)

/-- How a dispatch ends. The code runs once where its arguments are held, and does not run otherwise. A slot table comes
back only with success, and then differs in the value of slot zero. -/
inductive Outcome (code : ActingCode σ) (table : SlotTable) (s : σ) : Except BindError SlotTable × σ → Prop where
  | written {as} (held : Held code.params as 1 table)
      (fits : (code.result.box (code.run as s).1).kind = table.result.kind) :
      Outcome code table s (.ok (table.withResult (code.result.box (code.run as s).1)), (code.run as s).2)
  | unfit {as} (held : Held code.params as 1 table)
      (differ : (code.result.box (code.run as s).1).kind ≠ table.result.kind) :
      Outcome code table s
        (.error (.slotKindMismatch 0 table.result.kind (code.result.box (code.run as s).1).kind), (code.run as s).2)
  | unread {e} (bad : FirstMisfit table code.params 1 e) : Outcome code table s (.error e, s)

/-- How a dispatch on a receiver ends. Only where the receiver is one of the class are the arguments looked at. -/
inductive OutcomeOn (code : ActingCode (cls.State × σ)) (name className : String) (table : SlotTable) (s : σ) :
    Option HostObject → (Except BindError SlotTable × Option HostObject) × σ → Prop where
  | missing : OutcomeOn code name className table s none ((.error (.missingReceiver name), none), s)
  | mismatch {object} (other : object.cls ≠ cls) :
      OutcomeOn code name className table s (some object) ((.error (.receiverMismatch name className), some object), s)
  | received {state outcome state' s'} (h : code.Outcome table (state, s) (outcome, state', s')) :
      OutcomeOn code name className table s (some ⟨cls, state⟩) ((outcome, some ⟨cls, state'⟩), s')

private theorem dispatch_of_held {code : ActingCode σ} {table : SlotTable} {as : Arguments code.params}
    (held : Held code.params as 1 table) (s : σ) :
    code.dispatch table s = (table.setResult (code.result.box (code.run as s).1), (code.run as s).2) := by
  simp only [dispatch, held.read]

private theorem outcome_iff (code : ActingCode σ) (table : SlotTable) (s : σ) (o : Except BindError SlotTable × σ) :
    code.Outcome table s o ↔ code.dispatch table s = o := by
  constructor
  · intro h
    cases h with
    | written held fits => rw [dispatch_of_held held, SlotTable.setResult_eq, if_pos fits]
    | unfit held differ => rw [dispatch_of_held held, SlotTable.setResult_eq, if_neg differ]
    | unread bad => simp only [dispatch, bad.read]
  · rintro rfl
    -- either all arguments are read or one is the first that is not, and only then does the kind of the result matter
    obtain ⟨as, held⟩ | ⟨e, bad⟩ := held_or_misfit code.params 1 table
    · rw [dispatch_of_held held, SlotTable.setResult_eq]
      split
      · rename_i fits
        exact .written held fits
      · rename_i differ
        exact .unfit held differ
    · simp only [dispatch, bad.read]
      exact .unread bad

private theorem outcomeOn_iff (code : ActingCode (cls.State × σ)) (name className : String)
    (receiver : Option HostObject)
    (table : SlotTable) (s : σ) (o : (Except BindError SlotTable × Option HostObject) × σ) :
    code.OutcomeOn name className table s receiver o ↔ code.dispatchOn name className receiver table s = o := by
  constructor
  · intro h
    cases h with
    | missing => rfl
    | mismatch other => simp only [dispatchOn, HostObject.stateOf?, dif_neg other]
    | @received state outcome state' s' h =>
      have hd := (code.outcome_iff table (state, s) _).mp h
      simp only [dispatchOn, HostObject.stateOf?, dif_pos, hd]
  · rintro rfl
    rcases receiver with _ | object
    · exact .missing
    · by_cases hc : object.cls = cls
      · obtain ⟨cls', state⟩ := object
        obtain rfl : cls' = cls := hc
        have h := (code.outcome_iff table (state, s) _).mpr rfl
        simp only [dispatchOn, HostObject.stateOf?, dif_pos]
        exact .received h
      · simp only [dispatchOn, HostObject.stateOf?, dif_neg hc]
        exact .mismatch hc

/-- Seen at one state, acting code is a native function. -/
theorem function_dispatch {code : ActingCode σ} {s : σ} {run : Arguments code.params → code.result.Carrier}
    (h : ∀ as, run as = (code.run as s).1) (table : SlotTable) :
    HostFunction.dispatch ⟨code.params, code.result, run⟩ table = (code.dispatch table s).1 := by
  simp only [HostFunction.dispatch, dispatch]
  cases readArguments code.params 1 table with
  | error e => rfl
  | ok as => exact congrArg (fun r => table.setResult (code.result.box r)) (h as)

/-- Seen at one state of the host, acting code is the body of a method. -/
theorem method_dispatch {code : ActingCode (cls.State × σ)} {s : σ}
    {body : MethodBody cls.State (Arguments code.params) code.result.Carrier}
    (h : ∀ state as, body.run state as = ((code.run as (state, s)).1, (code.run as (state, s)).2.1))
    (name className : String) (receiver : Option HostObject) (table : SlotTable) :
    HostMethod.dispatch ⟨cls, code.params, code.result, body⟩ name className receiver table =
      (code.dispatchOn name className receiver table s).1 := by
  rcases receiver with _ | object
  · rfl
  · cases hs : object.stateOf? cls with
    | none => simp only [HostMethod.dispatch, dispatchOn, hs]
    | some state =>
      obtain rfl := HostObject.eq_of_stateOf? hs
      simp only [HostMethod.dispatch, dispatchOn, dispatch, hs]
      cases readArguments code.params 1 table with
      | error e => rfl
      | ok as => simp only [h state as]

end ActingCode

namespace World
variable {P H : Type}

/-- What a dispatch of typed code does to the slot tables: an error leaves them all, and a success writes slot zero of
one. -/
structure TablesKept (w : World P H) (context : EntryKey) (table : SlotTable)
    (out : Except BindError Unit × World P H) : Prop where
  failed : ∀ e, out.1 = .error e → ∀ key, out.2.table? key = w.table? key
  succeeded : out.1 = .ok () → ∃ v, v.kind = table.result.kind ∧
    ∀ key, out.2.table? key = if key = context then some (table.withResult v) else w.table? key

private theorem tablesKept_adopt {w w' : World P H} {context : EntryKey} {table : SlotTable}
    {o : Except BindError SlotTable} (ht : w.table? context = some table) (same : w'.registry = w.registry)
    (written : ∀ t', o = .ok t' → ∃ v, table.setResult v = .ok t') :
    w.TablesKept context table (w'.adopt context o) := by
  have hsame (key : EntryKey) : w'.table? key = w.table? key := by rw [table?, same, table?]
  cases o with
  | error e =>
    refine ⟨fun _ _ => hsame, fun h => ?_⟩
    cases h
  | ok t' =>
    refine ⟨fun e h => ?_, fun _ => ?_⟩
    · cases h
    obtain ⟨v, hv⟩ := written t' rfl
    rw [SlotTable.setResult_eq] at hv
    split at hv
    · rename_i fits
      cases hv
      refine ⟨v, fits, fun key => ?_⟩
      rw [adopt, table?_putTable, hsame]
      split
      · rename_i hk
        rw [hk, ht]
        rfl
      · rfl
    · cases hv

private theorem dispatch_function_tables {w : World P H} {context : EntryKey} {table : SlotTable}
    (ht : w.table? context = some table) (run : Runner P H) (f : HostFunction)
    (receiver : Option (ObjectId × HostObject)) :
    w.TablesKept context table (w.dispatch run (.function f) context receiver) := by
  simp only [dispatch, ht]
  exact tablesKept_adopt ht rfl fun _ => HostFunction.dispatch_eq_ok

private theorem dispatch_method_tables {w : World P H} {context : EntryKey} {table : SlotTable}
    (ht : w.table? context = some table) (run : Runner P H) (m : HostMethod) (name className : String)
    (receiver : Option (ObjectId × HostObject)) :
    w.TablesKept context table (w.dispatch run (.method m name className) context receiver) := by
  simp only [dispatch, ht]
  exact tablesKept_adopt ht (putReceiver_registry ..) fun _ => HostMethod.dispatch_eq_ok

end World

/-- Dispatch of typed code on any slot table is all or nothing. The code runs once if every argument is there, and with
it goes whatever it does to its receiver and to the host; the result is in slot zero, or is refused for its kind. Short
of an argument, or of a receiver of its class, it does not run and nothing changes, and the error is for the first thing
that is wrong. The functions and methods of a host are such code as it goes at one state of the host. -/
theorem typed_dispatch_atomic {P H σ : Type} (table : SlotTable) (s : σ) :
    (∀ ts, (∃ as, Held ts as 1 table) ↔ ∀ i t, ts[i]? = some t → Readable t table (1 + i)) ∧
    (∀ code : ActingCode σ, (∀ o, code.Outcome table s o ↔ code.dispatch table s = o) ∧
      ∀ run, (∀ as, run as = (code.run as s).1) →
        HostFunction.dispatch ⟨code.params, code.result, run⟩ table = (code.dispatch table s).1) ∧
    (∀ (cls : HostClass) (code : ActingCode (cls.State × σ)) name className receiver,
      (∀ o, code.OutcomeOn name className table s receiver o ↔
        code.dispatchOn name className receiver table s = o) ∧
      ∀ body : MethodBody cls.State (Arguments code.params) code.result.Carrier,
        (∀ state as, body.run state as = ((code.run as (state, s)).1, (code.run as (state, s)).2.1)) →
        HostMethod.dispatch ⟨cls, code.params, code.result, body⟩ name className receiver table =
          (code.dispatchOn name className receiver table s).1) ∧
    ∀ (w : World P H) (context : EntryKey) (run : Runner P H) (receiver : Option (ObjectId × HostObject)),
      w.table? context = some table →
      (∀ f, w.TablesKept context table (w.dispatch run (.function f) context receiver)) ∧
      ∀ m name className, w.TablesKept context table (w.dispatch run (.method m name className) context receiver) := by
  refine ⟨fun ts => exists_held_iff ts 1 table, fun code => ⟨code.outcome_iff table s, fun run h => ?_⟩,
    fun cls code name className receiver =>
      ⟨code.outcomeOn_iff name className receiver table s, fun body h => ?_⟩,
    fun w context run receiver ht => ⟨fun f => ?_, fun m name className => ?_⟩⟩
  · exact ActingCode.function_dispatch h table
  · exact ActingCode.method_dispatch h name className receiver table
  · exact World.dispatch_function_tables ht run f receiver
  · exact World.dispatch_method_tables ht run m name className receiver

section Instance

private def countedSum : ActingCode Nat where
  params := [.int, .int]
  result := .int
  run := fun (a, b, ()) n => (a + b, n + 1)

private def sumTable (second : SlotValue) : SlotTable :=
  ⟨⟨"__return", .int, some .int, .void⟩, [⟨"_p1", .int, some .int, .int 1⟩, ⟨"_p2", .int, some .int, second⟩]⟩

/-- It runs once on two integers, and not at all without the second. -/
theorem typed_dispatch_atomic_sum :
    countedSum.dispatch (sumTable (.int 2)) 0 = (.ok ((sumTable (.int 2)).withResult (.int 3)), 1) ∧
      (HostLibrary.sum 2).dispatch (sumTable (.int 2)) = (countedSum.dispatch (sumTable (.int 2)) 0).1 ∧
      countedSum.dispatch (sumTable .void) 0 = (.error (.slotKindMismatch 2 .int .void), 0) := by
  obtain ⟨-, codes, -⟩ := typed_dispatch_atomic (P := Empty) (H := Unit) (sumTable (.int 2)) 0
  obtain ⟨-, codes', -⟩ := typed_dispatch_atomic (P := Empty) (H := Unit) (sumTable .void) 0
  obtain ⟨outcome, same⟩ := codes countedSum
  refine ⟨(outcome _).mp ?_, same _ ?_, ((codes' countedSum).1 _).mp ?_⟩
  · have held : Held countedSum.params (1, 2, ()) 1 (sumTable (.int 2)) := ⟨⟨_, rfl, rfl⟩, ⟨_, rfl, rfl⟩, trivial⟩
    exact .written held rfl
  · rintro ⟨a, b, ⟨⟩⟩
    exact congrArg (a + ·) (Int32.add_zero b)
  · have first : Readable .int (sumTable .void) 1 := ⟨.int 1, rfl, fun k hk => Option.some.inj hk⟩
    have second : Misfit .int (sumTable .void) 2 (.slotKindMismatch 2 .int .void) :=
      @Misfit.kind .int (sumTable .void) 2 .void .int rfl rfl Kind.noConfusion
    exact .unread (.later first (.here second))

end Instance
end ScriptBridge
