import ScriptBridge.Inspection
import ScriptBridge.Session.Program

/-! The evaluation of programs and of whole sessions.
A program runs only on a slot table that is in use for it, so programs nest at most as deep as there are entries. -/
namespace ScriptBridge.Session

inductive JournalStyle where
  | memory | log
deriving DecidableEq

/-- What a host keeps besides the registry and the objects: the builder until it is sealed, addresses noted under
names, the published registry, and what the running programs have given out. -/
structure HostState where
  style : JournalStyle
  builder : Option (Builder Program)
  noted : List (String × Address)
  published : Option (Registry Program)
  output : List Output

abbrev State := World Program HostState

namespace State

def start (config : BindConfig) (style : JournalStyle) : State where
  registry := (Builder.new config).build
  held := []
  objects := .empty
  journal := .empty
  host := { style, builder := some (.new config), noted := [], published := none, output := [] }

def isSealed (w : State) : Bool := w.host.builder.isNone

def giveOut (w : State) (o : Output) : State :=
  { w with host := { w.host with output := w.host.output ++ [o] } }

def address? (w : State) : Place → Option Address
  | .id id => w.objects.addressOf? id
  | .noted name => w.host.noted.lookup name
  | .number n => some (.given n)

def receiver? (w : State) : Place → Option ObjectRef
  | .id id => some (.named id)
  | place => (w.address? place).map .located

def target? (w : State) (callee : Callee) (scope : Option String) : Option CallTarget :=
  let target : Option CallTarget := match callee with
    | .function name => some (.ofName name)
    | .functionHash name => some (.ofHash name)
    | .method place name => (w.receiver? place).map fun o => .methodOfName o name
    | .methodHash place scope name => (w.receiver? place).map fun o => .methodOfHash o scope name
  target.map fun t => (scope.map t.inNamespace).getD t

def answer (before : State) (outcome : Reply × State) : Answer × State :=
  let (reply, w) := outcome
  let line := match w.host.style with
    | .memory => Diagnostic.text
    | .log => Diagnostic.logText
  (.mk reply (w.journal.unseen.map line) w.host.output,
    { w with
      journal := { w.journal with unseen := [] }
      host := { w.host with output := before.host.output } })

def withoutOutput (w : State) : State := { w with host := { w.host with output := [] } }

def reportAll (w : State) (ds : List Diagnostic) : State := ds.foldl World.report w

def conclude {α : Type} (w : State) (o : Builder.Outcome Program α) (reply : Except BindError α → Reply) :
    Reply × State :=
  (reply o.result, { w.reportAll o.reports with host := { w.host with builder := some o.builder } })

def build (w : State) (b : Builder Program) : BuildStep Program → Reply × State
  | .mapKind t k =>
    let b := b.mapKind t k
    (.count b.kinds.size, { w with host := { w.host with builder := some b } })
  | .register binding => w.conclude (b.register binding) .key
  | .install bindings =>
    let (report, reports, b) := b.install bindings
    (.installed report, { w.reportAll reports with host := { w.host with builder := some b } })
  | .declare scope name result params body => w.conclude (b.declareScript scope name result params body) .key
  | .attach key record => w.conclude (b.attachDefaults key record) .done
  | .status => (.status b.entries.size b.config, w)
  | .has key => (.flag (b.entries.contains key), w)
  | .build =>
    (.count b.entries.size, { w with registry := b.build, host := { w.host with builder := none } })

def inspect (w : State) : Inspection → Reply
  | .registry => .listing w.registry.config w.registry.listing
  | .kindOf t => .kind (w.registry.kinds.kindOf t)
  | .entry key => ((w.registry.find? key).map Reply.entry).getD .nothing
  | .find scope name => named (w.registry.findByName? scope name)
  | .findFunction name => named (w.registry.findFunction? name)
  | .findMethod namespaces scope name =>
    named (w.registry.findMethod? ⟨.none, namespaces.map nameHash⟩ (nameHash scope) (nameHash name))
  | .describe key => ((w.registry.describe? key).map Reply.text).getD .nothing
  | .debug key => .debug w.registry.structuralText ((w.registry.find? key).map Entry.structuralText)
where
  named (e : Option (Entry Program)) : Reply := (e.map fun e => Reply.text e.qualified).getD .nothing

def onObjects (w : State) : ObjectStep → Reply × State
  | .register object namespaces =>
    let namespaces := namespaces.getD [object.cls.name]
    let (id, objects) :=
      w.objects.register (w.objects.place object.cls) object (namespaces.map nameHash)
    (.id id, { w with objects })
  | .remove c id =>
    let (state, objects) := w.objects.remove c id
    (((state.map c.stateType.box).map Reply.state).getD .nothing, { w with objects })
  | .state c id =>
    let (state, w) := w.borrowingAs c id fun state w => (state, w)
    (((state.map c.stateType.box).map Reply.state).getD .nothing, w)
  | .status => (.objects w.objects.size, w)
  | .has id => (.flags (w.objects.contains id) (w.objects.isLive id), w)
  | .entry id => (((w.objects.entry? id).map Reply.object).getD .nothing, w)
  | .note id name =>
    match w.objects.addressOf? id with
    | none => (.flag false, w)
    | some address =>
      (.flag true, { w with host := { w.host with noted := (name, address) :: w.host.noted } })
  | .find place =>
    ((((w.address? place).bind w.objects.findByAddress?).map Reply.id).getD .nothing, w)

def onJournal (w : State) : JournalStep → Reply × State
  | .status =>
    match w.host.style with
    | .memory =>
      (.journal w.journal.kept.length (w.journal.count .error) (w.journal.count .warning)
        (w.journal.count .info), w)
    | .log => (.nothing, w)
  | .take =>
    match w.host.style with
    | .memory =>
      (.texts (w.journal.kept.map Diagnostic.text), { w with journal := { w.journal with kept := [] } })
    | .log => (.nothing, w)
  | .report d => (.nothing, w.report d)

/-- A step on the slot table of an entry. It needs the table for itself. -/
def onSlots (w : State) (entry : Entry Program) : SlotStep → Reply × State
  | .list =>
    let (result, w) := w.locking entry fun w => (.ok ((w.table? entry.key).getD entry.table), w)
    (.slots result, w)
  | .write index value =>
    let (result, w) := w.locking entry fun w =>
      match ((w.table? entry.key).getD entry.table).set index value with
      | .ok table => (.ok (), w.putTable entry.key table)
      | .error e => (.error e, w)
    (.done result, w)
  | .clear =>
    let (result, w) := w.locking entry fun w =>
      (.ok (), w.putTable entry.key ((w.table? entry.key).getD entry.table).clear)
    (.done result, w)

def returned : (t : HostType) → Except BindError t.Carrier → Reply
  | .token _, result => .token result
  | t, result => .value (result.map t.box)

end State

/-- The sum of integer slots, wrapping around; the first slot that holds no integer is an error. -/
def sumSlots : List Slot → Except BindError Int32
  | [] => .ok 0
  | s :: rest => do
    let i ← HostType.int.unbox s.value
    let sum ← sumSlots rest
    return i + sum

def onTable (f : Frame) (w : State) (change : SlotTable → Except BindError SlotTable) :
    Except BindError Unit × State :=
  match w.table? f.context with
  | none => (.ok (), w)
  | some table =>
    match change table with
    | .ok table => (.ok (), w.putTable f.context table)
    | .error e => (.error e, w)

mutual

/-- Runs instructions in order; the first error ends them. `again` runs the programs that a step starts. -/
def runInstructions (again : Runner Program HostState) : List Instruction → Frame → State →
    Except BindError Unit × State
  | [], _, w => (.ok (), w)
  | i :: rest, f, w =>
    match runInstruction again i f w with
    | (.ok (), w) => runInstructions again rest f w
    | (.error e, w) => (.error e, w)

def runInstruction (again : Runner Program HostState) : Instruction → Frame → State →
    Except BindError Unit × State
  | .set slot value, f, w => onTable f w (·.set slot value)
  | .copy source target, f, w => onTable f w fun t => t.set target ((t.value? source).getD .void)
  | .sum, f, w => onTable f w fun t => do t.setResult (.int (← sumSlots t.params))
  | .clear, f, w => onTable f w fun t => .ok t.clear
  | .dump, f, w => (.ok (), ((w.table? f.context).map fun t => w.giveOut (.slots t)).getD w)
  | .receiver, f, w => (if f.hasReceiver then .ok () else .error (.missingReceiver "program"), w)
  | .fail e, _, w => (.error e, w)
  | .step s, _, w =>
    let (answer, w) := runStep again s w
    (.ok (), w.giveOut (.answer answer))

def runStep (again : Runner Program HostState) : Step → State → Answer × State
  | .build s, w =>
    State.answer w (match w.host.builder with
      | some b => w.withoutOutput.build b s
      | none => (.unsupported, w.withoutOutput))
  | .showBinding b, w => State.answer w (.names b.scope b.name, w.withoutOutput)
  | .inspect i, w => State.answer w (if w.isSealed then w.inspect i else .unsupported, w.withoutOutput)
  | .objects s, w => State.answer w (w.withoutOutput.onObjects s)
  | .journal s, w => State.answer w (w.withoutOutput.onJournal s)
  | .publish, w =>
    State.answer w (
      if w.isSealed then
        match w.host.published with
        | some _ => (.done (.error .alreadyInstalled), w.withoutOutput)
        | none =>
          (.done (.ok ()), { w with host := { w.host with published := some w.registry, output := [] } })
      else (.unsupported, w.withoutOutput))
  | .published, w =>
    State.answer w (((w.host.published.map fun r => Reply.count r.entries.size).getD .nothing),
      w.withoutOutput)
  | .call callee scope arguments result, w =>
    State.answer w (
      match w.isSealed, w.target? callee scope with
      | true, some target =>
        let (outcome, w) := (Caller.ofRunner again).call target arguments result w.withoutOutput
        (State.returned result outcome, w)
      | _, _ => (.unsupported, w.withoutOutput))
  | .invoke key arguments receiver, w =>
    State.answer w (
      match w.registry.find? key, receiver with
      | none, _ => (.nothing, w.withoutOutput)
      | some entry, none =>
        let (outcome, w) := w.withoutOutput.invoke again entry none arguments
        (.value outcome, w)
      | some entry, some id =>
        let (outcome, w) := w.withoutOutput.borrowing id fun object w =>
          w.invoke again entry (some (id, object)) arguments
        ((outcome.map Reply.value).getD .unavailable, w))
  | .execute context key object, w =>
    State.answer w (
      match w.registry.find? context with
      | none => (.nothing, w.withoutOutput)
      | some entry =>
        let (outcome, w) := w.withoutOutput.locking entry fun w =>
          let (success, w) := w.executeNative again object key context
          (.ok success, w)
        (.succeeded outcome, w))
  | .slots key s, w =>
    State.answer w (
      match w.registry.find? key with
      | none => (.nothing, w.withoutOutput)
      | some entry => w.withoutOutput.onSlots entry s)
  | .holdTable key steps, w =>
    State.answer w (
      match w.registry.find? key with
      | none => (.nothing, w.withoutOutput)
      | some entry =>
        let (outcome, w) := w.withoutOutput.locking entry fun w =>
          let (answers, w) := runSteps again steps w
          (.ok answers, w)
        (.answers outcome, w))
  | .holdObject id steps, w =>
    State.answer w (
      let (outcome, w) := w.withoutOutput.borrowing id fun _ w => runSteps again steps w
      ((outcome.map fun answers => Reply.answers (.ok answers)).getD .unavailable, w))

def runSteps (again : Runner Program HostState) : List Step → State → List Answer × State
  | [], w => ([], w)
  | s :: rest, w =>
    let (answer, w) := runStep again s w
    let (answers, w) := runSteps again rest w
    (answer :: answers, w)

end

def runNested : Nat → Runner Program HostState
  | 0 => fun _ _ w => (.error (.executionFailed "nesting too deep"), w)
  | depth + 1 => fun p f w => runInstructions (runNested depth) p f w

/-- Runs a program. It and the programs nested in it hold different slot tables, so the number of entries bounds
their nesting. -/
def runProgram : Runner Program HostState := fun p f w =>
  runNested (w.registry.entries.size + 1) p f w

def run (config : BindConfig) (style : JournalStyle) (steps : List Step) : List Answer :=
  (runSteps runProgram steps (.start config style)).1

end ScriptBridge.Session
