import ScriptBridge.Argument
import ScriptBridge.Dispatch

/-! Calls from the host: by name with conversion of the arguments and the result, or directly on an entry. -/
namespace ScriptBridge

inductive ObjectRef where
  | named (id : ObjectId)
  | located (address : Address)

def ObjectRef.text : ObjectRef → String
  | .named id => "object " ++ id.text
  | .located address => "object at " ++ address.text

/-- The callee of a call, and the name by which errors mention it. Of a method the scope may be the global one, which
stands for all namespaces of the object. -/
inductive CallTarget where
  | function (name : UInt32) (label : String)
  | method (object : ObjectRef) (scope name : UInt32) (label : String)

namespace CallTarget

def ofName (name : String) : CallTarget := .function (nameHash name) name

def ofHash (name : UInt32) : CallTarget := .function name ("#" ++ Number.hexWord name)

def methodOfName (object : ObjectRef) (name : String) : CallTarget :=
  .method object globalScope (nameHash name) name

def methodOfHash (object : ObjectRef) (scope name : UInt32) : CallTarget :=
  .method object scope name ("#" ++ Number.hexWord name)

/-- Restricts a method to one namespace. A function stays as it is. -/
def inNamespace (t : CallTarget) (scope : String) : CallTarget :=
  match t with
  | .function name label => .function name label
  | .method object _ name label => .method object (nameHash scope) name (scope ++ "::" ++ label)

end CallTarget

/-- A call that has passed every check: the entry, the receiver or the null id, the converted arguments, and the kind
of the requested result. -/
structure PreparedCall (P : Type) where
  entry : Entry P
  object : ObjectId
  arguments : List SlotValue
  resultKind : Kind

/-- What a call asks about objects: which one lies at an address, what stands behind an id, and which ids scripts may
take for objects. The answers come from the objects and from what the host keeps. -/
structure ObjectRegistry (H : Type) where
  findByAddress? : ObjectTable → H → Address → Option ObjectId
  entry? : ObjectTable → H → ObjectId → Option ObjectEntry
  isLive : ObjectTable → H → ObjectId → Bool

def ObjectRegistry.ofTable {H : Type} : ObjectRegistry H where
  findByAddress? objects _ := objects.findByAddress?
  entry? objects _ := objects.entry?
  isLive objects _ := objects.isLive

namespace World

variable {P H : Type}

def fill (w : World P H) (key : EntryKey) (values : List SlotValue) : Except BindError Unit × World P H :=
  match w.table? key with
  | none => (.ok (), w)
  | some table =>
    let (result, table) := table.fill 1 values
    (result, w.putTable key table)

def resultValue (w : World P H) (key : EntryKey) : SlotValue :=
  ((w.table? key).map (·.result.value)).getD .void

end World

structure Caller (P H : Type) where
  executor : Executor P H
  objects : ObjectRegistry H

namespace Caller

variable {P H : Type}

def ofRunner (run : Runner P H) : Caller P H := ⟨World.execute run, .ofTable⟩

def receiver (c : Caller P H) (w : World P H) : ObjectRef → Except BindError ObjectId
  | .named id => .ok id
  | .located address =>
    match c.objects.findByAddress? w.objects w.host address with
    | some id => .ok id
    | none => .error (.targetNotFound (ObjectRef.located address).text)

def resolveMethod (c : Caller P H) (w : World P H) (id : ObjectId) (scope name : UInt32) (label : String) :
    Except BindError (Entry P × ObjectId) :=
  match c.objects.entry? w.objects w.host id with
  | none => .error (.targetNotFound (ObjectRef.named id).text)
  | some receiver =>
    match w.registry.findMethod? receiver scope name with
    | some entry => .ok (entry, id)
    | none => .error (.targetNotFound s!"method '{label}' on object {id.text}")

def resolve (c : Caller P H) (w : World P H) : CallTarget → Except BindError (Entry P × ObjectId)
  | .function name label =>
    match w.registry.findFunction? name with
    | some entry => .ok (entry, .none)
    | none => .error (.targetNotFound s!"function '{label}'")
  | .method object scope name label => do c.resolveMethod w (← c.receiver w object) scope name label

/-- The checks of a call, none of which changes anything: the target, the argument count, the requested type, and
each argument. -/
def prepareSupplied (c : Caller P H) (w : World P H) (target : CallTarget) (supply : Supply) (result : HostType) :
    Except BindError (PreparedCall P) := do
  let (entry, object) ← c.resolve w target
  if supply.count ≠ entry.arity then
    .error (.arityMismatch entry.qualified entry.arity supply.count)
  else
    let resultKind := w.registry.kinds.kindOf result
    if !resultKind.isRegistered then .error (.unsupportedReturnType result.label)
    else
      let values ← convertArguments (c.objects.isLive w.objects w.host) entry.qualified 1 supply.arguments
        entry.signature.params
      return { entry, object, arguments := values, resultKind }

def prepare (c : Caller P H) (w : World P H) (target : CallTarget) (arguments : List Argument)
    (result : HostType) : Except BindError (PreparedCall P) :=
  c.prepareSupplied w target (.ofList arguments) result

/-- Runs a prepared call on the slot table of its entry, and takes what is then in the result slot. -/
def perform (c : Caller P H) (call : PreparedCall P) (w : World P H) : Except BindError SlotValue × World P H :=
  w.locking call.entry fun w =>
    match w.fill call.entry.key call.arguments with
    | (.error e, w) => (.error e, w)
    | (.ok (), w) =>
      match c.executor call.object call.entry.key call.entry.key w with
      | (true, w) => (.ok (w.resultValue call.entry.key), w)
      | (false, w) => (.error (.executionFailed call.entry.qualified), w)

def convertResult (c : Caller P H) (w : World P H) (function : String) (kind : Kind) (t : HostType)
    (v : SlotValue) : Except BindError t.Carrier :=
  match Conversion.convert? (c.objects.isLive w.objects w.host) v kind with
  | none => .error (.returnConversionFailed function v.kind kind)
  | some converted =>
    match t.unbox converted with
    | .ok a => .ok a
    | .error _ => .error (.returnConversionFailed function converted.kind kind)

def complete (c : Caller P H) (prepared : Except BindError (PreparedCall P)) (result : HostType) (w : World P H) :
    Except BindError result.Carrier × World P H :=
  match prepared with
  | .error e => (.error e, w)
  | .ok call =>
    match c.perform call w with
    | (.error e, w) => (.error e, w)
    | (.ok v, w) => (c.convertResult w call.entry.qualified call.resultKind result v, w)

def attempt (c : Caller P H) (target : CallTarget) (arguments : List Argument) (result : HostType)
    (w : World P H) : Except BindError result.Carrier × World P H :=
  c.complete (c.prepare w target arguments result) result w

/-- Calls a function or method with arguments of any kinds and converts its result to the requested type. A failure
is reported once. -/
def call (c : Caller P H) (target : CallTarget) (arguments : List Argument) (result : HostType)
    (w : World P H) : Except BindError result.Carrier × World P H :=
  World.reporting (c.attempt target arguments result w)

def callSupplied (c : Caller P H) (target : CallTarget) (supply : Supply) (result : HostType)
    (w : World P H) : Except BindError result.Carrier × World P H :=
  World.reporting (c.complete (c.prepareSupplied w target supply result) result w)

end Caller

namespace World

variable {P H : Type}

def checkKinds : Nat → List SlotValue → List Kind → Except BindError Unit
  | position, v :: vs, k :: ks =>
    if v.kind = k then checkKinds (position + 1) vs ks
    else .error (.slotKindMismatch position k v.kind)
  | _, _, _ => .ok ()

def attemptInvoke (run : Runner P H) (entry : Entry P) (receiver : Option (ObjectId × HostObject))
    (arguments : List SlotValue) (w : World P H) : Except BindError SlotValue × World P H :=
  match entry.adapter? with
  | none => (.error (.executionFailed
      s!"'{entry.qualified}' is script-defined and has no native adapter"), w)
  | some adapter =>
    if arguments.length ≠ entry.arity then
      (.error (.arityMismatch entry.qualified entry.arity arguments.length), w)
    else match checkKinds 1 arguments entry.signature.params with
      | .error e => (.error e, w)
      | .ok () => w.locking entry fun w =>
        match w.fill entry.key arguments with
        | (.error e, w) => (.error e, w)
        | (.ok (), w) =>
          match w.dispatch run adapter entry.key receiver with
          | (.error e, w) => (.error e, w)
          | (.ok (), w) => (.ok (w.resultValue entry.key), w)

/-- Calls a native entry with values that have the kinds of its slots already. A failure is reported once. -/
def invoke (run : Runner P H) (entry : Entry P) (receiver : Option (ObjectId × HostObject))
    (arguments : List SlotValue) (w : World P H) : Except BindError SlotValue × World P H :=
  reporting (w.attemptInvoke run entry receiver arguments)

end World
end ScriptBridge
