import ScriptBridge.BindConfig
import ScriptBridge.Diagnostic
import ScriptBridge.Directory
import ScriptBridge.Entry

/-! The registration phase: entries are collected under their keys until the registry is sealed. -/
namespace ScriptBridge

structure Binding (P : Type) where
  scope : String
  name : String
  returnType : HostType
  params : List HostType
  adapter : Adapter P
  defaults : Option DefaultRecord

namespace Binding

variable {P : Type}

def function (name : String) (f : HostFunction) : Binding P :=
  ⟨"", name, f.result, f.params, .function f, none⟩

/-- A method in the namespace of a class name, which need not be that of its receiver. -/
def methodIn (className name : String) (m : HostMethod) : Binding P :=
  ⟨className, name, m.result, m.params, .method m name className, none⟩

def method (name : String) (m : HostMethod) : Binding P := methodIn m.cls.name name m

def withDefaults (b : Binding P) (record : DefaultRecord) : Binding P := { b with defaults := some record }

def label (b : Binding P) : String := qualifiedName b.scope b.name

end Binding

structure Builder (P : Type) where
  config : BindConfig
  kinds : KindMap
  entries : Directory EntryKey (Entry P)

namespace Builder

variable {P : Type}

def new (config : BindConfig) : Builder P := ⟨config, .builtIn, .empty⟩

structure Outcome (P α : Type) where
  result : Except BindError α
  reports : List Diagnostic
  builder : Builder P

/-- A failed operation reports its error once and leaves the builder alone. -/
def fail {α : Type} (b : Builder P) (e : BindError) : Outcome P α := ⟨.error e, [.ofError e], b⟩

def mapKind (b : Builder P) (t : HostType) (k : Kind) : Builder P :=
  { b with kinds := b.kinds.register t k }

def checkArity (b : Builder P) (scope name : String) (arity : Nat) : Except BindError Unit :=
  if b.config.maxParameters < arity then
    .error (.tooManyParameters (qualifiedName scope name) arity b.config.maxParameters)
  else .ok ()

/-- Publishes an entry under its key. If the key is taken, the policy either refuses the entry or lets it take
the place of the earlier one, with a warning. -/
def publish (b : Builder P) (entry : Entry P) : Outcome P EntryKey :=
  let done (reports : List Diagnostic) : Outcome P EntryKey :=
    ⟨.ok entry.key, reports, { b with entries := b.entries.insert entry.key entry }⟩
  match b.entries.find? entry.key, b.config.duplicatePolicy with
  | none, _ => done []
  | some existing, .reject => b.fail (.registrationConflict existing.scope existing.name)
  | some _, .lastWins =>
    done [⟨.warning, s!"'{entry.qualified}' registered twice, replacing the earlier entry"⟩]

/-- The entry of a binding. The parameter count is checked first, then the types, then the default record. -/
def nativeEntry (b : Builder P) (binding : Binding P) : Except BindError (Entry P) := do
  b.checkArity binding.scope binding.name binding.params.length
  let table ← SlotTable.ofSignature b.kinds binding.returnType binding.params
  if let some record := binding.defaults then
    record.validate binding.label table b.config.validateDefaults
  return { Entry.make binding.scope binding.name (.native binding.adapter) table with
    defaults := binding.defaults }

def register (b : Builder P) (binding : Binding P) : Outcome P EntryKey :=
  match b.nativeEntry binding with
  | .error e => b.fail e
  | .ok entry => b.publish entry

def declareScript (b : Builder P) (scope name : String) (result : Kind) (params : List (String × Kind))
    (body : Option P) : Outcome P EntryKey :=
  match (do b.checkArity scope name params.length; SlotTable.ofScript result params) with
  | .error e => b.fail e
  | .ok table => b.publish (Entry.make scope name (.script body) table)

structure InstallReport where
  installed : List EntryKey
  failed : List (String × BindError)

def InstallReport.isOk (r : InstallReport) : Bool := r.failed.isEmpty

/-- Registers bindings in order. A failure is recorded and does not stop the others. -/
def install (b : Builder P) : List (Binding P) → InstallReport × List Diagnostic × Builder P
  | [] => (⟨[], []⟩, [], b)
  | binding :: rest =>
    let first := b.register binding
    let (report, reports, last) := first.builder.install rest
    let report : InstallReport :=
      match first.result with
      | .ok key => { report with installed := key :: report.installed }
      | .error e => { report with failed := (binding.label, e) :: report.failed }
    (report, first.reports ++ reports, last)

def attachDefaults (b : Builder P) (key : EntryKey) (record : DefaultRecord) : Outcome P Unit :=
  match b.entries.find? key with
  | none => b.fail (.targetNotFound s!"no entry for key {key.text}")
  | some entry =>
    if entry.defaults.isSome then b.fail (.defaultsAlreadyAttached entry.qualified)
    else match record.validate entry.qualified entry.table b.config.validateDefaults with
      | .error e => b.fail e
      | .ok () =>
        ⟨.ok (), [], { b with
          entries := b.entries.modify key fun e => { e with defaults := some record } }⟩

end Builder
end ScriptBridge
