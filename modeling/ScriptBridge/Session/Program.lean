import ScriptBridge.Call

/-! Finite programs: what a host does in one run, and what script bodies and hand-written adapters do within it. -/
namespace ScriptBridge.Session

/-- A receiver as a program names it: by id, by an address noted earlier, or by a number that is taken for an
address. -/
inductive Place where
  | id (id : ObjectId)
  | noted (name : String)
  | number (n : Nat)

inductive Callee where
  | function (name : String)
  | functionHash (name : UInt32)
  | method (receiver : Place) (name : String)
  | methodHash (receiver : Place) (scope name : UInt32)

inductive BuildStep (P : Type) where
  | mapKind (t : HostType) (k : Kind)
  | register (binding : Binding P)
  | install (bindings : List (Binding P))
  | declare (scope name : String) (result : Kind) (params : List (String × Kind)) (body : Option P)
  | attach (key : EntryKey) (record : DefaultRecord)
  | status
  | has (key : EntryKey)
  | build

inductive Inspection where
  | registry
  | kindOf (t : HostType)
  | entry (key : EntryKey)
  | find (scope name : String)
  | findFunction (name : UInt32)
  | findMethod (namespaces : List String) (scope name : String)
  | describe (key : EntryKey)
  | debug (key : EntryKey)

inductive ObjectStep where
  | register (object : HostObject) (namespaces : Option (List String))
  | remove (c : HostClass) (id : ObjectId)
  | state (c : HostClass) (id : ObjectId)
  | status
  | has (id : ObjectId)
  | entry (id : ObjectId)
  | note (id : ObjectId) (name : String)
  | find (place : Place)

inductive JournalStep where
  | status
  | take
  | report (d : Diagnostic)

inductive SlotStep where
  | list
  | write (index : Nat) (value : SlotValue)
  | clear

mutual

inductive Instruction where
  | set (slot : Nat) (value : SlotValue)
  | copy (source target : Nat)
  | sum
  | clear
  | dump
  | receiver
  | fail (e : BindError)
  | step (s : Step)

inductive Step where
  | build (s : BuildStep (List Instruction))
  | showBinding (binding : Binding (List Instruction))
  | inspect (i : Inspection)
  | objects (s : ObjectStep)
  | journal (s : JournalStep)
  | publish
  | published
  | call (callee : Callee) (scope : Option String) (arguments : List Argument) (result : HostType)
  | invoke (key : EntryKey) (arguments : List SlotValue) (receiver : Option ObjectId)
  | execute (context key : EntryKey) (object : ObjectId)
  | slots (key : EntryKey) (s : SlotStep)
  | holdTable (key : EntryKey) (steps : List Step)
  | holdObject (id : ObjectId) (steps : List Step)

end

def Step.callWith (callee : Callee) (scope : Option String) (l : ArgumentList) (result : HostType) : Step :=
  .call callee scope l.sources result

abbrev Program := List Instruction

mutual

inductive Reply where
  | nothing
  | flag (b : Bool)
  | count (n : Nat)
  | text (s : String)
  | texts (ss : List String)
  | kind (k : Kind)
  | id (id : ObjectId)
  | flags (first second : Bool)
  | names (scope name : String)
  | status (size : Nat) (config : BindConfig)
  | listing (config : BindConfig) (entries : List (EntryKey × String))
  | entry (e : Entry Program)
  | debug (registry : String) (entry : Option String)
  | object (e : ObjectEntry)
  | objects (size : Nat)
  | journal (size errors warnings infos : Nat)
  | installed (report : Builder.InstallReport)
  | key (result : Except BindError EntryKey)
  | done (result : Except BindError Unit)
  | succeeded (result : Except BindError Bool)
  | value (result : Except BindError SlotValue)
  | token (result : Except BindError Unit)
  | state (value : SlotValue)
  | slots (result : Except BindError SlotTable)
  | answers (result : Except BindError (List Answer))
  | unavailable
  | unsupported

/-- What a step answers, with the diagnostics that nobody has been shown before and what the programs run by the
step gave out. -/
inductive Answer where
  | mk (reply : Reply) (diagnostics : List String) (output : List Output)

inductive Output where
  | answer (a : Answer)
  | slots (table : SlotTable)

end

end ScriptBridge.Session
