import ScriptBridge.Registry

/-! The registration phase as a history of operations, and entries that fit their keys and their slot tables. -/
namespace ScriptBridge

namespace Builder
variable {P : Type}

inductive Operation (P : Type) where
  | mapKind (t : HostType) (k : Kind)
  | register (binding : Binding P)
  | install (bindings : List (Binding P))
  | declareScript (scope name : String) (result : Kind) (params : List (String × Kind)) (body : Option P)
  | attachDefaults (key : EntryKey) (record : DefaultRecord)

def apply (b : Builder P) : Operation P → Builder P
  | .mapKind t k => b.mapKind t k
  | .register binding => (b.register binding).builder
  | .install bindings => (b.install bindings).2.2
  | .declareScript scope name result params body => (b.declareScript scope name result params body).builder
  | .attachDefaults key record => (b.attachDefaults key record).builder

def after (b : Builder P) (history : List (Operation P)) : Builder P := history.foldl apply b

end Builder

/-- The declared shape of an entry is the shape of its slot table, whatever the slots hold. -/
def Entry.Coherent {P : Type} (e : Entry P) : Prop := e.signature = .ofTable e.table

/-- Entries stand under their own keys, and declare the shapes of their slot tables. -/
def Coherent {P : Type} (entries : Directory EntryKey (Entry P)) : Prop :=
  ∀ key e, entries.find? key = some e → e.key = key ∧ e.Coherent

end ScriptBridge
