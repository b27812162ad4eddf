import ScriptBridge.Builder
import ScriptBridge.ObjectTable

/-! The sealed registry and the look-ups on it. -/
namespace ScriptBridge

/-- The entries that calls are made against. Only the values in their slot tables still change. -/
structure Registry (P : Type) where
  config : BindConfig
  kinds : KindMap
  entries : Directory EntryKey (Entry P)

def Builder.build {P : Type} (b : Builder P) : Registry P := ⟨b.config, b.kinds, b.entries⟩

namespace Registry

variable {P : Type}

def find? (r : Registry P) (key : EntryKey) : Option (Entry P) := r.entries.find? key

def findByName? (r : Registry P) (scope name : String) : Option (Entry P) := r.find? (.ofNames scope name)

def findFunction? (r : Registry P) (name : UInt32) : Option (Entry P) := r.find? ⟨globalScope, name⟩

/-- The method of an object. Without a scope its namespaces are searched in order; a scope has to be among them
and is the only one searched. -/
def findMethod? (r : Registry P) (object : ObjectEntry) (scope name : UInt32) : Option (Entry P) :=
  if scope = globalScope then object.namespaces.findSome? fun s => r.find? ⟨s, name⟩
  else if object.hasNamespace scope then r.find? ⟨scope, name⟩
  else none

def describe? (r : Registry P) (key : EntryKey) : Option String := (r.find? key).map (·.describe)

def listing (r : Registry P) : List (EntryKey × String) :=
  (r.entries.entries.map fun (key, entry) => (key, entry.qualified)).mergeSort fun a b => a.1.le b.1

end Registry
end ScriptBridge
