import ScriptBridge.HostType

/-! The mapping of native types to kinds. -/
namespace ScriptBridge

/-- Which kind each native type has. A type occurs at most once; a type that does not occur is unregistered. -/
structure KindMap where
  entries : List (HostType × Kind)

namespace KindMap

def empty : KindMap := ⟨[]⟩

def kindOf (m : KindMap) (t : HostType) : Kind := (m.entries.lookup t).getD .unregistered

/-- Maps a type to a kind, in place of its earlier kind. The unregistered kind removes the type. -/
def register (m : KindMap) (t : HostType) (k : Kind) : KindMap :=
  let others := m.entries.filter (·.1 ≠ t)
  ⟨if k.isRegistered then (t, k) :: others else others⟩

def size (m : KindMap) : Nat := m.entries.length

def builtIn : KindMap :=
  ⟨[(.unit, .void), (.int, .int), (.float, .float), (.bool, .bool), (.string, .string),
    (.literal, .string), (.object, .object), (.vector, .vector)]⟩

end KindMap
end ScriptBridge
