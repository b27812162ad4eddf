import ScriptBridge.Number.Digits

/-! Hashes of names, and the keys under which entries are published. -/
namespace ScriptBridge

def hashBytes (bytes : List UInt8) : UInt32 :=
  bytes.foldl (fun h b => h * 33 + b.toUInt32) 5381

/-- The hash of a name. The empty name, which is the global scope, has the hash zero. -/
def nameHash (name : String) : UInt32 :=
  if name = "" then 0 else hashBytes name.toUTF8.data.toList

def globalScope : UInt32 := 0

structure EntryKey where
  scope : UInt32
  name : UInt32
deriving DecidableEq

namespace EntryKey

def ofNames (scope name : String) : EntryKey := ⟨nameHash scope, nameHash name⟩

def text (key : EntryKey) : String := Number.hexWord key.scope ++ ":" ++ Number.hexWord key.name

def le (a b : EntryKey) : Bool :=
  a.scope < b.scope || (a.scope == b.scope && a.name ≤ b.name)

end EntryKey

/-- A name with its scope in front, unless it is a free function. -/
def qualifiedName (scope name : String) : String :=
  if scope = "" then name else scope ++ "::" ++ name

end ScriptBridge
