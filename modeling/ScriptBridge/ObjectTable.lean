import ScriptBridge.Directory
import ScriptBridge.HostFunction

/-! The table that owns host objects and resolves them by id and by address. -/
namespace ScriptBridge

/-- Where an object lies: a number that host code gives, which is no object's address, or a cell of storage. -/
inductive Address where
  | given (number : Nat)
  | cell (number : Nat)
deriving DecidableEq

def Address.text : Address → String
  | .given n => "0x" ++ String.ofList (Nat.toDigits 16 n)
  | .cell _ => "<addr>"

/-- What other parts know of an object: its id and the hashes of its namespaces, most derived first. -/
structure ObjectEntry where
  id : ObjectId
  namespaces : List UInt32

def ObjectEntry.hasNamespace (e : ObjectEntry) (scope : UInt32) : Bool := e.namespaces.contains scope

/-- Whether an id names an object, given which ids have an entry. The null id never does. -/
def ObjectId.isLive (hasEntry : ObjectId → Bool) (id : ObjectId) : Bool := !id.isNone && hasEntry id

structure ObjectRecord where
  object : HostObject
  namespaces : List UInt32
  address : Address

/-- The objects by id, the ids by address, and the ids whose objects are in use. -/
structure ObjectTable where
  lastId : UInt32
  records : Directory ObjectId ObjectRecord
  byAddress : Directory Address ObjectId
  borrowed : List ObjectId

namespace ObjectTable

def empty : ObjectTable := ⟨0, .empty, .empty, []⟩

def size (t : ObjectTable) : Nat := t.records.size

def contains (t : ObjectTable) (id : ObjectId) : Bool := t.records.contains id

def isLive (t : ObjectTable) (id : ObjectId) : Bool := id.isLive t.contains

def entry? (t : ObjectTable) (id : ObjectId) : Option ObjectEntry :=
  (t.records.find? id).map fun r => ⟨id, r.namespaces⟩

def addressOf? (t : ObjectTable) (id : ObjectId) : Option Address :=
  (t.records.find? id).map (·.address)

def findByAddress? (t : ObjectTable) (address : Address) : Option ObjectId := t.byAddress.find? address

/-- Where the next object comes to lie: objects without storage share one cell, any other gets a cell of its own. -/
def place (t : ObjectTable) (c : HostClass) : Address :=
  if c.isZeroSized then .cell 0 else .cell (t.lastId.toNat + 1)

/-- Adds an object that lies at an address, under the next id. An object that comes to lie where another one does
takes over the address. -/
def register (t : ObjectTable) (address : Address) (object : HostObject) (namespaces : List UInt32) :
    ObjectId × ObjectTable :=
  let id : ObjectId := ⟨t.lastId + 1⟩
  (id, { t with
    lastId := id.number
    records := t.records.insert id { object, namespaces, address }
    byAddress := t.byAddress.insert address id })

/-- Takes an object out of the table. Its state comes back only if it has the class asked for and is not in use;
otherwise the object is lost. -/
def remove (t : ObjectTable) (c : HostClass) (id : ObjectId) : Option c.State × ObjectTable :=
  match t.records.find? id with
  | none => (none, t)
  | some record =>
    let byAddress :=
      if t.byAddress.find? record.address = some id then t.byAddress.erase record.address
      else t.byAddress
    let state := if id ∈ t.borrowed then none else record.object.stateOf? c
    (state, { t with records := t.records.erase id, byAddress })

def available? (t : ObjectTable) (id : ObjectId) : Option HostObject :=
  if id ∈ t.borrowed then none else (t.records.find? id).map (·.object)

def put (t : ObjectTable) (id : ObjectId) (object : HostObject) : ObjectTable :=
  { t with records := t.records.modify id fun r => { r with object } }

end ObjectTable
end ScriptBridge
