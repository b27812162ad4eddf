import ScriptBridge.KindMap
import ScriptBridge.NameHash

/-! Slot tables: the storage through which a function takes its arguments and gives its result. -/
namespace ScriptBridge

/-- One cell of a slot table. A slot of a script-defined function has no native type. -/
structure Slot where
  name : String
  kind : Kind
  hostType : Option HostType
  value : SlotValue
deriving DecidableEq

namespace Slot

def key (s : Slot) : UInt32 := nameHash s.name

def forResult (kind : Kind) (hostType : Option HostType) : Except BindError Slot :=
  if kind.isRegistered then .ok ⟨"__return", kind, hostType, .void⟩
  else .error (.unrecognizedType ((hostType.map HostType.label).getD kind.text) 0)

def forParameter (name : String) (kind : Kind) (hostType : Option HostType) (position : Nat) :
    Except BindError Slot :=
  if kind.isParameter then .ok ⟨name, kind, hostType, .void⟩
  else .error (.unrecognizedType ((hostType.map HostType.label).getD kind.text) position)

end Slot

/-- The slots of a function: slot zero for the result, then one for each parameter. -/
structure SlotTable where
  result : Slot
  params : List Slot
deriving DecidableEq

namespace SlotTable

def parameterName (position : Nat) : String := "_p" ++ toString position

/-- The table of a native signature. Every type has to map to a kind, and a parameter not to the void kind. -/
def ofSignature (kinds : KindMap) (result : HostType) (params : List HostType) :
    Except BindError SlotTable := do
  let result ← Slot.forResult (kinds.kindOf result) (some result)
  let params ← (params.zipIdx 1).mapM fun (t, position) =>
    Slot.forParameter (parameterName position) (kinds.kindOf t) (some t) position
  return { result, params }

def ofScript (result : Kind) (params : List (String × Kind)) : Except BindError SlotTable := do
  let result ← Slot.forResult result none
  let params ← (params.zipIdx 1).mapM fun ((name, kind), position) =>
    Slot.forParameter name kind none position
  return { result, params }

def slots (t : SlotTable) : List Slot := t.result :: t.params

def arity (t : SlotTable) : Nat := t.params.length

def slot? (t : SlotTable) (index : Nat) : Option Slot := t.slots[index]?

def value? (t : SlotTable) (index : Nat) : Option SlotValue := (t.slot? index).map (·.value)

def find? (t : SlotTable) (key : UInt32) : Option Nat := t.slots.findIdx? (·.key == key)

def put (t : SlotTable) (value : SlotValue) : Nat → SlotTable
  | 0 => { t with result := { t.result with value } }
  | i + 1 => { t with params := t.params.modify i fun s => { s with value } }

/-- Writes a slot. The value must have the kind of the slot exactly. -/
def set (t : SlotTable) (index : Nat) (value : SlotValue) : Except BindError SlotTable :=
  match t.slot? index with
  | none => .error (.slotKindMismatch index .unregistered value.kind)
  | some slot =>
    if value.kind = slot.kind then .ok (t.put value index)
    else .error (.slotKindMismatch index slot.kind value.kind)

def setResult (t : SlotTable) (value : SlotValue) : Except BindError SlotTable := t.set 0 value

/-- Writes slots in order from a position on, up to the first that refuses its value. The slots written before
it keep what they were given. -/
def fill (t : SlotTable) (position : Nat) : List SlotValue → Except BindError Unit × SlotTable
  | [] => (.ok (), t)
  | v :: vs =>
    match t.set position v with
    | .ok t => t.fill (position + 1) vs
    | .error e => (.error e, t)

def clear (t : SlotTable) : SlotTable :=
  { result := { t.result with value := .void }
    params := t.params.map fun s => { s with value := .void } }

end SlotTable
end ScriptBridge
