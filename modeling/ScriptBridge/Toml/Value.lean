/-! The values of a TOML document. -/
namespace ScriptBridge.Toml

/-- How a table came about, which decides what may still be added to it. An inline table is complete; the others come
from a header, from the path of a header, or from a dotted key. -/
inductive Origin where
  | inline | header | implicit | dotted
deriving DecidableEq

/-- A value. Of floats and dates only the text is kept. An array is complete unless headers make it up. -/
inductive Value where
  | string (s : String)
  | integer (i : Int)
  | float (text : String)
  | boolean (b : Bool)
  | datetime (text : String)
  | array (complete : Bool) (items : List Value)
  | table (origin : Origin) (entries : List (String × Value))

structure Table where
  origin : Origin
  entries : List (String × Value)

namespace Table

def value (t : Table) : Value := .table t.origin t.entries

def find? (t : Table) (key : String) : Option Value := t.entries.lookup key

def put (t : Table) (key : String) (v : Value) : Table :=
  if (t.find? key).isSome then
    { t with entries := t.entries.map fun e => if e.1 = key then (key, v) else e }
  else { t with entries := t.entries ++ [(key, v)] }

/-- The table that an entry lets a path go on into, and the entry that holds the table after a change. A missing entry
becomes a new table, and an array made up by headers stands for its last table. -/
def enter? (dotted : Bool) : Option Value → Option (Table × (Table → Value))
  | none => some (⟨if dotted then .dotted else .implicit, []⟩, Table.value)
  | some (.table origin entries) =>
    if origin = .inline ∨ (dotted ∧ origin = .header) then none else some (⟨origin, entries⟩, Table.value)
  | some (.array false items) =>
    match items.getLast? with
    | some (.table origin entries) =>
      some (⟨origin, entries⟩, fun t => .array false (items.dropLast ++ [t.value]))
    | _ => none
  | some _ => none

def changeAt (dotted : Bool) (t : Table) : List String → (Table → Option Table) → Option Table
  | [], change => change t
  | key :: path, change => do
    let (inner, wrap) ← enter? dotted (t.find? key)
    return t.put key (wrap (← inner.changeAt dotted path change))

/-- Adds the value of a key, whose path goes through dotted tables only. No key is set twice. -/
def addPair (t : Table) (path : List String) (key : String) (v : Value) : Option Table :=
  t.changeAt true path fun inner =>
    if (inner.origin = .dotted) = path.isEmpty ∨ (inner.find? key).isSome then none
    else some (inner.put key v)

/-- Opens the table of a header. A table may have been a part of a path before, but not a table in its own right. -/
def addHeader (t : Table) (path : List String) (key : String) : Option Table :=
  t.changeAt false path fun outer =>
    match outer.find? key with
    | none => some (outer.put key (.table .header []))
    | some (.table .implicit entries) => some (outer.put key (.table .header entries))
    | some _ => none

def addElement (t : Table) (path : List String) (key : String) : Option Table :=
  t.changeAt false path fun outer =>
    match outer.find? key with
    | none => some (outer.put key (.array false [.table .header []]))
    | some (.array false items) => some (outer.put key (.array false (items ++ [.table .header []])))
    | some _ => none

end Table
end ScriptBridge.Toml
