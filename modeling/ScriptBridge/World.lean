import ScriptBridge.Registry

/-! The state of a running host: the sealed registry with its slot tables, the tables and objects in use, and the
journal. `P` is the type of hand-written code and `H` that of whatever else the host keeps. -/
namespace ScriptBridge

/-- Diagnostics since the journal was last emptied, and those not yet shown to the host, both oldest first. -/
structure Journal where
  kept : List Diagnostic
  unseen : List Diagnostic

namespace Journal

def empty : Journal := ⟨[], []⟩

def report (j : Journal) (d : Diagnostic) : Journal := ⟨j.kept ++ [d], j.unseen ++ [d]⟩

def count (j : Journal) (s : Severity) : Nat := j.kept.countP (·.severity = s)

end Journal

/-- The state that calls run against. `held` lists the entries whose slot tables are in use, latest first. -/
structure World (P H : Type) where
  registry : Registry P
  held : List EntryKey
  objects : ObjectTable
  journal : Journal
  host : H

namespace World

variable {P H α : Type}

def report (w : World P H) (d : Diagnostic) : World P H := { w with journal := w.journal.report d }

/-- Passes a result on; the error of a failed operation is reported once. -/
def reporting (outcome : Except BindError α × World P H) : Except BindError α × World P H :=
  match outcome with
  | (.ok a, w) => (.ok a, w)
  | (.error e, w) => (.error e, w.report (.ofError e))

def table? (w : World P H) (key : EntryKey) : Option SlotTable := (w.registry.find? key).map (·.table)

def putTable (w : World P H) (key : EntryKey) (table : SlotTable) : World P H :=
  { w with registry := { w.registry with
      entries := w.registry.entries.modify key fun e => { e with table } } }

/-- Uses the slot table of an entry for the time of `body`. While a table is in use nothing else gets it. -/
def locking (w : World P H) (entry : Entry P) (body : World P H → Except BindError α × World P H) :
    Except BindError α × World P H :=
  if entry.key ∈ w.held then (.error (.contextBusy entry.qualified), w)
  else
    let (result, w) := body { w with held := entry.key :: w.held }
    (result, { w with held := w.held.erase entry.key })

/-- Uses an object for the time of `body`, if it is there and not in use already. -/
def borrowing (w : World P H) (id : ObjectId) (body : HostObject → World P H → α × World P H) :
    Option α × World P H :=
  match w.objects.available? id with
  | none => (none, w)
  | some object =>
    let (result, w) :=
      body object { w with objects := { w.objects with borrowed := id :: w.objects.borrowed } }
    (some result, { w with objects := { w.objects with borrowed := w.objects.borrowed.erase id } })

def borrowingAs (w : World P H) (c : HostClass) (id : ObjectId) (body : c.State → World P H → α × World P H) :
    Option α × World P H :=
  let (outcome, w) := w.borrowing id fun object w =>
    match object.stateOf? c with
    | none => (none, w)
    | some state =>
      let (a, w) := body state w
      (some a, w)
  (outcome.join, w)

end World
end ScriptBridge
