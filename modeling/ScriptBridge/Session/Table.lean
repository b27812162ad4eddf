import ScriptBridge.DefaultRecord
import ScriptBridge.HostFunction

/-! Runs of steps on a single slot table. -/
namespace ScriptBridge.Session

inductive TableStep where
  | set (index : Nat) (value : SlotValue)
  | setResult (value : SlotValue)
  | value (index : Nat)
  | result
  | name (index : Nat)
  | kind (index : Nat)
  | find (name : String)
  | kinds
  | clear
  | dump
  | dispatch (f : HostFunction)
  | validate (function : String) (kinds : Bool) (record : DefaultRecord)

inductive TableReply where
  | nothing
  | done (result : Except BindError Unit)
  | value (v : Option SlotValue)
  | result (v : SlotValue) (kind : Kind)
  | name (s : Option String)
  | kind (k : Option Kind)
  | index (i : Option Nat)
  | kinds (ks : List Kind)
  | table (t : SlotTable)

/-- Takes over a changed table; on an error the table stays. -/
def concludeChange (t : SlotTable) : Except BindError SlotTable → TableReply × SlotTable
  | .ok changed => (.done (.ok ()), changed)
  | .error e => (.done (.error e), t)

def runTableStep (t : SlotTable) : TableStep → TableReply × SlotTable
  | .set index value => concludeChange t (t.set index value)
  | .setResult value => concludeChange t (t.setResult value)
  | .value index => (.value (t.value? index), t)
  | .result => (.result t.result.value t.result.kind, t)
  | .name index => (.name ((t.slot? index).map (·.name)), t)
  | .kind index => (.kind ((t.slot? index).map (·.kind)), t)
  | .find name => (.index (t.find? (nameHash name)), t)
  | .kinds => (.kinds (t.params.map (·.kind)), t)
  | .clear => (.nothing, t.clear)
  | .dump => (.table t, t)
  | .dispatch f => concludeChange t (f.dispatch t)
  | .validate function kinds record => (.done (record.validate function t kinds), t)

def runTableSteps (t : SlotTable) : List TableStep → List TableReply × SlotTable
  | [] => ([], t)
  | s :: rest =>
    let (reply, t) := runTableStep t s
    let (replies, t) := runTableSteps t rest
    (reply :: replies, t)

end ScriptBridge.Session
