import ScriptBridge.Conversion
import ScriptBridge.HostType

/-! Arguments of calls from the host: the forms in which they are passed, and their conversion to the kinds of slots. -/
namespace ScriptBridge

inductive Argument where
  | value (v : SlotValue)
  | text (s : String)

namespace Argument

def asValue : Argument → SlotValue
  | .value v => v
  | .text s => .string s

def convert? (live : ObjectId → Bool) : Argument → Kind → Option SlotValue
  | .value v, k => Conversion.convert? live v k
  | .text s, k => Conversion.ofText? s k

end Argument

def plainTypes : List HostType := [.int, .float, .bool, .object, .vector, .value]

inductive HostArgument where
  | plain (t : HostType) (isPlain : t ∈ plainTypes) (a : t.Carrier)
  | text (s : String)
  | ownedText (s : String)
  | borrowed (a : HostArgument)

def HostArgument.source : HostArgument → Argument
  | .plain t _ a => .value (t.box a)
  | .text s | .ownedText s => .text s
  | .borrowed a => a.source

/-- How the tuples of one size are passed: as how many arguments they count, and the positions of the components that are
handed over. -/
structure TupleForm where
  count : Nat
  positions : List Nat
deriving DecidableEq

def tupleForms : List TupleForm := [
  ⟨0, []⟩,
  ⟨1, [0]⟩,
  ⟨2, [0, 1]⟩,
  ⟨3, [0, 1, 2]⟩,
  ⟨4, [0, 1, 2, 3]⟩,
  ⟨5, [0, 1, 2, 3, 4]⟩,
  ⟨6, [0, 1, 2, 3, 4, 5]⟩,
  ⟨7, [0, 1, 2, 3, 4, 5, 6]⟩,
  ⟨8, [0, 1, 2, 3, 4, 5, 6, 7]⟩,
  ⟨9, [0, 1, 2, 3, 4, 5, 6, 7, 8]⟩,
  ⟨10, [0, 1, 2, 3, 4, 5, 6, 7, 8, 9]⟩,
  ⟨11, [0, 1, 2, 3, 4, 5, 6, 7, 8, 9, 10]⟩,
  ⟨12, [0, 1, 2, 3, 4, 5, 6, 7, 8, 9, 10, 11]⟩]

/-- What a call is given: how many arguments there are said to be, and the arguments. -/
structure Supply where
  count : Nat
  arguments : List Argument

def Supply.ofList (arguments : List Argument) : Supply := ⟨arguments.length, arguments⟩

inductive ArgumentList where
  | tuple (components : List HostArgument) (form : TupleForm) (sized : tupleForms[components.length]? = some form)
  | slice (vs : List SlotValue)
  | array (vs : List SlotValue)
  | borrowed (l : ArgumentList)

namespace ArgumentList

def count : ArgumentList → Nat
  | .tuple _ form _ => form.count
  | .slice vs => vs.length
  | .array vs => vs.length
  | .borrowed l => l.count

def sources : ArgumentList → List Argument
  | .tuple components form _ => form.positions.filterMap fun i => components[i]?.map HostArgument.source
  | .slice vs | .array vs => vs.map fun v => (HostArgument.plain .value (by decide) v).source
  | .borrowed l => l.sources

def supply (l : ArgumentList) : Supply := ⟨l.count, l.sources⟩

def ofTuple? (components : List HostArgument) : Option ArgumentList :=
  match h : tupleForms[components.length]? with
  | some form => some (.tuple components form h)
  | none => none

end ArgumentList

/-- Converts arguments to the kinds of their slots. The first that does not convert is named by its position. -/
def convertArguments (live : ObjectId → Bool) (function : String) :
    Nat → List Argument → List Kind → Except BindError (List SlotValue)
  | position, a :: as, k :: ks =>
    match a.convert? live k with
    | none => .error (.argumentConversionFailed function position)
    | some v => do
      let vs ← convertArguments live function (position + 1) as ks
      return v :: vs
  | _, _, _ => .ok []

end ScriptBridge
