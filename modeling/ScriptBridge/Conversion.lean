import ScriptBridge.Number.Decimal
import ScriptBridge.Number.Integer
import ScriptBridge.SlotValue
import ScriptBridge.Text.Blank

/-! Conversion of slot values between kinds, and the readings of text that it uses. -/
namespace ScriptBridge.Conversion

open Number (Single)

/-- The float at the front of a text, after blanks; zero if none starts there. No text is refused. -/
def lenientFloat (text : String) : Single :=
  match Single.numericFront (text.toList.dropWhile Text.isBlank) with
  | [] => .zero false
  | front => (Single.read? front).getD (.zero false)

/-- Any text but these five counts as true. -/
def textTruth (text : String) : Bool :=
  !(["", "false", "0", "0.0", "0.0f"].contains text)

def isSeparator (c : Char) : Bool := c == ',' || Text.isBlank c

def pieces (cs : List Char) : List (List Char) :=
  (cs.splitOnP isSeparator).filter (!·.isEmpty)

/-- Reads three numbers with separators around them. The empty text is the zero vector, and whatever follows
the third number is dropped. -/
def readVector? (text : String) : Option Vector3 :=
  if text = "" then some .zero
  else match pieces text.toList with
    | x :: y :: z :: _ => do return ⟨← Single.read? x, ← Single.read? y, ← Single.read? z⟩
    | _ => none

/-- Reads a text as a value of a kind. Only the vector kind refuses a text. -/
def ofText? (text : String) : Kind → Option SlotValue
  | .string => some (.string text)
  | .void => some .void
  | .int => some (.int (Number.lenientInt text))
  | .float => some (.float (lenientFloat text))
  | .bool => some (.bool (textTruth text))
  | .object => some (.object ⟨(Number.lenientInt text).toUInt32⟩)
  | .vector => (readVector? text).map .vector
  | .unregistered => none

/-- Converts a value to a kind, if it converts. `live` tells which object ids name an object: an integer turns
into the id only of such an object, and an object counts as true if it is one. -/
def convert? (live : ObjectId → Bool) (v : SlotValue) (target : Kind) : Option SlotValue :=
  if v.kind = target then some v
  else match v, target with
    | _, .void => some .void
    | _, .unregistered | .void, _ => none
    | .string s, k => ofText? s k
    | v, .string => some (.string v.text)
    | .int i, .float => some (.float (.ofInt i.toInt))
    | .int i, .bool => some (.bool (i != 0))
    | .int i, .object => some (.object (if live ⟨i.toUInt32⟩ then ⟨i.toUInt32⟩ else .none))
    | .float x, .int => some (.int x.toInt32)
    | .float x, .bool => some (.bool (!x.isZero))
    | .bool b, .int => some (.int (if b then 1 else 0))
    | .bool b, .float => some (.float (.ofInt (if b then 1 else 0)))
    | .object id, .int => some (.int id.number.toInt32)
    | .object id, .bool => some (.bool (live id))
    | _, _ => none

end ScriptBridge.Conversion
