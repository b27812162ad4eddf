import ScriptBridge.Toml.Scalar

/-! TOML documents: keys, values with parts, and the tables that the lines of a document make up. -/
namespace ScriptBridge.Toml

open Text (Reader repeatUntil)

/-- Paths have fewer parts than this, and values fewer levels. -/
def depthLimit : Nat := 80

def isBareKeyChar (c : Char) : Bool := c.isAlphanum || c == '-' || c == '_'

def readSimpleKey : Reader String := fun cs =>
  match cs with
  | '"' :: rest => readLineString '"' rest
  | '\'' :: rest => readLineString '\'' rest
  | cs =>
    let bare := cs.takeWhile isBareKeyChar
    if bare.isEmpty then none else some (String.ofList bare, cs.dropWhile isBareKeyChar)

/-- The parts of a key between points. Blanks may stand around each part. -/
def readKey : Reader (List String × String) := fun cs => do
  let (first, rest) ← readSimpleKey (skipSpace cs)
  let (others, rest) ← repeatUntil (fun
    | '.' :: rest => do
      let (part, rest) ← readSimpleKey (skipSpace rest)
      return (some part, skipSpace rest)
    | rest => some (none, rest)) (skipSpace rest)
  let parts := first :: others
  if depthLimit ≤ parts.length then none
  else return ((parts.dropLast, parts.getLast (List.cons_ne_nil first others)), rest)

def skipComment : List Char → List Char
  | '#' :: rest => rest.dropWhile isPlain
  | cs => cs

/-- What follows blanks, comments and line breaks. A comment has to end with its line. -/
def skipTrivia (cs : List Char) : Option (List Char) :=
  (repeatUntil (fun cs =>
    let rest := skipComment (skipSpace cs)
    match afterNewline? rest with
    | some after => some (some (), after)
    | none => if rest.length = (skipSpace cs).length then some (none, rest) else none) cs).map (·.2)

/-- The items of an array, from after its bracket. A comma may stand after the last. -/
def readItems (item : Reader Value) : Reader (List Value) := fun cs => do
  repeatUntil (fun cs =>
    match cs with
    | ']' :: rest => some (none, rest)
    | cs => do
      let (v, rest) ← item cs
      match ← skipTrivia rest with
      | ',' :: rest => return (some v, ← skipTrivia rest)
      | ']' :: rest => return (some v, ']' :: rest)
      | _ => none) (← skipTrivia cs)

def readPair (value : Reader Value) : Reader ((List String × String) × Value) := fun cs => do
  let (key, rest) ← readKey cs
  let (v, rest) ← value (skipSpace (← Text.expect ['='] rest))
  return ((key, v), rest)

/-- The pairs of an inline table, from after its brace. All stand in one line, and no comma after the last. -/
def readPairs (value : Reader Value) : Reader (List ((List String × String) × Value)) := fun cs =>
  match skipSpace cs with
  | '\x7d' :: rest => some ([], rest)
  | cs => do
    let (first, rest) ← readPair value cs
    let (others, rest) ← repeatUntil (fun
      | '\x7d' :: rest => some (none, rest)
      | ',' :: rest => do
        let (p, rest) ← readPair value rest
        return (some p, skipSpace rest)
      | _ => none) (skipSpace rest)
    return (first :: others, rest)

def inlineTable (pairs : List ((List String × String) × Value)) : Option Value := do
  let t ← pairs.foldlM (fun (t : Table) ((path, key), v) => t.addPair path key v) ⟨.inline, []⟩
  return t.value

def readValue : Nat → Reader Value
  | 0 => readScalar
  | levels + 1 => fun cs =>
    match cs with
    | '[' :: rest => (readItems (readValue levels) rest).map fun (items, rest) => (.array true items, rest)
    | '\x7b' :: rest => do
      let (pairs, rest) ← readPairs (readValue levels) rest
      return (← inlineTable pairs, rest)
    | cs => readScalar cs

inductive Statement where
  | pair (path : List String) (key : String) (v : Value)
  | header (path : List String) (key : String)
  | element (path : List String) (key : String)

def readStatement : Reader Statement := fun cs =>
  match cs with
  | '[' :: '[' :: rest => do
    let ((path, key), rest) ← readKey rest
    return (.element path key, ← Text.expect [']', ']'] rest)
  | '[' :: rest => do
    let ((path, key), rest) ← readKey rest
    return (.header path key, ← Text.expect [']'] rest)
  | cs => do
    let (((path, key), v), rest) ← readPair (readValue (depthLimit - 1)) cs
    return (.pair path key v, rest)

def readLineEnd (cs : List Char) : Option (List Char) :=
  match skipComment (skipSpace cs) with
  | [] => some []
  | rest => afterNewline? rest

def readStatements : Reader (List (Option Statement)) :=
  repeatUntil fun cs =>
    match skipSpace cs with
    | [] => some (none, [])
    | cs =>
      if cs.head? = some '#' ∨ (afterNewline? cs).isSome then
        (readLineEnd cs).map (some none, ·)
      else do
        let (s, rest) ← readStatement cs
        return (some (some s), ← readLineEnd rest)

structure Assembly where
  root : Table
  current : List String

def Assembly.take (a : Assembly) : Statement → Option Assembly
  | .pair path key v => do
    let root ← a.root.changeAt false a.current fun t => t.addPair path key v
    return { a with root }
  | .header path key => do return ⟨← a.root.addHeader path key, path ++ [key]⟩
  | .element path key => do return ⟨← a.root.addElement path key, path ++ [key]⟩

def readDocument (text : String) : Option Table := do
  let cs := match text.toList with
    | '\ufeff' :: cs => cs
    | cs => cs
  let (statements, _) ← readStatements cs
  let a ← statements.reduceOption.foldlM Assembly.take ⟨⟨.header, []⟩, []⟩
  return a.root

end ScriptBridge.Toml
