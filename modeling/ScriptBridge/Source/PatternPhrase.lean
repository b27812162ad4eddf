import ScriptBridge.Source.TypePhrase

/-! Patterns of host source text, as they stand before the types of parameters. -/
namespace ScriptBridge.Source

open Text (repeatUntil)

def afterBinding (pattern : Skip) : Skip := fun ts => do
  let rest := optionally (afterKeyword "mut") (optionally (afterKeyword "ref") ts)
  let rest ← afterName rest <|> afterKeyword "self" rest
  match afterMark '@' rest with
  | some rest => pattern rest
  | none => return rest

def afterAlternatives (pattern : Skip) : Skip := fun ts => do
  let (_, rest) ← repeatUntil (fun ts =>
    match afterMark '|' ts with
    | none => some (none, ts)
    | some rest => (pattern rest).map (some (), ·))
    (← afterMarks ['.', '.'] ts <|> pattern (optionally (afterMark '|') ts))
  return rest

def afterPattern : Nat → Skip
  | 0, _ => none
  | levels + 1, ts =>
    let inner := afterPattern levels
    match ts with
    | .word false "_" :: rest => some rest
    | .mark '&' _ :: rest => inner (optionally (afterKeyword "mut") rest)
    | .opening .round :: rest => afterItems (afterAlternatives inner) (afterClosing .round) rest
    | .opening .square :: rest => afterItems (afterAlternatives inner) (afterClosing .square) rest
    | _ =>
      match afterConstant ts with
      | some rest => some rest
      | none =>
        match afterPlainPath ts with
        | some (.opening .round :: rest) => afterItems (afterAlternatives inner) (afterClosing .round) rest
        | some (.opening .curly :: rest) => afterInside 0 rest
        | some (.mark '!' _ :: rest) => afterGroup rest
        | path => if (afterMarks pathMark ts.tail).isSome then path else afterBinding inner ts <|> path

end ScriptBridge.Source
