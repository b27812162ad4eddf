import ScriptBridge.Source.Scan
import ScriptBridge.Source.TypePhrase

/-! The settings of a binding attribute: the name that scripts use, and for a method the class it belongs to. -/
namespace ScriptBridge.Attribute

open Source (Token TextLiteral)

inductive Setting where
  | name (l : TextLiteral)
  | cls (l : TextLiteral)
deriving DecidableEq

inductive SettingError where
  | unscannable
  | nothingToSet
  | literalToSet
  | tokenToSet
  | pathBroken (atEnd : Bool)
  | unknownSetting
  | markMissing (c : Char)
  | textMissing (atEnd : Bool)
  | nameEmpty
deriving DecidableEq

def missingText (atEnd : Bool) (what : String) : String :=
  if atEnd then "unexpected end of input, " ++ what else what

def SettingError.message : SettingError → String
  | .unscannable => "cannot parse string into token stream"
  | .nothingToSet => missingText true "expected nested attribute"
  | .literalToSet => "unexpected literal in nested attribute, expected ident"
  | .tokenToSet => "unexpected token in nested attribute, expected ident"
  | .pathBroken atEnd => missingText atEnd "expected ident"
  | .unknownSetting => "expected `name = \"...\"` or `class = \"...\"`"
  | .markMissing c => "expected `" ++ c.toString ++ "`"
  | .textMissing atEnd => missingText atEnd "expected string literal"
  | .nameEmpty => "binding name must not be empty"

def readPathEnd : List Token → Except SettingError (Bool × List Token)
  | .mark ':' true :: .mark ':' _ :: .word _ _ :: rest =>
    match readPathEnd rest with
    | .ok (_, rest) => .ok (true, rest)
    | .error e => .error e
  | .mark ':' true :: .mark ':' _ :: rest => .error (.pathBroken rest.isEmpty)
  | ts => .ok (false, ts)

/-- What a setting sets: a single word, or `none` for any other path. -/
def readSubject : List Token → Except SettingError (Option String × List Token)
  | .word raw word :: rest =>
    match readPathEnd rest with
    | .ok (longer, rest) => .ok (if raw || longer then none else some word, rest)
    | .error e => .error e
  | .mark ':' true :: .mark ':' _ :: .word _ _ :: rest =>
    match readPathEnd rest with
    | .ok (_, rest) => .ok (none, rest)
    | .error e => .error e
  | ts =>
    let start := Source.optionally (Source.afterMarks Source.pathMark) ts
    .error (if start.isEmpty then .nothingToSet
      else if (Source.afterConstant start).isSome then .literalToSet
      else .tokenToSet)

def readText : List Token → Except SettingError (TextLiteral × List Token)
  | .mark '=' _ :: .text l :: rest => .ok (l, rest)
  | .mark '=' _ :: rest => .error (.textMissing rest.isEmpty)
  | _ => .error (.markMissing '=')

/-- One setting. A name is not empty; a class may be. -/
def readSetting (ts : List Token) : Except SettingError (Setting × List Token) :=
  match readSubject ts with
  | .error e => .error e
  | .ok (some "name", rest) =>
    match readText rest with
    | .error e => .error e
    | .ok (l, rest) => if l.value = "" then .error .nameEmpty else .ok (.name l, rest)
  | .ok (some "class", rest) =>
    match readText rest with
    | .error e => .error e
    | .ok (l, rest) => .ok (.cls l, rest)
  | .ok _ => .error .unknownSetting

private theorem length_of_readPathEnd {ts rest : List Token} {longer : Bool}
    (h : readPathEnd ts = .ok (longer, rest)) : rest.length ≤ ts.length := by
  fun_induction readPathEnd ts generalizing longer <;> grind

private theorem length_of_readSubject {ts rest : List Token} {word : Option String}
    (h : readSubject ts = .ok (word, rest)) : rest.length ≤ ts.length := by
  unfold readSubject at h
  split at h
  · split at h
    · have := length_of_readPathEnd (by assumption); grind
    · simp at h
  · split at h
    · have := length_of_readPathEnd (by assumption); grind
    · simp at h
  · simp at h

private theorem length_of_readText {ts rest : List Token} {l : TextLiteral}
    (h : readText ts = .ok (l, rest)) : rest.length ≤ ts.length := by
  unfold readText at h; grind

/-- A setting leaves no more than it was given. -/
theorem length_of_readSetting {ts rest : List Token} {s : Setting}
    (h : readSetting ts = .ok (s, rest)) : rest.length ≤ ts.length := by
  unfold readSetting at h
  have hs := @length_of_readSubject ts
  have ht := @length_of_readText
  grind

/-- Settings with commas between. A comma may stand after the last. -/
def readSettings (ts : List Token) : Except SettingError (List Setting) :=
  match ts with
  | [] => .ok []
  | t :: ts =>
    match _ : readSetting (t :: ts) with
    | .error e => .error e
    | .ok (s, []) => .ok [s]
    | .ok (s, .mark ',' _ :: rest) =>
      match readSettings rest with
      | .error e => .error e
      | .ok settings => .ok (s :: settings)
    | .ok _ => .error (.markMissing ',')
termination_by ts.length
decreasing_by have := length_of_readSetting ‹_›; grind

def Setting.name? : Setting → Option TextLiteral
  | .name l => some l
  | .cls _ => none

def Setting.cls? : Setting → Option TextLiteral
  | .name _ => none
  | .cls l => some l

structure Settings where
  name : Option TextLiteral
  cls : Option TextLiteral
deriving DecidableEq

namespace Settings

/-- Of two settings of one thing the last counts. -/
def ofList (settings : List Setting) : Settings :=
  ⟨(settings.filterMap Setting.name?).getLast?, (settings.filterMap Setting.cls?).getLast?⟩

/-- Reads the text of an attribute. The first wrong setting from the left is the one reported. -/
def ofText (text : String) : Except SettingError Settings :=
  match Source.scan text with
  | none => .error .unscannable
  | some ts => (readSettings ts).map ofList

end Settings
end ScriptBridge.Attribute
