/-! The tokens of host source text. -/
namespace ScriptBridge.Source

structure TextLiteral where
  value : String
  spelling : String
deriving DecidableEq

inductive Bracket where
  | round
  | square
  | curly
deriving DecidableEq

namespace Bracket

def opening : Bracket → String
  | .round => "("
  | .square => "["
  | .curly => "\x7b"

def closing : Bracket → String
  | .round => ")"
  | .square => "]"
  | .curly => "\x7d"

end Bracket

/-- A token. A mark is `joined` if another one follows it with nothing between. -/
inductive Token where
  | word (raw : Bool) (name : String)
  | lifetime (name : String)
  | mark (c : Char) (joined : Bool)
  | text (l : TextLiteral)
  | literal (spelling : String)
  | opening (b : Bracket)
  | closing (b : Bracket)
deriving DecidableEq

/-- What marks a word as raw, so that it is a name even if it is spelled like a keyword. -/
def rawMark : String := "r#"

def wordSpelling (raw : Bool) (name : String) : String := if raw then rawMark ++ name else name

def Token.spelling : Token → String
  | .word raw name => wordSpelling raw name
  | .lifetime name => "'" ++ name
  | .mark c _ => c.toString
  | .text l => l.spelling
  | .literal s => s
  | .opening b => b.opening
  | .closing b => b.closing

def spelling (ts : List Token) : String := String.join (ts.map Token.spelling)

/-- Each closing bracket closes the last bracket still open, and none stays open. -/
def balanced : List Bracket → List Token → Bool
  | stack, [] => stack.isEmpty
  | stack, .opening b :: ts => balanced (b :: stack) ts
  | b :: stack, .closing c :: ts => b = c && balanced stack ts
  | [], .closing _ :: _ => false
  | stack, _ :: ts => balanced stack ts

end ScriptBridge.Source
