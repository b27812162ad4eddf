import ScriptBridge.Text.Unprintable

/-! Quoted texts. -/
namespace ScriptBridge.Text

/-- A quoted character: quotes, backslashes and unprintable characters are written as escapes. -/
def escapedChar (c : Char) : List Char :=
  match c with
  | '"' => ['\\', '"']
  | '\\' => ['\\', '\\']
  | '\n' => ['\\', 'n']
  | '\r' => ['\\', 'r']
  | '\t' => ['\\', 't']
  | '\x00' => ['\\', '0']
  | c =>
    if isUnprintable c then ['\\', 'u', '\x7b'] ++ Nat.toDigits 16 c.toNat ++ ['\x7d'] else [c]

def quotedText (s : String) : String := String.ofList ('"' :: s.toList.flatMap escapedChar ++ ['"'])

end ScriptBridge.Text
