import ScriptBridge.BindError

/-! Diagnostics and the journal that keeps them for the host. -/
namespace ScriptBridge

inductive Severity where
  | info | warning | error
deriving DecidableEq

def Severity.text : Severity → String
  | .info => "info"
  | .warning => "warning"
  | .error => "error"

def Severity.logLevel : Severity → String
  | .info => "INFO"
  | .warning => "WARN"
  | .error => "ERROR"

structure Diagnostic where
  severity : Severity
  message : String
deriving DecidableEq

namespace Diagnostic

def text (d : Diagnostic) : String := d.severity.text ++ ": " ++ d.message

def logText (d : Diagnostic) : String := d.severity.logLevel ++ " " ++ d.message

def ofError (e : BindError) : Diagnostic := ⟨.error, e.message⟩

end Diagnostic
end ScriptBridge
