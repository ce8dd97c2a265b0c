/-! Log records and the chunk in which a record is shown. -/
namespace NodeConsole

inductive Severity
  | debug | info | warn | error
  deriving DecidableEq, Repr

namespace Severity

def text : Severity → String
  | .debug => "DEBUG" | .info => "INFO" | .warn => "WARN" | .error => "ERROR"

def rank : Severity → Nat
  | .debug => 0 | .info => 1 | .warn => 2 | .error => 3

instance : Ord Severity := ⟨fun a b => compare a.rank b.rank⟩

end Severity

namespace Log

structure Record where
  severity : Severity
  message : String
  deriving DecidableEq, Repr

def Record.chunk (r : Record) : String := s!"[{r.severity.text}] {r.message}\n"

end Log
end NodeConsole
