/-! What can go wrong in a command, and its text. -/
namespace NodeConsole

/-- A length of time in microseconds. -/
structure Duration where
  micros : Nat
  deriving DecidableEq, Repr

def Duration.ofMillis (n : Nat) : Duration := ⟨n * 1000⟩

/-- Whole milliseconds, the rest cut off. -/
def Duration.millis (d : Duration) : Nat := d.micros / 1000

inductive Failure
  | notFound (name : String)
  | lookup (name reason : String)
  | invalidHost (input : String)
  | invalidUrl (url reason : String)
  | httpStatus (url : String) (status : Nat)
  | http (reason : String)
  | timeout (what : String) (limit : Duration)
  | protocol (reason : String)
  | io (reason : String)
  deriving DecidableEq, Repr

def Failure.message : Failure → String
  | .notFound name => s!"'{name}' not found"
  | .lookup name reason => s!"'{name}' not found: {reason}"
  | .invalidHost input => s!"invalid host '{input}'"
  | .invalidUrl url reason => s!"invalid URL '{url}': {reason}"
  | .httpStatus url status => s!"HTTP {status} from {url}"
  | .http reason => s!"HTTP request failed: {reason}"
  | .timeout what limit => s!"{what} timed out after {limit.millis}ms"
  | .protocol reason => s!"protocol error: {reason}"
  | .io reason => reason

end NodeConsole
