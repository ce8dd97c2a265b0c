import NodeConsole.Log.Record
import NodeConsole.Text.Escaped

/-! Structured events and the records they become. -/
namespace NodeConsole.Log

inductive Level
  | trace | debug | info | warn | error
  deriving DecidableEq, Repr

namespace Level

def rank : Level → Nat
  | .trace => 0 | .debug => 1 | .info => 2 | .warn => 3 | .error => 4

/-- Tracing is shown as debugging. -/
def severity : Level → Severity
  | .trace | .debug => .debug
  | .info => .info
  | .warn => .warn
  | .error => .error

end Level

/-- The value of a field: a text is shown as it is, or in quotes. -/
inductive Value
  | text (s : String)
  | quoted (s : String)
  | int (n : Int)
  | bool (b : Bool)
  deriving DecidableEq, Repr

def Value.shown : Value → String
  | .text s => s
  | .quoted s => String.ofList (Text.quoted s.toList)
  | .int n => toString n
  | .bool b => if b then "true" else "false"

structure Event where
  level : Level
  message : String := ""
  fields : List (String × Value) := []
  deriving DecidableEq, Repr

namespace Event

def fieldText (f : String × Value) : String := s!"{f.1}={f.2.shown}"

def text (e : Event) : String :=
  let fields := " ".intercalate (e.fields.map fieldText)
  if e.fields.isEmpty then e.message
  else if e.message.isEmpty then fields
  else s!"{e.message} {fields}"

def record (e : Event) : Record := ⟨e.level.severity, e.text⟩

end Event

/-- The lowest level let through; without one, none is. -/
abbrev Threshold := Option Level

def Threshold.admits (t : Threshold) (e : Event) : Bool :=
  match t with
  | none => false
  | some l => l.rank ≤ e.level.rank

/-- What reaches a log: a record, or an event that the threshold may keep out. -/
inductive Notice
  | record (r : Record)
  | event (e : Event)
  deriving DecidableEq, Repr

/-- The record that a notice leaves. -/
def Notice.record? (t : Threshold) : Notice → Option Record
  | .record r => some r
  | .event e => if t.admits e then some e.record else none

end NodeConsole.Log
