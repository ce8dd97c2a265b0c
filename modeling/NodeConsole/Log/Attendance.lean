import NodeConsole.Log.Buffer

/-! A buffer together with the listeners that have left it. -/
namespace NodeConsole.Log

structure Attendance where
  buffer : Buffer
  /-- Latest first. -/
  gone : List Listener := []
  deriving DecidableEq, Repr

namespace Attendance

def push (r : Record) (a : Attendance) : Attendance := { a with buffer := a.buffer.push r }

def listen (a : Attendance) : Nat × Attendance :=
  (a.buffer.listen.1, { a with buffer := a.buffer.listen.2 })

/-- Whether the listener was still there, and the state without it. -/
def unlisten (id : Nat) (a : Attendance) : Bool × Attendance :=
  match a.buffer.unlisten id with
  | (none, b) => (false, { a with buffer := b })
  | (some inbox, b) => (true, ⟨b, ⟨id, inbox⟩ :: a.gone⟩)

/-- The records that a listener has got, if there ever was such a listener. -/
def seen (id : Nat) (a : Attendance) : Option (List Record) :=
  ((a.buffer.listener? id).or (a.gone.find? (·.id = id))).map (·.inbox)

end Attendance
end NodeConsole.Log
