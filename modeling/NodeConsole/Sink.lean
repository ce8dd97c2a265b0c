import NodeConsole.Output

/-! A sink over any writer. -/
namespace NodeConsole
open Text (Bytes)

variable {W : Type}

/-- What can be asked of a writer in a state. -/
structure Writer (W : Type) where
  /-- How many of the bytes were taken, from their front; none if the call failed. -/
  write : Bytes → W → Option Nat × W
  /-- Whether it went well. -/
  flush : W → Bool × W

namespace Writer

/-- Calls until all is taken, or a call takes nothing or fails; whether all was taken. -/
def writeAll (w : Writer W) (bs : Bytes) (s : W) : Bool × W :=
  if bs = [] then (true, s)
  else match w.write bs s with
    | (some (n + 1), s) => w.writeAll (bs.drop (n + 1)) s
    | (_, s) => (false, s)
termination_by bs.length
decreasing_by
  have : 0 < bs.length := List.length_pos_iff.2 ‹_›
  simp only [List.length_drop]
  omega

end Writer

structure Sink (W : Type) where
  out : W
  /-- Set by the first write that fails. -/
  cancelled : Bool := false

namespace Sink

def write (w : Writer W) (s : Sink W) (bs : Bytes) : Sink W :=
  match w.writeAll bs s.out with
  | (false, out) => { out, cancelled := true }
  | (true, out) =>
    match w.flush out with
    | (false, out) => { out, cancelled := true }
    | (true, out) => { s with out }

def writeLine (w : Writer W) (s : Sink W) (line : String) : Sink W :=
  (Write.line line).chunks.foldl (write w) s

end Sink

namespace Pipe

/-- The writer of a pipe; its state is what has been accepted. -/
def writer (p : Pipe) : Writer Bytes where
  write bs accepted :=
    let n := { p with accepted }.accepts bs.length
    if n = 0 then (if p.zero then some 0 else none, accepted)
    else (some n, accepted ++ bs.take n)
  flush accepted := (!p.flushFails, accepted)

/-- A pipe as a sink over its writer. -/
def sink (p : Pipe) : Sink Bytes := ⟨p.accepted, p.cancelled⟩

end Pipe
end NodeConsole
