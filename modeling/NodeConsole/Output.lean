import NodeConsole.Text.Utf8

/-! The output of commands, chunk by chunk. -/
namespace NodeConsole
open Text (Bytes)

def newline : Bytes := [10]

/-- One request to write. -/
inductive Write
  | bytes (bs : Bytes)
  | text (s : String)
  | line (s : String)
  deriving DecidableEq, Repr

def Write.chunks : Write → List Bytes
  | .bytes bs => [bs]
  | .text s => [Text.bytes s]
  | .line s => [Text.bytes s, newline]

/-- All chunks of a list of writes, in order. -/
def Write.allChunks (ws : List Write) : List Bytes := ws.flatMap Write.chunks

namespace Output

def text (bs : Bytes) : String := String.ofList (Text.decode bs)

/-- A line without the carriage return before its newline. -/
def dropReturn (s : List Char) : List Char :=
  match s with
  | '\r' :: r => r.reverse
  | s => s.reverse

/-- The lines of a text; `w` is the current one, last character first. Only a newline takes a
carriage return off. -/
def linesFrom (w : List Char) : List Char → List String
  | [] => if w.isEmpty then [] else [String.ofList w.reverse]
  | '\n' :: s => String.ofList (dropReturn w) :: linesFrom [] s
  | c :: s => linesFrom (c :: w) s

def lines (bs : Bytes) : List String := linesFrom [] (Text.decode bs)

end Output

/-- A byte sink that accepts at most `short` bytes a call and `room` bytes in all. -/
structure Pipe where
  room : Nat
  short : Nat
  /-- With no room left a call accepts nothing, and says so, where it would otherwise fail. -/
  zero : Bool := false
  flushFails : Bool := false
  accepted : Bytes := []
  /-- Set by the first write that is lost in part. -/
  cancelled : Bool := false
  deriving DecidableEq, Repr

namespace Pipe

/-- How many of `n` bytes the next call accepts. -/
def accepts (p : Pipe) (n : Nat) : Nat := min n (min p.short (p.room - p.accepted.length))

/-- Calls until all is accepted or a call accepts nothing; whether all was. -/
def writeAll (p : Pipe) (bs : Bytes) : Bool × Pipe :=
  if bs = [] then (true, p)
  else if p.accepts bs.length = 0 then (false, p)
  else
    writeAll { p with accepted := p.accepted ++ bs.take (p.accepts bs.length) }
      (bs.drop (p.accepts bs.length))
termination_by bs.length
decreasing_by
  have : 0 < bs.length := List.length_pos_iff.2 ‹_›
  simp only [List.length_drop]
  omega

def write (p : Pipe) (bs : Bytes) : Pipe :=
  let (all, p) := p.writeAll bs
  if all && !p.flushFails then p else { p with cancelled := true }

def writeLine (p : Pipe) (s : String) : Pipe := (Write.line s).chunks.foldl write p

end Pipe
end NodeConsole
