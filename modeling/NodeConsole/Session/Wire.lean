import NodeConsole.Session.Outbox

/-! The way from the writer to the peer. -/
namespace NodeConsole.Session

namespace Wire

/-- Memory in use at which no more pieces are taken. -/
def limit : Nat := 212992

def page : Nat := 4096

/-- Most bytes of a piece that are not in pages. -/
def maxHead : Nat := 3776

def maxPiece : Nat := maxHead + 8 * page

/-- The least multiple of `unit` that `n` does not exceed. -/
def roundUp (unit n : Nat) : Nat := (n + unit - 1) / unit * unit

/-- The block for `n` bytes and what is noted beside them. -/
def block (n : Nat) : Nat :=
  let size := roundUp 64 n + 320
  if size ≤ 512 then 512 else if size ≤ 1024 then 1024 else if size ≤ 2048 then 2048 else 4096

/-- Memory that a piece of `n` bytes uses. -/
def cost (n : Nat) : Nat :=
  let tail := min n (roundUp page (n - maxHead))
  roundUp page tail + block (n - tail) + 256

/-- How many of `n` bytes are taken when `used` memory is in use, and what is in use then. -/
def take (used n : Nat) : Nat × Nat :=
  if n = 0 ∨ limit ≤ used then (0, used)
  else
    let piece := min n maxPiece
    let (more, used) := take (used + cost piece) (n - piece)
    (piece + more, used)
termination_by n
decreasing_by simp only [maxPiece, maxHead, page]; omega

end Wire

/-- A socket with the chunk in flight partly written. -/
structure Wire where
  /-- Memory that the peer has not freed. -/
  used : Nat := 0
  /-- Bytes of the chunk in flight that have been taken. -/
  taken : Nat := 0
  deriving DecidableEq, Repr

/-- Why the writer rests. -/
inductive Rest
  /-- There is nothing to send. -/
  | waiting
  /-- It has had its share of a turn. -/
  | deferred
  /-- The socket takes no more. -/
  | blocked
  deriving DecidableEq, Repr

/-- A turn of the writer, until it rests. Receiving a chunk and writing one each take one of its
`share`. -/
def send : (share : Nat) → Wire → Outbox → Wire × Outbox × Rest
  | 0, w, o => (w, o, .deferred)
  | share + 1, w, o =>
    match o.flight with
    | none => if o.queue.isEmpty then (w, o, .waiting) else send share w o.pick
    | some c =>
      let (n, used) := Wire.take w.used (c.length - w.taken)
      if w.taken + n = c.length then send share { used, taken := 0 } o.deliver
      else ({ used, taken := w.taken + n }, o, .blocked)

end NodeConsole.Session
