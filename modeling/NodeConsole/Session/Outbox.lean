import NodeConsole.Output

/-! The output queue of a session, which never makes a command wait. -/
namespace NodeConsole.Session
open Text (Bytes)

/-- Where putting a chunk stands. -/
inductive Put
  | idle
  /-- There was room for the chunk. -/
  | admitted (c : Bytes)
  /-- The bytes of the chunk are counted. -/
  | counted (c : Bytes)
  /-- The queue has not taken the chunk, because it was full or because the writer has ended. -/
  | rejected (c : Bytes) (full : Bool)
  deriving DecidableEq, Repr

structure Outbox where
  put : Put := .idle
  /-- Oldest first. -/
  queue : List Bytes := []
  /-- The chunk that the writer holds. -/
  flight : Option Bytes := none
  pending : Nat := 0
  overflowed : Bool := false
  closed : Bool := false
  writerEnded : Bool := false
  /-- What has reached the peer, last first. -/
  sent : List Bytes := []
  deriving DecidableEq, Repr

namespace Outbox

/-- Most bytes that may be pending, unless a single chunk has more. -/
def maxPending : Nat := 1048576

def maxQueued : Nat := 1024

/-- The bytes that have reached the peer. -/
def delivered (o : Outbox) : Bytes := o.sent.reverse.flatten

def overflow (o : Outbox) : Outbox := { o with overflowed := true, closed := true }

def overfull (o : Outbox) (c : Bytes) : Bool :=
  0 < o.pending && maxPending < o.pending + c.length

/-- Starts to put a chunk. An empty one is nothing, and after an overflow none is taken. -/
def offer (c : Bytes) (o : Outbox) : Outbox :=
  if c.isEmpty || o.overflowed then o
  else if o.overfull c then o.overflow
  else { o with put := .admitted c }

/-- The next move of putting a chunk. -/
def advance (o : Outbox) : Outbox :=
  match o.put with
  | .idle => o
  | .admitted c => { o with put := .counted c, pending := o.pending + c.length }
  | .counted c =>
    if o.writerEnded then { o with put := .rejected c false }
    else if o.queue.length < maxQueued then { o with put := .idle, queue := o.queue ++ [c] }
    else { o with put := .rejected c true }
  | .rejected c full =>
    let o := { o with put := .idle, pending := o.pending - c.length }
    if full then o.overflow else { o with closed := true }

/-- All moves of putting a chunk, with no move of the writer between them. -/
def write (o : Outbox) (c : Bytes) : Outbox := ((o.offer c).advance).advance.advance

def writeAll (o : Outbox) (cs : List Bytes) : Outbox := cs.foldl write o

/-- The writer takes a chunk. -/
def pick (o : Outbox) : Outbox :=
  match o.flight, o.queue with
  | none, c :: cs => { o with flight := some c, queue := cs }
  | _, _ => o

/-- The chunk has reached the peer. -/
def deliver (o : Outbox) : Outbox :=
  match o.flight with
  | some c => { o with flight := none, pending := o.pending - c.length, sent := c :: o.sent }
  | none => o

/-- Only `k` bytes of the chunk have reached the peer; the writer ends. -/
def fail (k : Nat) (o : Outbox) : Outbox :=
  match o.flight with
  | some c =>
    { o with
      flight := none, queue := [], pending := o.pending - c.length, sent := c.take k :: o.sent
      closed := true, writerEnded := true }
  | none => o

/-- The writer is stopped with `k` bytes of its chunk written. Nothing counts the rest out. -/
def abort (k : Nat) (o : Outbox) : Outbox :=
  { o with
    flight := none, queue := [], sent := (o.flight.map (·.take k)).toList ++ o.sent
    writerEnded := true }

/-- Takes and delivers up to `n` chunks. -/
def flush : Nat → Outbox → Outbox
  | 0, o => o
  | n + 1, o => flush n o.pick.deliver

/-- Delivers the chunk in flight and all that are queued. -/
def drain (o : Outbox) : Outbox := flush (o.queue.length + 1) o

/-- What a command or the writer does. -/
inductive Move
  | offer (c : Bytes)
  | advance
  | pick
  | deliver
  | fail (k : Nat)
  | abort (k : Nat)
  deriving DecidableEq, Repr

/-- The chunk that a move starts to put. -/
def Move.chunk? : Move → Option Bytes
  | offer c => some c
  | _ => none

/-- A chunk is offered once the one before it has been put; the writer is stopped only after some
did not fit. -/
def move? (o : Outbox) : Move → Option Outbox
  | .offer c => if o.put = .idle then some (o.offer c) else none
  | .advance => if o.put = .idle then none else some o.advance
  | .pick => some o.pick
  | .deliver => some o.deliver
  | .fail k => some (o.fail k)
  | .abort k => if o.put = .idle && o.overflowed then some (o.abort k) else none

/-- The moves one after another, in any order that lets each be made. -/
def run? (ms : List Move) (o : Outbox) : Option Outbox := ms.foldlM move? o

end Outbox
end NodeConsole.Session
