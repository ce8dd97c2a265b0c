import NodeConsole.Console
import NodeConsole.Session.Frame
import NodeConsole.Session.Outbox

/-! A session of a console with a peer, shared by three tasks. -/
namespace NodeConsole.Session
open Text (Bytes)

inductive Reader
  | reading (s : Bytes)
  /-- An input has been read; it waits for a place in the channel. -/
  | handing (i : Input) (rest : Bytes)
  | closing
  | ended
  deriving DecidableEq, Repr

/-- Where the dispatcher stands. -/
inductive Serving (Wait Call : Type)
  | idle
  /-- Chunks are to be put, before it goes on. -/
  | writing (cs : List Bytes) (next : Serving Wait Call)
  | asking (command : String) (w : Wait)
  | sleeping (command : String) (w : Wait)
  | calling (command : String) (c : Call)
  /-- A command is done; it is to be seen whether the session is closed. -/
  | checking
  /-- The session is closed; it is to be seen whether the channel is empty. -/
  | peeking
  | ended

structure State (Wait Call : Type) where
  reader : Reader
  /-- Whether the peer has ended its side, after the bytes that the reader still has. -/
  peerEnded : Bool := true
  channel : List Input := []
  serving : Serving Wait Call := .idle
  node : Node
  outbox : Outbox := {}
  shutdown : Bool := false
  /-- The inputs that have been dispatched, last first. -/
  received : List Input := []
  /-- The calls so far, last first. -/
  calls : List Call := []

namespace State

variable {Wait Call : Type}

def places : Nat := 8

def tooLongLine : Write := Console.errorLine "command too long"

def cancelled (s : State Wait Call) : Bool := s.outbox.closed || s.shutdown

def dispatcherEnded (s : State Wait Call) : Bool :=
  match s.serving with
  | .ended => true
  | _ => false

/-- The next move of the reader, unless it waits for bytes or for a place. -/
def readerMove? (s : State Wait Call) : Option (State Wait Call) :=
  match s.reader with
  | .reading bs =>
    match next? s.peerEnded bs with
    | some (i, rest) => some { s with reader := .handing i rest }
    | none => if s.peerEnded then some { s with reader := .closing } else none
  | .handing i rest =>
    if s.dispatcherEnded then some { s with reader := .closing }
    else if s.channel.length < places then
      let reader := if i = .tooLong then .closing else .reading rest
      some { s with channel := s.channel ++ [i], reader }
    else none
  | .closing => some { s with outbox := { s.outbox with closed := true }, reader := .ended }
  | .ended => none

/-- Where a command stands after a turn. -/
def place : Option (Console.Running Wait Call) → Serving Wait Call
  | none => .checking
  | some ⟨command, .inl w⟩ => .asking command w
  | some ⟨command, .inr c⟩ => .calling command c

/-- A turn of a command is over: its output is to be put. -/
def settle (s : State Wait Call) (p : Console.Progress Wait Call) : State Wait Call :=
  { s with node := p.node, serving := .writing (Write.allChunks p.writes) (place p.running) }

def receive (c : Console Wait Call) (i : Input) (rest : List Input) (s : State Wait Call) :
    State Wait Call :=
  let s := { s with channel := rest, received := i :: s.received }
  match i with
  | .line line => s.settle (c.dispatch line s.node)
  | .tooLong => { s with serving := .writing tooLongLine.chunks .ended }

def ask (c : Console Wait Call) (command : String) (w : Wait) (s : State Wait Call) :
    State Wait Call :=
  if s.cancelled then s.settle (Console.conclude command (c.finish w s.node))
  else
    let (writes, node, w) := c.proceed w s.node
    { s with node, serving := .writing (Write.allChunks writes) (.sleeping command w) }

def reply (c : Console Wait Call) (command : String) (k : Call) (s : State Wait Call) :
    State Wait Call :=
  { s.settle (Console.conclude command (c.answer k s.node)) with calls := k :: s.calls }

def check (s : State Wait Call) : State Wait Call :=
  { s with serving := if s.outbox.closed then .peeking else .idle }

def peek (s : State Wait Call) : State Wait Call :=
  { s with serving := if s.channel.isEmpty then .ended else .idle }

/-- One move of one of the three tasks. -/
inductive TaskStep (c : Console Wait Call) : State Wait Call → State Wait Call → Prop
  | reader {s t} (h : s.readerMove? = some t) : TaskStep c s t
  | receive {s i rest} (hs : s.serving = .idle) (hc : s.channel = i :: rest) :
      TaskStep c s (s.receive c i rest)
  | hangUp {s} (hs : s.serving = .idle) (hc : s.channel = []) (hr : s.reader = .ended) :
      TaskStep c s { s with serving := .ended }
  | stop {s} (hs : s.serving = .idle) (hd : s.shutdown = true) :
      TaskStep c s { s with serving := .ended }
  | offer {s b bs next} (hs : s.serving = .writing (b :: bs) next) (hp : s.outbox.put = .idle) :
      TaskStep c s { s with serving := .writing bs next, outbox := s.outbox.offer b }
  | put {s} (hp : s.outbox.put ≠ .idle) : TaskStep c s { s with outbox := s.outbox.advance }
  | written {s next} (hs : s.serving = .writing [] next) (hp : s.outbox.put = .idle) :
      TaskStep c s { s with serving := next }
  | check {s} (hs : s.serving = .checking) : TaskStep c s s.check
  | peek {s} (hs : s.serving = .peeking) : TaskStep c s s.peek
  | ask {s command w} (hs : s.serving = .asking command w) : TaskStep c s (s.ask c command w)
  | wake {s command w} (hs : s.serving = .sleeping command w) :
      TaskStep c s { s with serving := .asking command w }
  | reply {s command k} (hs : s.serving = .calling command k) :
      TaskStep c s (s.reply c command k)
  | pick {s} : TaskStep c s { s with outbox := s.outbox.pick }
  | deliver {s} : TaskStep c s { s with outbox := s.outbox.deliver }
  /-- The dispatcher has left, and does not wait for what did not fit. -/
  | abort {s} (k : Nat) (hs : s.serving = .ended) (ho : s.outbox.overflowed = true) :
      TaskStep c s { s with outbox := s.outbox.abort k }

/-- A task moves, or the world around the session does. -/
inductive Step (c : Console Wait Call) : State Wait Call → State Wait Call → Prop
  | task {s t} (h : TaskStep c s t) : Step c s t
  | fail {s} (k : Nat) : Step c s { s with outbox := s.outbox.fail k }
  | shut {s} : Step c s { s with shutdown := true }
  | arrive {s} (r : Log.Record) : Step c s { s with node := s.node.push r }

end State

/-- A session at its start: all that the peer will send, and whether it ends its side then. -/
def start {Wait Call : Type} (input : Bytes) (peerEnded : Bool) (node : Node) : State Wait Call :=
  { reader := .reading input, peerEnded, node }

end NodeConsole.Session
