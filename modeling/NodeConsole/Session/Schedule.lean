import NodeConsole.Session
import NodeConsole.Session.Wire

/-! Sessions on a single thread, where tasks take turns. -/
namespace NodeConsole.Session
open Text (Bytes)

/-- Moves until there is no move or `n` have been made. -/
def exhaust {σ : Type} (move : σ → Option σ) : (n : Nat) → σ → σ
  | 0, s => s
  | n + 1, s =>
    match move s with
    | some t => exhaust move n t
    | none => s

namespace State

variable {Wait Call : Type}

/-- A move of the dispatcher, all chunks of a turn put at once. -/
def dispatcherMove? (c : Console Wait Call) (s : State Wait Call) : Option (State Wait Call) :=
  match s.serving with
  | .idle =>
    if s.shutdown then some { s with serving := .ended }
    else match s.channel, s.reader with
      | i :: rest, _ => some (s.receive c i rest)
      | [], .ended => some { s with serving := .ended }
      | [], _ => none
  | .writing cs next => some { s with serving := next, outbox := s.outbox.writeAll cs }
  | .asking command w => some (s.ask c command w)
  | .sleeping command w =>
    if s.cancelled then some { s with serving := .asking command w } else none
  | .calling command k => some (s.reply c command k)
  | .checking => some s.check
  | .peeking => some s.peek
  | .ended => none

def isIdle (s : State Wait Call) : Bool :=
  match s.serving with
  | .idle => true
  | _ => false

def sleeps (s : State Wait Call) : Bool :=
  match s.serving with
  | .sleeping .. => true
  | _ => false

def isHanding (s : State Wait Call) : Bool :=
  match s.reader with
  | .handing .. => true
  | _ => false

end State

inductive Task
  | reader | dispatcher | writer
  deriving DecidableEq, Repr

/-- A session on a thread. -/
structure Thread (Wait Call : Type) where
  state : State Wait Call
  /-- The tasks that can go on, in the order of their turns. -/
  ready : List Task
  /-- Turns since the world around was noticed. -/
  turns : Nat := 0
  wire : Wire := {}
  /-- Why the writer rests, if it does. -/
  rest : Rest := .waiting

namespace Thread

variable {Wait Call : Type}

/-- Turns after which the world around is noticed. -/
def interval : Nat := 61

/-- What the writer may do in a turn. -/
def share : Nat := 128

/-- Moves after which it is looked again whether the dispatcher goes on with its turn. -/
def dispatcherMoves : Nat := 4096

/-- Adds a task to those that can go on, if it now can and could not before. -/
def wake (task : Task) (can : Bool) (t : Thread Wait Call) : Thread Wait Call :=
  if can && !t.ready.contains task then { t with ready := t.ready ++ [task] } else t

/-- The peer reads; the writer goes on if it has had its share, or if the peer had made room
before. -/
def notice (t : Thread Wait Call) : Thread Wait Call :=
  let t := t.wake .writer (t.rest == .deferred || (t.rest == .blocked && t.wire.used == 0))
  { t with turns := 0, wire := { t.wire with used := 0 } }

/-- The reader's turn. An input, and the end of the inputs, wake the dispatcher. -/
def readerTurn (t : Thread Wait Call) : Thread Wait Call :=
  let state := exhaust State.readerMove? (3 * State.places) t.state
  let t := { t with state }
  t.wake .dispatcher (state.isIdle && (!state.channel.isEmpty || state.reader == Reader.ended))

/-- The dispatcher's turn. A place in the channel wakes the reader, and a chunk the writer. -/
def dispatcherTurn (c : Console Wait Call) (t : Thread Wait Call) : Thread Wait Call :=
  let state := exhaust (State.dispatcherMove? c) dispatcherMoves t.state
  let t := { t with state }
  if (state.dispatcherMove? c).isSome then
    { t with ready := .dispatcher :: t.ready, turns := t.turns - 1 }
  else
    let t := t.wake .reader (state.isHanding && state.channel.length < State.places)
    t.wake .writer (t.rest == Rest.waiting && !state.outbox.queue.isEmpty)

def writerTurn (t : Thread Wait Call) : Thread Wait Call :=
  let (wire, outbox, rest) := send share t.wire t.state.outbox
  { t with state := { t.state with outbox }, wire, rest }

def turn (c : Console Wait Call) : Task → Thread Wait Call → Thread Wait Call
  | .reader => readerTurn
  | .dispatcher => dispatcherTurn c
  | .writer => writerTurn

/-- All has been sent and read. Nothing else happens in the meantime, as no task can go on. -/
def drained (t : Thread Wait Call) : Thread Wait Call :=
  { t with
    state := { t.state with outbox := t.state.outbox.drain }
    turns := 0, wire := {}, rest := .waiting }

/-- The next turn, unless the dispatcher has ended. -/
def next? (c : Console Wait Call) (t : Thread Wait Call) : Option (Thread Wait Call) :=
  if t.state.dispatcherEnded then none
  else
    let t := if t.turns = interval then t.notice else t
    match t.ready with
    | task :: ready => some (turn c task { t with ready, turns := t.turns + 1 })
    | [] =>
      if t.state.sleeps && t.state.cancelled then some { t.drained with ready := [.dispatcher] }
      else none

/-- Turns until all tasks rest for good. An overflow ends the session with the rest unsent. -/
def settle (c : Console Wait Call) (n : Nat) (t : Thread Wait Call) : Thread Wait Call :=
  let t := exhaust (next? c) n t
  if t.state.outbox.overflowed then
    { t with state := { t.state with outbox := t.state.outbox.abort t.wire.taken } }
  else t.drained

end Thread

/-- What a session has come to. -/
structure Ended (Call : Type) where
  output : Bytes
  calls : List Call
  node : Node
  /-- Whether the dispatcher has left. Otherwise all tasks wait for one another, and the peer for the
  end of the session. -/
  left : Bool := true

/-- What the peer does in a session. -/
structure Peer where
  input : Bytes
  /-- Records that are pushed, before the server shuts down, while the peer holds its side open. -/
  held : Option (List Log.Record) := none
  deriving DecidableEq, Repr

variable {Wait Call : Type}

/-- The server shuts down after `records` have been pushed. -/
def shut (records : List Log.Record) (t : Thread Wait Call) : Thread Wait Call :=
  { t with
    state := { t.state with node := t.state.node.pushAll records, shutdown := true }
    ready := [.dispatcher] }

def run (c : Console Wait Call) (p : Peer) (node : Node) : Ended Call :=
  let turns := 4 * p.input.length + 64
  let t := Thread.settle c turns ⟨start p.input p.held.isNone node, [.reader], 0, {}, .waiting⟩
  let t := match p.held with
    | none => t
    | some records => (shut records t).settle c turns
  ⟨t.state.outbox.delivered, t.state.calls.reverse, t.state.node, t.state.dispatcherEnded⟩

/-- Sessions one after another on one node. -/
def runAll (c : Console Wait Call) : List Peer → Node → List (Ended Call) × Node
  | [], node => ([], node)
  | p :: ps, node =>
    let e := run c p node
    let (es, node) := runAll c ps e.node
    (e :: es, node)

end NodeConsole.Session
