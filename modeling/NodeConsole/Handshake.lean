import NodeConsole.Atom.Reader
import NodeConsole.Failure
import NodeConsole.Host
import NodeConsole.Log.Event
import NodeConsole.PeerId

/-! The handshake with a peer: two atoms, a reply, a farewell. -/
namespace NodeConsole
open Text (Bytes)

structure Transcript where
  written : Bytes := []
  read : Bytes := []
  deriving DecidableEq, Repr

/-- How a peer presents itself. -/
structure Hello where
  remote : PeerId
  agent : String
  deriving DecidableEq, Repr

structure Greeting where
  notices : List Log.Notice := []
  transcript : Transcript := {}
  outcome : Except Failure Hello

structure Greeter where
  agent : String
  session : PeerId
  limit : Duration
  deriving DecidableEq, Repr

/-- What becomes of an attempt to reach a peer. -/
inductive Contact
  | failed (reason : String)
  /-- Connecting does not end in time. -/
  | unanswered
  /-- The peer sends `reply`, and then ends its side or stays silent. -/
  | connected (reply : Bytes) (ends : Bool)
  deriving DecidableEq, Repr

namespace AtomId

def connect : AtomId := ⟨0x70, 0x63, 0x70, 0x0A⟩
def helo : AtomId := ⟨0x68, 0x65, 0x6C, 0x6F⟩
def oleh : AtomId := ⟨0x6F, 0x6C, 0x65, 0x68⟩
def quit : AtomId := ⟨0x71, 0x75, 0x69, 0x74⟩
def agent : AtomId := ⟨0x61, 0x67, 0x6E, 0x74⟩
def version : AtomId := ⟨0x76, 0x65, 0x72, 0⟩
def session : AtomId := ⟨0x73, 0x69, 0x64, 0⟩

end AtomId

namespace Greeter

def opening : Atom := .int .connect 1

def introduction (g : Greeter) : Atom :=
  .parent .helo [.text .agent g.agent, .int .version 1218, .leaf .session g.session.bytes]

def farewell : Atom := .int .quit 1000

/-- What is sent before the reply. -/
def greetings (g : Greeter) : Bytes := opening.encode ++ g.introduction.encode

def hello? (reply : Atom) : Option Hello := do
  let remote ← PeerId.ofBytes? (← (← reply.child? .session).data?)
  return ⟨remote, ((reply.child? .agent).bind Atom.text?).getD ""⟩

def interpret (reply : Atom) : Except Failure Hello :=
  if reply.id = .oleh then
    match hello? reply with
    | some h => .ok h
    | none => .error (.protocol "'oleh' without session id")
  else if reply.id = .quit then
    .error (.protocol s!"remote quit ({(reply.int?.getD 0).toNat})")
  else .error (.protocol s!"unexpected '{reply.id.text}' atom")

/-- A reply that ends within an atom ends the handshake if the peer is done, and is waited for
otherwise. -/
def replyFailure (g : Greeter) (host : Host) (ends : Bool) : Atom.ReadFault → Failure
  | .early => if ends then .io Atom.ReadFault.early.message
    else .timeout s!"reply from {host.text}" g.limit
  | f => .io f.message

def connectedEvent (host : Host) : Log.Event :=
  { level := .debug, message := "peer connected", fields := [("host", .text host.text)] }

def rejectedEvent (host : Host) (f : Failure) : Log.Event :=
  { level := .warn, message := "peer rejected handshake",
    fields := [("host", .text host.text), ("error", .text f.message)] }

def rejection (host : Host) : Except Failure Hello → List Log.Notice
  | .ok _ => []
  | .error f => [.event (rejectedEvent host f)]

/-- The handshake with a peer that sends `reply`. -/
def converse (g : Greeter) (host : Host) (reply : Bytes) (ends : Bool) : Greeting :=
  let r := Atom.read reply
  let read := Atom.Reader.record r.pieces
  match r.outcome with
  | .error f =>
    { notices := [.event (connectedEvent host)]
      transcript := ⟨g.greetings, read⟩
      outcome := .error (g.replyFailure host ends f) }
  | .ok a =>
    { notices := .event (connectedEvent host) :: rejection host (interpret a)
      transcript := ⟨g.greetings ++ farewell.encode, read⟩
      outcome := interpret a }

def greet (g : Greeter) (host : Host) : Contact → Greeting
  | .failed reason => { outcome := .error (.io reason) }
  | .unanswered => { outcome := .error (.timeout s!"connect to {host.text}" g.limit) }
  | .connected reply ends => g.converse host reply ends

end Greeter
end NodeConsole
