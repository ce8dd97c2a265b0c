import NodeConsole.Address
import NodeConsole.Console
import NodeConsole.Dump
import NodeConsole.Handshake
import NodeConsole.Options

/-! The commands of a node's console. -/
namespace NodeConsole
open Text (Bytes)

/-- What the commands ask of the world outside the node. -/
structure Services where
  lookup : String → Except Failure (List Address)
  /-- The name of an address, if it has one. -/
  reverse : Address → Except Failure (Option String)
  fetch : String → Except Failure Bytes
  greet : Host → Greeting

namespace Commands

/-- A log tail stands at its next question, with its listener. -/
structure Tail where
  listener : Nat
  deriving DecidableEq, Repr

/-- A call that is out. -/
inductive Call
  | lookup (name : String)
  /-- `target` is the address as it was typed. -/
  | reverse (a : Address) (target : String)
  | fetch (url : String)
  /-- `relay` is the listener for warnings and errors during the handshake. -/
  | greet (host : Host) (relay : Nat) (verbose : Bool)
  deriving DecidableEq, Repr

def lines (texts : List String) : List Write := texts.map .line

/-- A turn that does nothing but write. -/
def say (texts : List String) (node : Node) : Turn Tail Call :=
  { writes := lines texts, node, next := .done (.ok ()) }

def chan (_ : List String) (node : Node) : Turn Tail Call :=
  say (node.channels.map Channel.line) node

def numbered (words : List String) : List String :=
  words.mapIdx fun i w => s!"[{i + 1}] {w}"

def echo (args : List String) (node : Node) : Turn Tail Call :=
  let o := Options.split ["-v"] args
  if o.has "-v" then say (numbered o.positionals) node
  else say [" ".intercalate o.positionals] node

def bannedEvent (f : Filter) : Log.Event :=
  { level := .info, message := "filter ban added from console",
    fields := [("pattern", .text f.pattern)] }

def ban (target : String) (node : Node) : Turn Tail Call :=
  let (f, filters) := node.filters.ban target
  say [s!"Banned {f.pattern}"] ({ node with filters }.note (.event (bannedEvent f)))

def filter : List String → Node → Turn Tail Call
  | [], node => say ["Usage: filter show", "       filter ban TARGET"] node
  | ["ban", target], node => ban target node
  | sub :: _, node =>
    if sub = "show" then say (node.filters.map Filter.line) node
    else if sub = "ban" then say ["Usage: filter ban TARGET"] node
    else say [s!"Unknown subcommand '{sub}'"] node

def tailEvent (message : String) (id : Nat) : Log.Event :=
  { level := .debug, message, fields := [("listener", .int id)] }

def chunks (rs : List Log.Record) : List Write := rs.map fun r => .text r.chunk

/-- The listener is registered before the first question. -/
def log (_ : List String) (node : Node) : Turn Tail Call :=
  let (id, node) := node.listen
  { node := node.note (.event (tailEvent "log tail started" id)), next := .asks ⟨id⟩ }

def proceed (t : Tail) (node : Node) : List Write × Node × Tail :=
  let (rs, node) := node.take t.listener
  (chunks rs, node, t)

/-- The listener goes first, so that nothing reaches it after the last records are taken. -/
def finish (t : Tail) (node : Node) : Conclusion :=
  let (rs, node) := node.unlisten t.listener
  { writes := chunks rs, node := node.note (.event (tailEvent "log tail stopped" t.listener)) }

def abandon (t : Tail) (node : Node) : Node := (node.unlisten t.listener).2

def nslookup (args : List String) (node : Node) : Turn Tail Call :=
  match args with
  | [target] =>
    match Address.ofText? target with
    | some a => { node, next := .calls (.reverse a target) }
    | none => { node, next := .calls (.lookup target) }
  | _ => say ["Usage: nslookup NAME"] node

def get (args : List String) (node : Node) : Turn Tail Call :=
  match args with
  | [url] => { node, next := .calls (.fetch url) }
  | _ => say ["Usage: get URL"] node

/-- `port` is the port of a host that gives none. -/
def helo (port : UInt16) (args : List String) (node : Node) : Turn Tail Call :=
  let o := Options.split ["-v"] args
  match o.positionals with
  | [target] =>
    match Host.ofText? port target with
    | none => { node, next := .done (.error (.invalidHost target)) }
    | some host =>
      let (relay, node) := node.listen
      { writes := lines [s!"HELO {host.text}"], node,
        next := .calls (.greet host relay (o.has "-v")) }
  | _ => say ["Usage: helo [-v] HOST"] node

/-- Warnings and errors are passed on, other records are not. -/
def relayed? (r : Log.Record) : Option Write :=
  match r.severity with
  | .error => some (.text s!"Error: {r.message}\n")
  | .warn => some (.text s!"Warning: {r.message}\n")
  | .info | .debug => none

def helloLines (h : Hello) : List Write :=
  lines [s!"Remote ID: {h.remote.text}", s!"Remote agent: {h.agent}", "OK"]

def dump (direction : String) (bs : Bytes) : List Write :=
  .line s!"--- {bs.length} bytes {direction}"
    :: if bs.isEmpty then []
      else lines [String.ofList (Dump.ascii bs), String.ofList (Dump.hexdump bs)]

def greeted (g : Greeting) (relay : Nat) (verbose : Bool) (node : Node) : Conclusion :=
  let (rs, node) := (node.noteAll g.notices).unlisten relay
  { writes := rs.filterMap relayed?
      ++ (match g.outcome with | .ok h => helloLines h | .error _ => [])
      ++ (if verbose then dump "written" g.transcript.written ++ dump "read" g.transcript.read
        else [])
    node
    outcome := g.outcome.map fun _ => () }

/-- The output of a service that gave `a`, or its failure. -/
def shown {α : Type} (r : Except Failure α) (view : α → Except Failure (List Write))
    (node : Node) : Conclusion :=
  match r.bind view with
  | .ok writes => { writes, node }
  | .error f => { node, outcome := .error f }

def answer (s : Services) : Call → Node → Conclusion
  | .lookup name, node => shown (s.lookup name) (fun as => .ok (lines (as.map Address.text))) node
  | .reverse a target, node =>
    shown (s.reverse a)
      (fun
        | some name => .ok (lines [name])
        | none => .error (.notFound target))
      node
  | .fetch url, node => shown (s.fetch url) (fun body => .ok [.bytes body]) node
  | .greet host relay verbose, node => greeted (s.greet host) relay verbose node

/-- A dropped handshake takes its listener along. -/
def abandonCall : Call → Node → Node
  | .greet _ relay _, node => (node.unlisten relay).2
  | _, node => node

/-- The console with all commands. -/
def console (port : UInt16) (s : Services) : Console Tail Call :=
  let none : Console Tail Call := { proceed, finish, answer := answer s, abandon, abandonCall }
  none.registerAll
    [⟨"log", log⟩, ⟨"nslookup", nslookup⟩, ⟨"helo", helo port⟩, ⟨"filter", filter⟩, ⟨"get", get⟩,
      ⟨"chan", chan⟩, ⟨"echo", echo⟩]

end Commands
end NodeConsole
