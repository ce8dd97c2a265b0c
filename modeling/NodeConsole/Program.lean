import NodeConsole.Config.Inspection
import NodeConsole.Invocation
import NodeConsole.Network
import NodeConsole.Repl
import NodeConsole.Session.Schedule
import NodeConsole.Socket

/-! The program as a function of what it is run in. -/
namespace NodeConsole
open Text (Bytes)

structure Surroundings where
  configDir : Option String := none
  /-- The configuration file that is named besides. -/
  namedConfig : Option String := none
  runtimeDir : String
  /-- What is read at a path. -/
  found : String → Config.Found
  files : Files := []
  network : Network := .offline
  /-- What the node calls itself towards peers. -/
  session : PeerId := .zero
  input : Bytes := []
  peers : List Session.Peer := []

structure Outcome where
  output : Bytes := []
  /-- What is said on the side about a failure. -/
  complaint : String := ""
  code : Nat := 0
  /-- What each peer has got. -/
  answers : List Bytes := []
  /-- Whether every peer comes to the end of its session. -/
  answered : Bool := true
  files : Files := []

namespace Program

def failed (message : String) (s : Surroundings) : Outcome :=
  { complaint := s!"error: {message}\n", code := 1, files := s.files }

def written (ws : List Write) : Bytes := (Write.allChunks ws).flatten

def load (s : Surroundings) : Except Config.LoadFault Config.Loaded :=
  Config.load s.found (Config.searchPaths s.configDir s.namedConfig)

def console (s : Surroundings) (c : Config) : Console Commands.Tail Commands.Call :=
  s.network.console c s.session

/-- Commands are run for as long as they go on by themselves. -/
def script : Script := {}

def exec (s : Surroundings) (c : Config) (line : String) : Outcome :=
  { output := written ((console s c).run script line (Node.ofConfig c)).writes, files := s.files }

def invalidInput : String := "stream did not contain valid UTF-8"

def interactive (s : Surroundings) (c : Config) : Outcome :=
  let r := Repl.run (console s c) script (Node.ofConfig c) s.input
  { output := written r.writes
    complaint := if r.going = .failed then s!"error: {invalidInput}\n" else ""
    code := if r.going = .failed then 1 else 0
    files := s.files }

def serve (s : Surroundings) (c : Config) (socket : Option String) : Outcome :=
  let path := socket.getD (c.effectiveSocketPath s.runtimeDir)
  match Socket.bind path s.files with
  | .error f => failed f.message s
  | .ok files =>
    let sessions := (Session.runAll (console s c) s.peers (Node.ofConfig c)).1
    let answers := sessions.map (·.output)
    let answered := sessions.all (·.left)
    match Socket.release path files with
    | .error f => { failed f.message s with answers, answered, files }
    | .ok files => { answers, answered, files }

def act (s : Surroundings) (a : Action) : Outcome :=
  match load s with
  | .error f => failed f.message s
  | .ok l =>
    match a with
    | .inspect =>
      { output := written [.line (Config.inspect s.runtimeDir l)], files := s.files }
    | .interactive => interactive s l.config
    | .exec line => exec s l.config line
    | .serve socket => serve s l.config socket

def misused (f : Invocation.Fault) (s : Surroundings) : Outcome :=
  { complaint := s!"error: {f.message}\n\nFor more information, try '--help'.\n"
    code := 2
    files := s.files }

def run (s : Surroundings) (args : List String) : Outcome :=
  match Invocation.read args with
  | .error f => misused f s
  | .ok .version => { output := written [.line Invocation.versionLine], files := s.files }
  | .ok (.help t) =>
    { output := written ((Invocation.helpLines t).map .line), files := s.files }
  | .ok (.act a) => act s a

end Program
end NodeConsole
