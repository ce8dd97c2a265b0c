import NodeConsole.Failure
import NodeConsole.Node
import NodeConsole.Output
import NodeConsole.Words

/-! Consoles: commands by name, and the dispatch of a line. -/
namespace NodeConsole

/-- What a command does after a turn; `Wait` and `Call` say where it stands. -/
inductive Next (Wait Call : Type)
  | done (outcome : Except Failure Unit)
  | asks (w : Wait)
  | calls (c : Call)

structure Turn (Wait Call : Type) where
  writes : List Write := []
  node : Node
  next : Next Wait Call

/-- The last turn of a command. -/
structure Conclusion where
  writes : List Write := []
  node : Node
  outcome : Except Failure Unit := .ok ()

structure Handler (Wait Call : Type) where
  name : String
  start : List String → Node → Turn Wait Call

structure Console (Wait Call : Type) where
  /-- In ascending order of their names, which differ. -/
  handlers : List (Handler Wait Call) := []
  /-- The turn of a command that is not cancelled; it sleeps afterwards. -/
  proceed : Wait → Node → List Write × Node × Wait
  /-- The turn of a command that is cancelled. -/
  finish : Wait → Node → Conclusion
  /-- The turn of a command when its call is answered. -/
  answer : Call → Node → Conclusion
  /-- What is left of a command that is dropped while it sleeps. -/
  abandon : Wait → Node → Node
  /-- What is left of a command that is dropped while its call is out. -/
  abandonCall : Call → Node → Node

namespace Console

variable {Wait Call : Type}

/-- Puts a handler in its place; one of the same name is replaced. -/
def insert (h : Handler Wait Call) : List (Handler Wait Call) → List (Handler Wait Call)
  | [] => [h]
  | g :: gs =>
    if h.name < g.name then h :: g :: gs
    else if h.name = g.name then h :: gs
    else g :: insert h gs

def register (h : Handler Wait Call) (c : Console Wait Call) : Console Wait Call :=
  { c with handlers := insert h c.handlers }

def registerAll (hs : List (Handler Wait Call)) (c : Console Wait Call) : Console Wait Call :=
  hs.foldl (fun c h => c.register h) c

def names (c : Console Wait Call) : List String := c.handlers.map (·.name)

def contains (c : Console Wait Call) (name : String) : Bool := c.handlers.any (·.name = name)

def handler? (c : Console Wait Call) (name : String) : Option (Handler Wait Call) :=
  c.handlers.find? (·.name = name)

def errorLine (message : String) : Write := .line s!"Error: {message}"

def emptyLine : String := "Empty command line"

def unknownCommand (name : String) : String := s!"No such command '{name}'"

/-- A command that is under way. -/
structure Running (Wait Call : Type) where
  command : String
  place : Wait ⊕ Call

/-- What a dispatch has come to. -/
structure Progress (Wait Call : Type) where
  writes : List Write := []
  node : Node
  /-- Nothing once the command is done. -/
  running : Option (Running Wait Call) := none

def dispatchedEvent (command : String) (args : List String) : Log.Event :=
  { level := .debug, message := "dispatching console command",
    fields := [("command", .text command), ("args", .int args.length)] }

def failedEvent (command : String) (f : Failure) : Log.Event :=
  { level := .debug, message := "console command failed",
    fields := [("command", .text command), ("error", .text f.message)] }

/-- A failure is logged and said in a line after the output. -/
def conclude (command : String) (k : Conclusion) : Progress Wait Call :=
  match k.outcome with
  | .ok () => { writes := k.writes, node := k.node }
  | .error f =>
    { writes := k.writes ++ [errorLine f.message]
      node := k.node.note (.event (failedEvent command f)) }

def advance (command : String) (t : Turn Wait Call) : Progress Wait Call :=
  match t.next with
  | .done outcome => conclude command ⟨t.writes, t.node, outcome⟩
  | .asks w => ⟨t.writes, t.node, some ⟨command, .inl w⟩⟩
  | .calls c => ⟨t.writes, t.node, some ⟨command, .inr c⟩⟩

def refuse (message : String) (node : Node) : Progress Wait Call :=
  { writes := [errorLine message], node }

def start (h : Handler Wait Call) (args : List String) (node : Node) : Progress Wait Call :=
  advance h.name (h.start args (node.note (.event (dispatchedEvent h.name args))))

/-- The first turn of the command in a line. -/
def dispatch (c : Console Wait Call) (line : String) (node : Node) : Progress Wait Call :=
  match words line with
  | .error f => refuse f.message node
  | .ok [] => refuse emptyLine node
  | .ok (name :: args) =>
    match c.handler? name with
    | none => refuse (unknownCommand name) node
    | some h => start h args node

end Console
end NodeConsole
