import NodeConsole.Config.Layers
import NodeConsole.Console.Script

/-! The prompt. -/
namespace NodeConsole
open Text (Bytes)

namespace Repl

variable {Wait Call : Type}

def prompt : Write := .text s!"{Config.programName}> "

def welcome (c : Console Wait Call) : List Write :=
  [.line s!"{Config.programName} {Config.programVersion}",
    .line ("commands: " ++ ", ".intercalate c.names),
    .line "Ctrl-C cancels a running command, Ctrl-D exits."]

/-- What has been entered at a prompt. -/
inductive Entered
  | nothing
  | leave
  | command (line : String)
  | invalid
  | ended
  deriving DecidableEq, Repr

def isExit (line : String) : Bool := line = "exit" || line = "quit"

/-- Reads a line; without one the input has ended. -/
def read (c : Console Wait Call) : Option Bytes → Entered
  | none => .ended
  | some bs =>
    match Text.decode? bs with
    | none => .invalid
    | some s =>
      let line := String.ofList (Text.trim s)
      if line.isEmpty then .nothing
      else if isExit line && !c.contains line then .leave
      else .command line

/-- Whether the prompt comes again, and if not, whether all was well. -/
inductive Going
  | on | left | failed
  deriving DecidableEq, Repr

/-- What an entry does. -/
structure Reply where
  writes : List Write := []
  node : Node
  going : Going := .on

def reply (c : Console Wait Call) (s : Script) (node : Node) : Entered → Reply
  | .nothing => { node }
  | .leave => { node, going := .left }
  | .command line =>
    let r := c.run s line node
    { writes := r.writes, node := r.node }
  | .invalid => { node, going := .failed }
  | .ended => { writes := [.bytes newline], node, going := .left }

/-- The lines of an input. What follows the last newline is one only if it is not empty. -/
def lines (w : Bytes) : Bytes → List Bytes
  | [] => if w.isEmpty then [] else [w.reverse]
  | b :: s => if b = 10 then w.reverse :: lines [] s else lines (b :: w) s

/-- Prompts for the lines one after another, and once more at their end. -/
def loop (c : Console Wait Call) (s : Script) (node : Node) : List Bytes → Reply
  | [] =>
    let r := reply c s node (read c none)
    { r with writes := prompt :: r.writes }
  | l :: ls =>
    let r := reply c s node (read c (some l))
    match r.going with
    | .on =>
      let t := loop c s r.node ls
      { t with writes := prompt :: r.writes ++ t.writes }
    | _ => { r with writes := prompt :: r.writes }

/-- A whole session at the prompt. -/
def run (c : Console Wait Call) (s : Script) (node : Node) (input : Bytes) : Reply :=
  let r := loop c s node (lines [] input)
  { r with writes := welcome c ++ r.writes }

end Repl
end NodeConsole
