import NodeConsole.Console

/-! A command run to its end under a script of answers. -/
namespace NodeConsole

structure Query where
  arrivals : List Log.Record := []
  cancelled : Bool := false
  deriving DecidableEq, Repr

inductive Ending
  | cancelled
  | dropped
  deriving DecidableEq, Repr

structure Script where
  queries : List Query := []
  ending : Ending := .cancelled
  /-- A command that calls is dropped while the call is out. -/
  dropsCalls : Bool := false
  deriving DecidableEq, Repr

/-- What a command under a script has done. -/
structure Run (Call : Type) where
  writes : List Write := []
  node : Node
  calls : List Call := []
  /-- How often it asked whether it was cancelled. -/
  asked : Nat := 0
  /-- Whether it came to its own end. -/
  completed : Bool := true

namespace Console

variable {Wait Call : Type}

/-- A command that is about to ask. -/
def poll (c : Console Wait Call) (command : String) (ending : Ending) :
    List Query → Wait → Node → Run Call
  | [], w, node =>
    match ending with
    | .cancelled =>
      let p : Progress Wait Call := conclude command (c.finish w node)
      { writes := p.writes, node := p.node, asked := 1 }
    | .dropped => { node := c.abandon w node, completed := false }
  | q :: qs, w, node =>
    let node := node.pushAll q.arrivals
    if q.cancelled then
      let p : Progress Wait Call := conclude command (c.finish w node)
      { writes := p.writes, node := p.node, asked := 1 }
    else
      let (writes, node, w) := c.proceed w node
      let r := c.poll command ending qs w node
      { r with writes := writes ++ r.writes, asked := r.asked + 1 }

/-- Runs the command in a line; a call is answered at once, or never. -/
def run (c : Console Wait Call) (s : Script) (line : String) (node : Node) : Run Call :=
  let p := c.dispatch line node
  match p.running with
  | none => { writes := p.writes, node := p.node }
  | some ⟨command, .inl w⟩ =>
    let r := c.poll command s.ending s.queries w p.node
    { r with writes := p.writes ++ r.writes }
  | some ⟨command, .inr k⟩ =>
    if s.dropsCalls then
      { writes := p.writes, node := c.abandonCall k p.node, calls := [k], completed := false }
    else
      let q : Progress Wait Call := conclude command (c.answer k p.node)
      { writes := p.writes ++ q.writes, node := q.node, calls := [k] }

/-- Runs lines one after another, each under its script and on the node that the one before left. -/
def runAll (c : Console Wait Call) : List (Script × String) → Node → List (Run Call) × Node
  | [], node => ([], node)
  | (s, line) :: rest, node =>
    let r := c.run s line node
    let (rs, node) := c.runAll rest r.node
    (r :: rs, node)

end Console
end NodeConsole
