import NodeConsole.Proofs.Console.Steady
import NodeConsole.Proofs.Words.Rendering

/-! What a console does with a line. -/
namespace NodeConsole
open Text (Bytes)

variable {Wait Call : Type} {c : Console Wait Call}

/-- What a handler has done when it has come to its end or is dropped. -/
structure Performance (Call : Type) where
  writes : List Write := []
  node : Node
  calls : List Call := []
  /-- How often it asked whether it was cancelled. -/
  asked : Nat := 0
  /-- Nothing if it was dropped. -/
  outcome : Option (Except Failure Unit)

namespace Performance

def ended (calls : List Call) (asked : Nat) (k : Conclusion) : Performance Call :=
  { writes := k.writes, node := k.node, calls, asked, outcome := some k.outcome }

/-- The same behind some writes and questions. -/
def behind (ws : List Write) (n : Nat) (p : Performance Call) : Performance Call :=
  { p with writes := ws ++ p.writes, asked := p.asked + n }

/-- What a console makes of it: a failure is noted and said in a line. -/
def close (command : String) (p : Performance Call) : Run Call :=
  match p.outcome with
  | some (.ok ()) => { writes := p.writes, node := p.node, calls := p.calls, asked := p.asked }
  | some (.error f) =>
    { writes := p.writes ++ [Console.errorLine f.message]
      node := p.node.note (.event (Console.failedEvent command f))
      calls := p.calls
      asked := p.asked }
  | none =>
    { writes := p.writes, node := p.node, calls := p.calls, asked := p.asked, completed := false }

variable (command : String) (calls : List Call) (asked : Nat) (k : Conclusion)

theorem close_ended (Wait : Type) :
    (ended calls asked k).close command =
      { writes := (Console.conclude command k : Console.Progress Wait Call).writes
        node := (Console.conclude command k : Console.Progress Wait Call).node
        calls
        asked } := by
  obtain ⟨writes, node, f | _⟩ := k <;> rfl

theorem close_behind (ws : List Write) (n : Nat) (p : Performance Call) :
    (p.behind ws n).close command =
      { p.close command with
        writes := ws ++ (p.close command).writes, asked := (p.close command).asked + n } := by
  obtain ⟨writes, node, calls, asked, _ | f | _⟩ := p
  · rfl
  · simp [close, behind]
  · rfl

end Performance

namespace Console

/-- A handler that is about to ask. -/
def performFrom (c : Console Wait Call) (ending : Ending) :
    List Query → Wait → Node → Performance Call
  | [], w, node =>
    match ending with
    | .cancelled => .ended [] 1 (c.finish w node)
    | .dropped => { node := c.abandon w node, outcome := none }
  | q :: qs, w, node =>
    let node := node.pushAll q.arrivals
    if q.cancelled then .ended [] 1 (c.finish w node)
    else
      let (writes, node, w) := c.proceed w node
      (c.performFrom ending qs w node).behind writes 1

/-- A handler under a script, run once with its arguments. -/
def perform (c : Console Wait Call) (s : Script) (h : Handler Wait Call) (args : List String)
    (node : Node) : Performance Call :=
  let t := h.start args node
  match t.next with
  | .done outcome => .ended [] 0 ⟨t.writes, t.node, outcome⟩
  | .asks w => (c.performFrom s.ending s.queries w t.node).behind t.writes 0
  | .calls k =>
    if s.dropsCalls then
      { writes := t.writes, node := c.abandonCall k t.node, calls := [k], outcome := none }
    else (Performance.ended [k] 0 (c.answer k t.node)).behind t.writes 0

theorem poll_eq_close (command : String) (ending : Ending) (qs : List Query) (w : Wait)
    (node : Node) :
    c.poll command ending qs w node = (c.performFrom ending qs w node).close command := by
  induction qs generalizing w node with
  | nil =>
    cases ending with
    | cancelled => exact (Performance.close_ended command [] 1 _ Wait).symm
    | dropped => rfl
  | cons q qs ih =>
    unfold poll performFrom
    by_cases hq : q.cancelled
    · simp only [if_pos hq]
      exact (Performance.close_ended command [] 1 _ Wait).symm
    · simp only [if_neg hq, ih, Performance.close_behind]

/-- A handler that a line has brought to run does what it does by itself. -/
theorem run_eq_close (s : Script) {line : String} {h : Handler Wait Call} {args : List String}
    {node : Node} (hd : c.dispatch line node = start h args node) :
    c.run s line node =
      (c.perform s h args (node.note (.event (dispatchedEvent h.name args)))).close h.name := by
  rw [run, hd, start, perform]
  generalize h.start args (node.note (.event (dispatchedEvent h.name args))) = t
  obtain ⟨writes, m, outcome | w | k⟩ := t
  · obtain f | _ := outcome <;> rfl
  · simp only [advance, poll_eq_close, Performance.close_behind]
    rfl
  · by_cases hs : s.dropsCalls
    · simp only [advance, if_pos hs]
      rfl
    · simp only [advance, if_neg hs, Performance.close_behind, Performance.close_ended _ _ _ _ Wait]

/-- The handler that was registered last under a name. -/
def last? (hs : List (Handler Wait Call)) (name : String) : Option (Handler Wait Call) :=
  hs.reverse.find? (·.name = name)

/-- The answer to a line that brings nothing to run. -/
def refused (message : String) (node : Node) : Run Call := { writes := [errorLine message], node }

theorem output_errorLine (message : String) :
    output [errorLine message] = Text.bytes s!"Error: {message}\n" := by
  calc output [errorLine message]
    _ = Text.bytes s!"Error: {message}" ++ (newline ++ []) := by
      simp [output, Write.allChunks, errorLine, Write.chunks]
    _ = Text.bytes s!"Error: {message}" ++ Text.bytes "\n" := rfl
    _ = Text.bytes (s!"Error: {message}" ++ "\n") := (Text.bytes_append _ _).symm

end Console
end NodeConsole
