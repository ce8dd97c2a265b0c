import NodeConsole.Console.Script
import NodeConsole.Proofs.Console.Handlers
import NodeConsole.Proofs.Log.Inbox

/-! Commands run one after another, until each is cancelled. -/
namespace NodeConsole
open Text (Bytes)

/-- The answer is no `n` times, and then yes. Nothing is pushed meanwhile. -/
def Script.patient (n : Nat) : Script := { queries := List.replicate n {} }

namespace Console

variable {Wait Call : Type} {c : Console Wait Call}

/-- The bytes of writes. -/
def output (ws : List Write) : Bytes := (Write.allChunks ws).flatten

/-- Lines one after another, each with how often its command is told that it is not cancelled. -/
def serve (c : Console Wait Call) (ps : List (Nat × String)) (node : Node) : Bytes × Node :=
  let r := c.runAll (ps.map fun p => (.patient p.1, p.2)) node
  (output (r.1.flatMap (·.writes)), r.2)

def Steady (c : Console Wait Call) : Prop :=
  ∀ (ps qs : List (Nat × String)) (node : Node), ps.map (·.2) = qs.map (·.2) →
    (c.serve ps node).1 = (c.serve qs node).1

theorem output_append (us vs : List Write) : output (us ++ vs) = output us ++ output vs := by
  simp [output, Write.allChunks]

theorem serve_nil (node : Node) : c.serve [] node = ([], node) := rfl

theorem serve_cons (n : Nat) (line : String) (ps : List (Nat × String)) (node : Node) :
    c.serve ((n, line) :: ps) node =
      (output (c.run (.patient n) line node).writes ++
          (c.serve ps (c.run (.patient n) line node).node).1,
        (c.serve ps (c.run (.patient n) line node).node).2) := by
  simp only [serve, List.map_cons, runAll, List.flatMap_cons, output_append]

/-- Commands that do the same however long they are told that they are not cancelled make a console
steady. -/
theorem steady_of_run (h : ∀ (n m : Nat) (line : String) (node : Node),
      (c.run (.patient n) line node).writes = (c.run (.patient m) line node).writes ∧
        (c.run (.patient n) line node).node = (c.run (.patient m) line node).node) : c.Steady := by
  intro ps
  induction ps with
  | nil =>
    intro qs node hq
    obtain rfl : qs = [] := List.map_eq_nil_iff.mp hq.symm
    rfl
  | cons p ps ih =>
    intro qs node hq
    cases qs with
    | nil => simp at hq
    | cons q qs =>
      obtain ⟨n, line⟩ := p
      obtain ⟨m, line'⟩ := q
      obtain ⟨rfl, ht⟩ : line = line' ∧ ps.map (·.2) = qs.map (·.2) := by simpa using hq
      obtain ⟨hw, hn⟩ := h n m line node
      rw [serve_cons, serve_cons, hw, hn, ih qs _ ht]

/-- Only a command that asks can be told anything. -/
theorem run_patient
    (h : ∀ (n : Nat) (command : String) (w : Wait) (node : Node),
      (c.poll command .cancelled (List.replicate n {}) w node).writes =
          (c.poll command .cancelled [] w node).writes ∧
        (c.poll command .cancelled (List.replicate n {}) w node).node =
          (c.poll command .cancelled [] w node).node)
    (n : Nat) (line : String) (node : Node) :
    (c.run (.patient n) line node).writes = (c.run (.patient 0) line node).writes ∧
      (c.run (.patient n) line node).node = (c.run (.patient 0) line node).node := by
  rw [run, run]
  obtain ⟨writes, node, running⟩ := c.dispatch line node
  rcases running with _ | ⟨command, w | k⟩
  · exact ⟨rfl, rfl⟩
  · obtain ⟨hw, hn⟩ := h n command w node
    exact ⟨congrArg (writes ++ ·) hw, hn⟩
  · exact ⟨rfl, rfl⟩

end Console

namespace Commands

/-- A tail that hears of nothing ends as if it had been told at once that it is cancelled. -/
theorem poll_patient (port : UInt16) (s : Services) (command : String) (n : Nat) (t : Tail)
    (node : Node) :
    ((console port s).poll command .cancelled (List.replicate n {}) t node).writes =
        (finish t node).writes ∧
      ((console port s).poll command .cancelled (List.replicate n {}) t node).node =
        (finish t node).node := by
  induction n generalizing node with
  | zero => exact ⟨rfl, rfl⟩
  | succ n ih =>
    obtain ⟨hq, hb⟩ := Log.Buffer.unlisten_take node.log t.listener
    have hu : (node.take t.listener).2.unlisten t.listener =
        ([], (node.unlisten t.listener).2) := by
      simp only [Node.unlisten, Node.take, hq, hb]
    obtain ⟨hw, hn⟩ := ih (node.take t.listener).2
    refine ⟨?_, ?_⟩
    · calc ((console port s).poll command .cancelled (List.replicate (n + 1) {}) t node).writes
        _ = chunks (node.take t.listener).1 ++ ((console port s).poll command .cancelled
              (List.replicate n {}) t (node.take t.listener).2).writes := rfl
        _ = chunks (node.take t.listener).1 := by rw [hw, finish, hu]; exact List.append_nil _
        _ = (finish t node).writes := rfl
    · calc ((console port s).poll command .cancelled (List.replicate (n + 1) {}) t node).node
        _ = ((console port s).poll command .cancelled
              (List.replicate n {}) t (node.take t.listener).2).node := rfl
        _ = (finish t node).node := by rw [hn, finish, hu]; rfl

/-- The console with all commands is steady. -/
theorem steady_console (port : UInt16) (s : Services) : (console port s).Steady := by
  have hp (n : Nat) (line : String) (node : Node) := Console.run_patient
    (c := console port s) (fun n command t node => poll_patient port s command n t node) n line node
  exact Console.steady_of_run fun n m line node =>
    ⟨(hp n line node).1.trans (hp m line node).1.symm,
      (hp n line node).2.trans (hp m line node).2.symm⟩

end Commands
end NodeConsole
