import Mathlib.Logic.Relation
import NodeConsole.Proofs.Console.Frame

/-! Commands under way at the same time on one node. -/
namespace NodeConsole.Commands
open Log (Following Follower Dealings Buffer)

/-- A node and the commands that are under way on it. -/
structure Busy where
  node : Node
  commands : List (Console.Running Tail Call) := []

namespace Busy

/-- A line is started; a command has its next or last turn, or is dropped; or a record comes from
elsewhere. -/
inductive Step (port : UInt16) : Busy → Busy → Prop
  | start {b : Busy} (sv : Services) (line : String) :
      Step port b
        ⟨((console port sv).dispatch line b.node).node,
          b.commands ++ ((console port sv).dispatch line b.node).running.toList⟩
  | proceed {b : Busy} {i : Nat} {command : String} {t : Tail}
      (hi : b.commands[i]? = some ⟨command, .inl t⟩) :
      Step port b
        ⟨(Commands.proceed t b.node).2.1,
          b.commands.set i ⟨command, .inl (Commands.proceed t b.node).2.2⟩⟩
  | finish {b : Busy} {i : Nat} {command : String} {t : Tail}
      (hi : b.commands[i]? = some ⟨command, .inl t⟩) :
      Step port b
        ⟨(Console.conclude command (Commands.finish t b.node) : Console.Progress Tail Call).node,
          b.commands.eraseIdx i⟩
  | answer {b : Busy} {i : Nat} {command : String} {k : Call} (sv : Services)
      (hi : b.commands[i]? = some ⟨command, .inr k⟩) :
      Step port b
        ⟨(Console.conclude command (Commands.answer sv k b.node) :
            Console.Progress Tail Call).node,
          b.commands.eraseIdx i⟩
  | abandon {b : Busy} {i : Nat} {command : String} {t : Tail}
      (hi : b.commands[i]? = some ⟨command, .inl t⟩) :
      Step port b ⟨Commands.abandon t b.node, b.commands.eraseIdx i⟩
  | abandonCall {b : Busy} {i : Nat} {command : String} {k : Call}
      (hi : b.commands[i]? = some ⟨command, .inr k⟩) :
      Step port b ⟨Commands.abandonCall k b.node, b.commands.eraseIdx i⟩
  | arrive {b : Busy} (r : Log.Record) : Step port b { b with node := b.node.push r }

/-- The listeners of the commands under way. -/
def held (b : Busy) : List Nat := b.commands.flatMap fun r => (listener? r.place).toList

variable {port : UInt16} {b c : Busy} {base : List Nat} {i : Nat}
  {r : Console.Running Tail Call} {node : Node}

/-- On the log are those in `base` and one for each command that has a listener. -/
def There (base : List Nat) (b : Busy) : Prop := b.node.log.ids.Perm (base ++ b.held)

/-- The last turn of a command, or its drop. -/
theorem there_end (hb : There base b) (hi : b.commands[i]? = some r)
    (hn : node.frame = b.node.frame.part (listener? r.place)) :
    There base ⟨node, b.commands.eraseIdx i⟩ := by
  obtain ⟨before, behind, hc, -, he⟩ := Log.split_at hi
  have hl : node.log.ids = (b.node.frame.part (listener? r.place)).listeners :=
    congrArg Frame.listeners hn
  simp only [There, held, hc, List.flatMap_append, List.flatMap_cons] at hb
  simp only [There, held, hl, he, List.flatMap_append]
  cases ho : listener? r.place with
  | none =>
    rw [ho, Option.toList_none, List.nil_append] at hb
    exact hb
  | some id =>
    rw [ho, Option.toList_some, List.singleton_append] at hb
    refine (hb.erase id).trans ?_
    rw [← List.append_assoc, ← List.append_assoc]
    exact (List.perm_middle.erase id).trans (by rw [List.erase_cons_head])

theorem there_step (hb : There base b) (h : Step port b c) : There base c := by
  cases h with
  | start sv line =>
    have hl := congrArg Frame.listeners (frame_dispatch port sv line b.node)
    have ht : (⟨((console port sv).dispatch line b.node).node, b.commands ++
        ((console port sv).dispatch line b.node).running.toList⟩ : Busy).held = b.held ++
          (((console port sv).dispatch line b.node).running.bind fun r =>
            listener? r.place).toList := by
      rw [held, List.flatMap_append]
      cases ((console port sv).dispatch line b.node).running <;> simp [held]
    rw [There, ht, ← List.append_assoc]
    exact (List.Perm.of_eq hl).trans (hb.append_right _)
  | @proceed i command t hi =>
    have hl := congrArg Frame.listeners (Node.frame_take t.listener b.node)
    obtain ⟨before, behind, hc, hs, -⟩ := Log.split_at hi
    simp only [There, held, hc] at hb
    simp only [There, held, hs]
    exact (List.Perm.of_eq hl).trans hb
  | finish hi => exact there_end hb hi ((Console.frame_conclude _ _).trans (frame_finish _ _))
  | answer sv hi => exact there_end hb hi ((Console.frame_conclude _ _).trans (frame_answer sv _ _))
  | abandon hi => exact there_end hb hi (frame_abandon _ _)
  | abandonCall hi => exact there_end hb hi (frame_abandonCall _ _)
  | arrive r =>
    have hl := congrArg Frame.listeners (Node.frame_push r b.node)
    exact (List.Perm.of_eq hl).trans hb

theorem there_run (hb : There base b) (h : Relation.ReflTransGen (Step port) b c) :
    There base c := by
  induction h with
  | refl => exact hb
  | tail _ h ih => exact there_step ih h

end Busy

/-- Under any interleaving, a follower or command has at most one listener, and asks once to take it
off. -/
theorem subscriptions_released :
    (∀ {s t : Following} {es : List Following.Event}, s.Fresh → Following.Trace s es t →
      (∀ {i : Nat} {f : Follower}, t.followers[i]? = some f →
        (Dealings.of i es).given = (Dealings.of i es).removed ++ f.held ∧
          (Dealings.of i es).given.length ≤ 1 ∧
          f.removals.reverse = (Dealings.of i es).removed ∧
          (f.stage = .ended ∨ f.stage = .dropped →
            (Dealings.of i es).removed = (Dealings.of i es).given)) ∧
        (∀ {i id : Nat}, id ∈ (Dealings.of i es).given →
          id ∉ s.buffer.ids ∧ ∀ {j : Nat}, id ∈ (Dealings.of j es).given → i = j) ∧
        t.buffer.ids.Perm (s.buffer.ids ++ t.followers.flatMap Follower.held) ∧
        t.buffer.listeners.length =
          s.buffer.listeners.length + t.followers.countP (·.stage.listening) ∧
        ((∀ f ∈ t.followers, f.stage = .ended ∨ f.stage = .dropped) →
          t.buffer.ids = s.buffer.ids)) ∧
      ∀ {port : UInt16} {b c : Busy}, b.commands = [] →
        Relation.ReflTransGen (Busy.Step port) b c →
        c.node.log.ids.Perm (b.node.log.ids ++ c.held) ∧
          (c.commands = [] → c.node.log.ids = b.node.log.ids) := by
  have hsilent {f : Follower} (h : f.stage = .ended ∨ f.stage = .dropped) :
      f.stage.listening = false := by
    rcases h with h | h <;> rw [h] <;> rfl
  constructor
  · intro s t es hs ht
    have ha := Following.accounted_trace hs ht
    refine ⟨?_, ?_, ha.there, ha.count, fun he => ha.over fun f hf => hsilent (he f hf)⟩
    · intro i f hi
      have hd := ha.settled hi
      refine ⟨hd.given, hd.once, hd.removals.symm, ?_⟩
      intro he
      rw [hd.given, Follower.held_of_silent (hsilent he), List.append_nil]
    · intro i id hg
      exact ⟨ha.not_mem_ids hg, ha.apart hg⟩
  · intro port b c hb hr
    have h₀ : Busy.There b.node.log.ids b := by
      rw [Busy.There, Busy.held, hb]
      exact .of_eq (List.append_nil _).symm
    have hc := Busy.there_run h₀ hr
    refine ⟨hc, ?_⟩
    intro he
    rw [Busy.There, Busy.held, he, List.flatMap_nil, List.append_nil] at hc
    exact Buffer.ids_eq_of_perm hc

/-- A tail that is dropped while a relay is on the log, and the same with commands: only the
listener from before is left. -/
theorem subscriptions_released_drop :
    (∃ t, Following.Trace
        ⟨{ capacity := 0 }, [Follower.tail, { Follower.tail with kind := .relay }], []⟩
        [.move 0 (.subscribe 1), .move 1 (.subscribe 2), .move 0 (.ask false), .move 0 .take,
          .move 0 .pause, .move 1 .reply, .move 0 .drop, .move 1 .leave, .move 1 .drain,
          .move 1 .done] t ∧
      t.buffer.ids = []) ∧
    ∃ b, Relation.ReflTransGen (Busy.Step 0)
        ⟨{ log := (Buffer.mk 0 [] [] 1 Log.ascending_first).listen.2 }, []⟩ b ∧
      b.commands = [] ∧ b.node.log.ids = [1] := by
  refine ⟨?_, ?_⟩
  · have h₀ := Following.Trace.refl
      (s := ⟨{ capacity := 0 }, [Follower.tail, { Follower.tail with kind := .relay }], []⟩)
    have h₁ := h₀.snoc (.move (i := 0) rfl (.subscribe rfl) fun _ => rfl)
    have h₂ := h₁.snoc (.move (i := 1) rfl (.subscribe rfl) fun _ => rfl)
    have h₃ := h₂.snoc (.move (i := 0) rfl (.ask false rfl) nofun)
    have h₄ := h₃.snoc (.move (i := 0) rfl (.take rfl) nofun)
    have h₅ := h₄.snoc (.move (i := 0) rfl (.pause rfl) nofun)
    have h₆ := h₅.snoc (.move (i := 1) rfl (.reply rfl) nofun)
    have h₇ := h₆.snoc (.move (i := 0) rfl (.drop (.inl rfl)) fun _ => rfl)
    have h₈ := h₇.snoc (.move (i := 1) rfl (.leave rfl) fun _ => rfl)
    have h₉ := h₈.snoc (.move (i := 1) rfl (.drain rfl) nofun)
    have ht := h₉.snoc (.move (i := 1) rfl (.done rfl) nofun)
    have hs := subscriptions_released.1 ⟨by simp [Follower.tail], rfl⟩ ht
    refine ⟨_, ht, hs.2.2.2.2 ?_⟩
    intro f hf
    obtain rfl | hf := List.mem_cons.mp hf
    · exact .inr rfl
    · obtain rfl := List.mem_singleton.mp hf
      exact .inl rfl
  · have h₀ : Relation.ReflTransGen (Busy.Step 0)
        ⟨{ log := (Buffer.mk 0 [] [] 1 Log.ascending_first).listen.2 }, []⟩ _ := .refl
    have h₁ := h₀.tail (.start .silent "log")
    have h₂ := h₁.tail (.start .silent "helo peer")
    have h₃ := h₂.tail (.abandon (i := 0) rfl)
    have h₄ := h₃.tail (.answer (i := 0) .silent rfl)
    exact ⟨_, h₄, rfl, (subscriptions_released.2 rfl h₄).2 rfl⟩

end NodeConsole.Commands
