import Mathlib.Logic.Relation
import NodeConsole.Proofs.Console.Steady
import NodeConsole.Proofs.Session.Framing

/-! A session refines its console, unless output is lost. -/
namespace NodeConsole.Session
open Text (Bytes)

variable {Wait Call : Type} {c : Console Wait Call} {s t : State Wait Call} {input : Bytes}

/-- The line of an input, if it has one. -/
def Input.line? : Input → Option String
  | .line l => some l
  | .tooLong => none

def lines (is : List Input) : List String := is.filterMap Input.line?

/-- What is said at the end of a session with these inputs. -/
def farewell (is : List Input) : Bytes :=
  if .tooLong ∈ is then Text.bytes "Error: command too long\n" else []

/-- What is left of a command that is told `n` more times to go on: the bytes to come, and the
node. -/
def Serving.remaining (c : Console Wait Call) (n : Nat) : Serving Wait Call → Node → Bytes × Node
  | .writing cs next, node =>
    (cs.flatten ++ (next.remaining c n node).1, (next.remaining c n node).2)
  | .asking command w, node | .sleeping command w, node =>
    let r := c.poll command .cancelled (List.replicate n {}) w node
    (Console.output r.writes, r.node)
  | .calling command k, node =>
    let p : Console.Progress Wait Call := Console.conclude command (c.answer k node)
    (Console.output p.writes, p.node)
  | .idle, node | .checking, node | .peeking, node | .ended, node => ([], node)

namespace State

/-- The bytes that the peer will have got, and the node; `ps` says how often each command is told to
go on. -/
def future (c : Console Wait Call) (n : Nat) (ps : List (Nat × String)) (s : State Wait Call) :
    Bytes × Node :=
  let r := s.serving.remaining c n s.node
  let q := c.serve ps r.2
  (s.outbox.taken ++ (r.1 ++ (q.1 ++ farewell s.upcoming)), q.2)

theorem remaining_conclude (n : Nat) (command : String) (k : Conclusion) :
    Serving.remaining c n
        (place (Console.conclude command k : Console.Progress Wait Call).running)
        (Console.conclude command k : Console.Progress Wait Call).node =
      ([], (Console.conclude command k : Console.Progress Wait Call).node) := by
  unfold Console.conclude
  split <;> rfl

/-- The first turn of a command and what is left of it then are the whole of it. -/
theorem remaining_dispatch (n : Nat) (line : String) (node : Node) :
    Serving.remaining c n
        (.writing (Write.allChunks (c.dispatch line node).writes)
          (place (c.dispatch line node).running)) (c.dispatch line node).node =
      (Console.output (c.run (.patient n) line node).writes,
        (c.run (.patient n) line node).node) := by
  rw [Console.run]
  obtain ⟨writes, node, running⟩ := c.dispatch line node
  rcases running with _ | ⟨command, w | k⟩
  · simp [Serving.remaining, place, Console.output]
  · simp only [Serving.remaining, place, Script.patient, Console.output_append]
    rfl
  · simp only [Serving.remaining, place, Script.patient, Bool.false_eq_true, if_false,
      Console.output_append]
    rfl

/-- A command that is told once more that it is not cancelled goes on and asks again. -/
theorem remaining_asking (n : Nat) (command : String) (w : Wait) (node : Node) :
    Serving.remaining c (n + 1) (.asking command w) node =
      Serving.remaining c n
        (.writing (Write.allChunks (c.proceed w node).1) (.sleeping command (c.proceed w node).2.2))
        (c.proceed w node).2.1 := by
  simp only [Serving.remaining, List.replicate_succ, Console.poll, Bool.false_eq_true, if_false,
    Console.output_append]
  rfl

/-- A step that receives nothing leaves the inputs to come as they are. -/
theorem upcoming_eq (hi : Orderly input s) (ht : Orderly input t) (hr : t.received = s.received) :
    t.upcoming = s.upcoming := by
  have ha := ht.account
  rw [hr, ← hi.account] at ha
  exact List.append_cancel_left ha

/-- Bytes only go from where they are to come to where they are taken. -/
theorem future_eq {n m : Nat} {ps : List (Nat × String)} (hi : Orderly input s)
    (ht : Orderly input t) (hr : t.received = s.received)
    (hb : t.outbox.taken ++ (t.serving.remaining c n t.node).1 =
      s.outbox.taken ++ (s.serving.remaining c m s.node).1)
    (hn : (t.serving.remaining c n t.node).2 = (s.serving.remaining c m s.node).2) :
    s.future c m ps = t.future c n ps := by
  simp only [future, upcoming_eq hi ht hr, hn, ← List.append_assoc, hb]

theorem future_receive {i : Input} {rest : List Input} (hi : Orderly input s)
    (hs : s.serving = .idle) (hc : s.channel = i :: rest) (n : Nat) {ps : List (Nat × String)}
    (hp : ps.map (·.2) = lines (s.receive c i rest).upcoming) :
    ∃ m qs, qs.map (·.2) = lines s.upcoming ∧
      s.future c m qs = (s.receive c i rest).future c n ps := by
  have ht : Orderly input (s.receive c i rest) := hi.receive hs hc
  cases i with
  | line line =>
    have hu : s.upcoming = .line line :: (s.receive c (.line line) rest).upcoming := by
      simp [upcoming, hc, State.receive, settle]
    have hr : (s.receive c (.line line) rest).serving.remaining c n
        (s.receive c (.line line) rest).node = _ := remaining_dispatch n line s.node
    have hf : farewell s.upcoming = farewell (s.receive c (.line line) rest).upcoming := by
      simp [farewell, hu]
    refine ⟨0, (n, line) :: ps, ?_, ?_⟩
    · rw [hu, List.map_cons, hp]
      rfl
    · rw [future, future, hr, hf, hs]
      simp only [Serving.remaining, Console.serve_cons, List.nil_append, List.append_assoc]
      rfl
  | tooLong =>
    have hn : (s.receive c .tooLong rest).upcoming = [] := ht.ended rfl
    have hu : s.upcoming = .tooLong :: (s.receive c .tooLong rest).upcoming := by
      simp [upcoming, hc, State.receive]
    rw [hn] at hp hu
    obtain rfl : ps = [] := List.map_eq_nil_iff.mp hp
    have hc : tooLongLine.chunks.flatten = Text.bytes "Error: command too long\n" := by decide
    have hf : farewell s.upcoming = tooLongLine.chunks.flatten := by
      simp [hu, farewell, hc]
    refine ⟨0, [], by rw [hu]; rfl, ?_⟩
    rw [future, future, hf, hn, hs]
    simp only [Serving.remaining, Console.serve_nil, State.receive, List.nil_append]
    simp [farewell]

theorem future_ask {command : String} {w : Wait} (hi : Orderly input s)
    (hs : s.serving = .asking command w) (ht : Orderly input (s.ask c command w)) (n : Nat)
    (ps : List (Nat × String)) :
    ∃ m, s.future c m ps = (s.ask c command w).future c n ps := by
  by_cases hc : s.cancelled
  · have ha : s.ask c command w = s.settle (Console.conclude command (c.finish w s.node)) :=
      if_pos hc
    have hr := remaining_conclude (c := c) n command (c.finish w s.node)
    refine ⟨0, future_eq hi ht (by rw [ha]; rfl) ?_ ?_⟩
    · simp only [ha, settle, hs, Serving.remaining, hr, List.append_nil]
      rfl
    · simp only [ha, settle, hs, Serving.remaining, hr]
      rfl
  · have ha : s.ask c command w =
        { s with
          node := (c.proceed w s.node).2.1
          serving := .writing (Write.allChunks (c.proceed w s.node).1)
            (.sleeping command (c.proceed w s.node).2.2) } := if_neg hc
    have hr := remaining_asking (c := c) n command w s.node
    refine ⟨n + 1, future_eq hi ht (by rw [ha]) ?_ ?_⟩ <;> rw [ha, hs, hr]

/-- Every future of the state after a step is one of the state before it. -/
theorem future_step (hi : Orderly input s) (h : TaskStep c s t)
    (ho : t.outbox.overflowed = false) (n : Nat) {ps : List (Nat × String)}
    (hp : ps.map (·.2) = lines t.upcoming) :
    ∃ m qs, qs.map (·.2) = lines s.upcoming ∧ s.future c m qs = t.future c n ps := by
  have ht := hi.step h ho
  -- Only a receipt takes from the inputs to come.
  have hu (hr : t.received = s.received) : ps.map (·.2) = lines s.upcoming :=
    hp.trans (congrArg lines (upcoming_eq hi ht hr))
  cases h with
  | reader h =>
    have hf : t.received = s.received ∧ t.serving = s.serving ∧ t.node = s.node ∧
        t.outbox.taken = s.outbox.taken := by
      rcases reader_cases h with ⟨_, _, _, -, -, rfl⟩ | ⟨_, -, -, rfl⟩ | ⟨_, _, -, -, rfl⟩ |
        ⟨_, _, -, -, rfl⟩ | ⟨-, rfl⟩ <;> exact ⟨rfl, rfl, rfl, rfl⟩
    obtain ⟨hr, hs, hn, hb⟩ := hf
    exact ⟨n, ps, hu hr, future_eq hi ht hr (by rw [hs, hn, hb]) (by rw [hs, hn])⟩
  | receive hs hc => exact future_receive hi hs hc n hp
  | hangUp hs hc hr =>
    exact ⟨n, ps, hu rfl, future_eq hi ht rfl (by rw [hs]; rfl) (by rw [hs]; rfl)⟩
  | stop hs hd => simp [hi.shutdown] at hd
  | @offer b bs next hs hb =>
    have hc := (Outbox.calm_change (Outbox.change_offer hb) (by simp) ho hi.calm).2.2
    refine ⟨n, ps, hu rfl, future_eq hi ht rfl ?_ (by rw [hs]; rfl)⟩
    simp [hs, hc, Serving.remaining, Outbox.Move.chunk?]
  | put hb =>
    have hc := (Outbox.calm_change Outbox.change_advance (by simp) ho hi.calm).2.2
    refine ⟨n, ps, hu rfl, future_eq hi ht rfl ?_ rfl⟩
    simp [hc, Outbox.Move.chunk?]
  | written hs hb =>
    refine ⟨n, ps, hu rfl, future_eq hi ht rfl ?_ ?_⟩ <;> simp [hs, Serving.remaining]
  | check hs =>
    refine ⟨n, ps, hu rfl, future_eq hi ht rfl ?_ ?_⟩ <;>
      (simp only [hs, State.check]; split <;> rfl)
  | peek hs =>
    refine ⟨n, ps, hu rfl, future_eq hi ht rfl ?_ ?_⟩ <;>
      (simp only [hs, State.peek]; split <;> rfl)
  | @ask command w hs =>
    obtain ⟨m, hm⟩ := future_ask hi hs ht n ps
    have hr : (s.ask c command w).received = s.received := by
      unfold State.ask
      split <;> rfl
    exact ⟨m, ps, hu hr, hm⟩
  | wake hs =>
    refine ⟨n, ps, hu rfl, future_eq hi ht rfl ?_ ?_⟩ <;> simp [hs, Serving.remaining]
  | @reply command k hs =>
    have hr := remaining_conclude (c := c) n command (c.answer k s.node)
    refine ⟨n, ps, hu rfl, future_eq hi ht rfl ?_ ?_⟩
    · simp only [State.reply, settle, hs, Serving.remaining, hr, List.append_nil]
      rfl
    · simp only [State.reply, settle, hs, Serving.remaining, hr]
  | pick =>
    have hc := (Outbox.calm_change Outbox.change_pick (by simp) ho hi.calm).2.2
    refine ⟨n, ps, hu rfl, future_eq hi ht rfl ?_ rfl⟩
    simp [hc, Outbox.Move.chunk?]
  | deliver =>
    have hc := (Outbox.calm_change Outbox.change_deliver (by simp) ho hi.calm).2.2
    refine ⟨n, ps, hu rfl, future_eq hi ht rfl ?_ rfl⟩
    simp [hc, Outbox.Move.chunk?]
  | abort k hs hv => simp [Outbox.abort, hv] at ho

theorem overflowed_step (h : TaskStep c s t) (ho : s.outbox.overflowed = true) :
    t.outbox.overflowed = true := by
  cases h with
  | reader h =>
    rcases reader_cases h with ⟨_, _, _, -, -, rfl⟩ | ⟨_, -, -, rfl⟩ | ⟨_, _, -, -, rfl⟩ |
      ⟨_, _, -, -, rfl⟩ | ⟨-, rfl⟩ <;> exact ho
  | @receive i => cases i <;> exact ho
  | offer _ hp => exact Outbox.overflowed_change (Outbox.change_offer hp) ho
  | put => exact Outbox.overflowed_change Outbox.change_advance ho
  | ask =>
    unfold State.ask
    split <;> exact ho
  | pick => exact Outbox.overflowed_change Outbox.change_pick ho
  | deliver => exact Outbox.overflowed_change Outbox.change_deliver ho
  | hangUp | stop | written | check | peek | wake | reply | abort => exact ho

theorem overflowed_run (h : Relation.ReflTransGen (TaskStep c) s t)
    (ho : t.outbox.overflowed = false) : s.outbox.overflowed = false := by
  induction h using Relation.ReflTransGen.head_induction_on with
  | refl => exact ho
  | @head s u h _ ih =>
    by_contra hs
    have hu := overflowed_step h (by simpa using hs)
    simp [ih] at hu

theorem orderly_run (h : Relation.ReflTransGen (TaskStep c) s t) (hi : Orderly input s)
    (ho : t.outbox.overflowed = false) : Orderly input t := by
  induction h with
  | refl => exact hi
  | @tail u t hu h ih => exact (ih (overflowed_run (.single h) ho)).step h ho

theorem future_run (h : Relation.ReflTransGen (TaskStep c) s t) (hi : Orderly input s)
    (ho : t.outbox.overflowed = false) (n : Nat) {ps : List (Nat × String)}
    (hp : ps.map (·.2) = lines t.upcoming) :
    ∃ m qs, qs.map (·.2) = lines s.upcoming ∧ s.future c m qs = t.future c n ps := by
  -- Backwards: how often commands are told to go on is known only once they are done.
  induction h using Relation.ReflTransGen.head_induction_on with
  | refl => exact ⟨n, ps, hp, rfl⟩
  | @head s u h hu ih =>
    have ho := overflowed_run hu ho
    obtain ⟨m, qs, hq, he⟩ := ih (hi.step h ho)
    obtain ⟨k, rs, hr, hf⟩ := future_step hi h ho m hq
    exact ⟨k, rs, hr, hf.trans he⟩

/-- Once all is sent, nothing is still to come. -/
theorem future_ended (hi : Orderly input t) (hs : t.serving = .ended) (hf : t.outbox.flight = none)
    (hq : t.outbox.queue = []) :
    t.upcoming = [] ∧ t.future c 0 [] = (t.outbox.delivered, t.node) := by
  have hu : t.upcoming = [] := hi.ended (by rw [hs]; rfl)
  have hp : t.outbox.put = .idle := hi.put_idle (by simp [hs])
  refine ⟨hu, ?_⟩
  simp [future, hs, hu, Serving.remaining, Console.serve_nil, farewell, Outbox.taken, Outbox.stream,
    Put.chunk?, hp, hf, hq]

end State

/-- A session that has ended and refused no output has dispatched every input, in order, and done
what its console does. -/
theorem session_refines_console {node : Node}
    (h : Relation.ReflTransGen (State.TaskStep c) (start input true node) t)
    (hs : t.serving = .ended) (hf : t.outbox.flight = none) (hq : t.outbox.queue = [])
    (ho : t.outbox.overflowed = false) :
    t.received.reverse = inputs input ∧
      (∀ is js, inputs input = is ++ .tooLong :: js → js = []) ∧
      (∃ ps, ps.map (·.2) = lines (inputs input) ∧
        (t.outbox.delivered, t.node) =
          ((c.serve ps node).1 ++ farewell (inputs input), (c.serve ps node).2)) ∧
      (c.Steady → ∀ ps, ps.map (·.2) = lines (inputs input) →
        t.outbox.delivered = (c.serve ps node).1 ++ farewell (inputs input)) := by
  have hi : State.Orderly input (start input true node : State Wait Call) :=
    State.orderly_start input node
  have ht := State.orderly_run h hi ho
  obtain ⟨hu, he⟩ := State.future_ended (c := c) ht hs hf hq
  have hl : ([] : List (Nat × String)).map (·.2) = lines t.upcoming := by rw [hu]; rfl
  obtain ⟨m, ps, hp, hfu⟩ := State.future_run h hi ho 0 hl
  have hn : (start input true node : State Wait Call).upcoming = inputs input := rfl
  have hd : (t.outbox.delivered, t.node) =
      ((c.serve ps node).1 ++ farewell (inputs input), (c.serve ps node).2) := by
    rw [← he, ← hfu]
    rfl
  refine ⟨?_, fun is js => nothing_after_tooLong, ⟨ps, hp, hd⟩, fun hc qs hq => ?_⟩
  · simpa [hu] using ht.account
  · rw [hc qs ps node (hq.trans hp.symm)]
    exact (Prod.mk.inj hd).1

/-- A session whose peer sends the line `echo a` and then one that is too long. -/
def overlong (reader : Reader) (channel : List Input)
    (serving : Serving Commands.Tail Commands.Call) (outbox : Outbox) (received : List Input) :
    State Commands.Tail Commands.Call :=
  { reader, channel, serving, node := { log := { capacity := 0 } }, outbox, received }

theorem State.readerMove_reading {bs rest : Bytes} {i : Input} (hr : s.reader = .reading bs)
    (hn : next? s.peerEnded bs = some (i, rest)) :
    s.readerMove? = some { s with reader := .handing i rest } := by
  simp [readerMove?, hr, hn]

/-- The dispatcher can put a chunk with all moves before any other task moves. -/
theorem State.write_run {b : Bytes} {bs : List Bytes} {next : Serving Wait Call}
    (hs : s.serving = .writing (b :: bs) next) (hp : s.outbox.put = .idle) :
    Relation.ReflTransGen (TaskStep c) s
      { s with serving := .writing bs next, outbox := s.outbox.write b } := by
  have hadvance (u : State Wait Call) :
      Relation.ReflTransGen (TaskStep c) u { u with outbox := u.outbox.advance } := by
    by_cases hu : u.outbox.put = .idle
    · have ha : u.outbox.advance = u.outbox := by simp [Outbox.advance, hu]
      rw [ha]
    · exact .single (.put hu)
  exact .head (.offer hs hp) ((hadvance _).trans ((hadvance _).trans (hadvance _)))

/-- The session is closed, with the second line in the channel, before the first one is done. -/
theorem overlong_run {u : Bytes} (hu : 10 ∉ u) (hl : 65536 < u.length) :
    Relation.ReflTransGen (State.TaskStep (Commands.console 0 .silent))
      (start ([101, 99, 104, 111, 32, 97] ++ 10 :: u) true { log := { capacity := 0 } })
      (overlong .ended [] .ended
        { closed := true, sent := [[10], Text.bytes "Error: command too long", [10], [97]] }
        [.tooLong, .line "echo a"]) := by
  have hfirst : next? true ([101, 99, 104, 111, 32, 97] ++ 10 :: u) = some (.line "echo a", u) :=
    next_whole (by decide) (by decide) u
  have hsecond : next? true u = some (.tooLong, []) := by
    have h := next_overlong hu hl []
    rwa [List.append_nil] at h
  refine .head (.reader (State.readerMove_reading rfl hfirst)) (.head (.reader rfl) ?_)
  refine .head (.reader (State.readerMove_reading rfl hsecond)) (.head (.reader rfl) ?_)
  refine .head (.reader rfl) (.head (.receive rfl rfl) ?_)
  change Relation.ReflTransGen _ (overlong .ended [.tooLong] (.writing [[97], [10]] .checking)
    { closed := true } [.line "echo a"]) _
  refine (State.write_run rfl rfl).trans ((State.write_run rfl rfl).trans ?_)
  refine .head (.written rfl rfl) (.head (.check rfl) (.head (.peek rfl) ?_))
  refine .head .pick (.head .deliver (.head .pick (.head .deliver (.head (.receive rfl rfl) ?_))))
  change Relation.ReflTransGen _
    (overlong .ended [] (.writing [Text.bytes "Error: command too long", [10]] .ended)
      { closed := true, sent := [[10], [97]] } [.tooLong, .line "echo a"]) _
  refine (State.write_run rfl rfl).trans ((State.write_run rfl rfl).trans ?_)
  refine .head (.written rfl rfl) ?_
  exact .head .pick (.head .deliver (.head .pick (.head .deliver .refl)))

/-- A command, and behind it a line of one byte more than a line may have. -/
theorem session_refines_console_overlong :
    let input : Bytes := [101, 99, 104, 111, 32, 97] ++ 10 :: List.replicate 65537 120
    ∃ t : State Commands.Tail Commands.Call,
      Relation.ReflTransGen (State.TaskStep (Commands.console 0 .silent))
          (start input true { log := { capacity := 0 } }) t ∧
        t.serving = .ended ∧ t.outbox.flight = none ∧ t.outbox.queue = [] ∧
        t.outbox.overflowed = false ∧
        t.received.reverse = inputs input ∧ inputs input = [.line "echo a", .tooLong] ∧
        (∀ is js, inputs input = is ++ .tooLong :: js → js = []) ∧
        t.outbox.delivered = Text.bytes "a\nError: command too long\n" ∧
        ∀ ps, ps.map (·.2) = lines (inputs input) →
          t.outbox.delivered =
            ((Commands.console 0 .silent).serve ps { log := { capacity := 0 } }).1 ++
              Text.bytes "Error: command too long\n" := by
  intro input
  have hu : (10 : UInt8) ∉ List.replicate 65537 120 := fun h =>
    absurd (List.eq_of_mem_replicate h) (by decide)
  have hl : 65536 < (List.replicate 65537 (120 : UInt8)).length := by
    rw [List.length_replicate]
    decide
  have hrun := overlong_run hu hl
  obtain ⟨hr, hlast, -, hbytes⟩ := session_refines_console hrun rfl rfl rfl rfl
  have hi : inputs input = [.line "echo a", .tooLong] := hr.symm
  refine ⟨_, hrun, rfl, rfl, rfl, rfl, hr, hi, hlast, by decide, fun ps hp => ?_⟩
  have hf : farewell (inputs input) = Text.bytes "Error: command too long\n" :=
    if_pos (hi ▸ List.mem_cons_of_mem _ List.mem_cons_self)
  rw [hbytes (Commands.steady_console _ _) ps hp, hf]

end NodeConsole.Session
