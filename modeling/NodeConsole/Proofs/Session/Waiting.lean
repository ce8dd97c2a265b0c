import NodeConsole.Proofs.Session.Framing
import NodeConsole.Session.Schedule

/-! Commands that wait for the end of the input. -/
namespace NodeConsole.Session
open Text (Bytes)

variable {Wait Call : Type} {c : Console Wait Call} {input : Bytes}

namespace State

variable {s t : State Wait Call}

/-- The server goes on, no output has been refused, and all could be written. -/
structure Undisturbed (s : State Wait Call) : Prop where
  shutdown : s.shutdown = false
  overflowed : s.outbox.overflowed = false
  writerEnded : s.outbox.writerEnded = false

/-- A command is under way that goes on until it is told that it is cancelled. -/
def Waits (s : State Wait Call) : Prop :=
  ∃ command w, s.serving.after = .asking command w ∨ s.serving.after = .sleeping command w

structure Bounded (s : State Wait Call) : Prop where
  channel_le : s.channel.length ≤ places
  closed : s.reader = .ended → s.outbox.closed = true

theorem bounded_start (input : Bytes) (node : Node) :
    Bounded (start input true node : State Wait Call) :=
  ⟨Nat.zero_le _, nofun⟩

/-- Only the reader puts anything into the channel, and only where there is a place. -/
theorem channel_le_step (h : Step c s t) (hs : s.channel.length ≤ places) :
    t.channel.length ≤ places := by
  cases h with
  | task h =>
    cases h with
    | reader h =>
      rcases reader_cases h with ⟨_, _, _, -, -, rfl⟩ | ⟨_, -, -, rfl⟩ | ⟨_, _, -, -, rfl⟩ |
        ⟨i, _, -, hl, rfl⟩ | ⟨-, rfl⟩
      · exact hs
      · exact hs
      · exact hs
      · have hn : (s.channel ++ [i]).length = s.channel.length + 1 := List.length_append
        exact hn ▸ Nat.succ_le_of_lt hl
      · exact hs
    | @receive i rest _ hc =>
      have hn : rest.length ≤ places := by
        rw [hc, List.length_cons] at hs
        omega
      cases i <;> exact hn
    | ask =>
      unfold State.ask
      split <;> exact hs
    | hangUp | stop | offer | put | written | check | peek | wake | reply | pick | deliver
    | abort => exact hs
  | fail | shut | arrive => exact hs

theorem closed_step (h : Step c s t) (hr : s.outbox.Sound) (hs : Bounded s)
    (ht : t.reader = .ended) : t.outbox.closed = true := by
  rcases reader_or_frame hr h with h | ⟨he, -, -, -, m, hm⟩
  · rcases reader_cases h with ⟨_, _, _, -, -, rfl⟩ | ⟨_, -, -, rfl⟩ | ⟨_, _, -, -, rfl⟩ |
      ⟨i, _, -, -, rfl⟩ | ⟨-, rfl⟩
    · contradiction
    · contradiction
    · contradiction
    · by_cases hi : i = .tooLong <;> simp [hi] at ht
    · rfl
  · exact Outbox.closed_change hm (hs.closed (he ▸ ht))

theorem bounded_run (h : Relation.ReflTransGen (Step c) s t) (hr : Relayed input s)
    (hs : Bounded s) : Bounded t := by
  induction h with
  | refl => exact hs
  | tail hu h ih =>
    have hr := relayed_run hu hr
    exact ⟨channel_le_step h ih.channel_le, closed_step h hr.sound ih⟩

/-- What has been handed over is the inputs that were received and those in the channel. -/
theorem length_handed (s : State Wait Call) :
    s.handed.length = s.received.length + s.channel.length := by
  rw [handed, List.length_append, List.length_reverse]

/-- A session that has been closed by its reader has no more inputs ahead than there are places. -/
theorem few_of_closed (hr : Relayed input s) (hb : Bounded s) (hu : s.Undisturbed)
    (hs : s.serving ≠ .ended) (hc : s.outbox.closed = true) :
    (inputs input).length ≤ s.received.length + places := by
  have he : s.reader = .ended :=
    (hr.closed hc).resolve_right (by simp [hu.overflowed, hu.writerEnded])
  have ha : s.handed ++ s.reader.ahead = inputs input :=
    hr.account.resolve_right fun h => hs h.1
  have hn : s.handed = inputs input := by
    rw [he, Reader.ahead, List.append_nil] at ha
    exact ha
  have hl := length_handed s
  have hp := hb.channel_le
  rw [← hn]
  omega

/-- A reader that cannot go on has closed the session, or has an input for which there is no
place. -/
theorem reader_rests (hp : s.peerEnded = true) (hm : s.readerMove? = none) :
    s.reader = .ended ∨ ∃ i rest, s.reader = .handing i rest ∧ places ≤ s.channel.length := by
  by_cases he : s.reader = .ended
  · exact .inl he
  · have hl : places ≤ s.channel.length := by
      by_contra hl
      obtain ⟨t, ht⟩ := readerMove_of_room hp he (Nat.lt_of_not_le hl)
      rw [hm] at ht
      contradiction
    cases hr : s.reader with
    | reading bs =>
      cases hn : next? true bs <;> simp [readerMove?, hr, hp, hn] at hm
    | handing i rest => exact .inr ⟨i, rest, rfl, hl⟩
    | closing => simp [readerMove?, hr] at hm
    | ended => exact absurd hr he

theorem closed_of_few (hr : Relayed input s) (hb : Bounded s) (hs : s.serving ≠ .ended)
    (hm : s.readerMove? = none) (hf : (inputs input).length ≤ s.received.length + places) :
    s.outbox.closed = true := by
  rcases reader_rests hr.peerEnded hm with he | ⟨i, rest, hi, hl⟩
  · exact hb.closed he
  · have ha : s.handed ++ s.reader.ahead = inputs input :=
      hr.account.resolve_right fun h => hs h.1
    have hn : (inputs input).length = s.handed.length + (inputs rest).length + 1 := by
      rw [← ha, hi, Reader.ahead, List.length_append, List.length_cons]
      omega
    have hh := length_handed s
    omega

theorem undisturbed_of_step (h : Step c s t) (ht : t.Undisturbed) (hr : s.outbox.Sound) :
    s.Undisturbed := by
  have hsd : s.shutdown = false := by
    cases h with
    | task h =>
      cases h with
      | reader h =>
        rcases reader_cases h with ⟨_, _, _, -, -, rfl⟩ | ⟨_, -, -, rfl⟩ | ⟨_, _, -, -, rfl⟩ |
          ⟨_, _, -, -, rfl⟩ | ⟨-, rfl⟩ <;> exact ht.shutdown
      | @receive i => cases i <;> exact ht.shutdown
      | ask =>
        have hd := ht.shutdown
        unfold State.ask at hd
        split at hd <;> exact hd
      | hangUp | stop | offer | put | written | check | peek | wake | reply | pick | deliver
      | abort => exact ht.shutdown
    | fail | arrive => exact ht.shutdown
    | shut => exact absurd ht.shutdown Bool.true_eq_false.mp
  rcases reader_or_frame hr h with h | ⟨-, -, -, -, m, hm⟩
  · have ho : t.outbox.overflowed = s.outbox.overflowed ∧
        t.outbox.writerEnded = s.outbox.writerEnded := by
      rcases reader_cases h with ⟨_, _, _, -, -, rfl⟩ | ⟨_, -, -, rfl⟩ | ⟨_, _, -, -, rfl⟩ |
        ⟨_, _, -, -, rfl⟩ | ⟨-, rfl⟩ <;> exact ⟨rfl, rfl⟩
    exact ⟨hsd, ho.1 ▸ ht.overflowed, ho.2 ▸ ht.writerEnded⟩
  · refine ⟨hsd, ?_, ?_⟩
    · by_contra ho
      have hn := Outbox.overflowed_change hm (by simpa using ho)
      simp [ht.overflowed] at hn
    · by_contra hw
      have hn := Outbox.ended_change hm (by simpa using hw)
      simp [ht.writerEnded] at hn

/-- A command that waits goes on waiting until it is cancelled, and nothing is received
meanwhile. -/
theorem waits_step (h : Step c s t) (hw : s.Waits) (hc : s.cancelled = false) :
    t.Waits ∧ t.received = s.received := by
  have hw' := hw
  obtain ⟨command, w, ha⟩ := hw'
  cases h with
  | task h =>
    cases h with
    | reader h =>
      rcases reader_cases h with ⟨_, _, _, -, -, rfl⟩ | ⟨_, -, -, rfl⟩ | ⟨_, _, -, -, rfl⟩ |
        ⟨_, _, -, -, rfl⟩ | ⟨-, rfl⟩ <;> exact ⟨hw, rfl⟩
    | receive hs | hangUp hs | stop hs | check hs | peek hs | reply hs | abort _ hs =>
      rw [hs] at ha
      rcases ha with ha | ha <;> contradiction
    | offer hs | written hs =>
      rw [hs] at ha
      exact ⟨⟨command, w, ha⟩, rfl⟩
    | put | pick | deliver => exact ⟨hw, rfl⟩
    | @ask command w hs =>
      unfold State.ask
      rw [if_neg (by simp [hc])]
      exact ⟨⟨command, (c.proceed w s.node).2.2, .inr rfl⟩, rfl⟩
    | @wake command w hs => exact ⟨⟨command, w, .inl rfl⟩, rfl⟩
  | fail | shut | arrive => exact ⟨hw, rfl⟩

theorem Waits.not_ended (hw : s.Waits) : s.serving ≠ .ended := by
  intro hs
  obtain ⟨command, w, ha | ha⟩ := hw <;> simp [hs, Serving.after] at ha

/-- With more inputs ahead than there are places, a command that waits is never cancelled. -/
theorem waits_run (h : Relation.ReflTransGen (Step c) s t) (hr : Relayed input s) (hb : Bounded s)
    (hw : s.Waits) (hn : s.received.length + places < (inputs input).length)
    (ht : t.Undisturbed) : t.Waits ∧ t.received = s.received ∧ t.outbox.closed = false := by
  have hopen {u : State Wait Call} (hu : Relation.ReflTransGen (Step c) s u) (hd : u.Undisturbed)
      (hw : u.Waits) (he : u.received = s.received) : u.outbox.closed = false := by
    by_contra hc
    have hf := few_of_closed (relayed_run hu hr) (bounded_run hu hr hb) hd hw.not_ended
      (by simpa using hc)
    rw [he] at hf
    omega
  induction h with
  | refl => exact ⟨hw, rfl, hopen .refl ht hw rfl⟩
  | @tail u t hu h ih =>
    have hd : u.Undisturbed := undisturbed_of_step h ht (relayed_run hu hr).sound
    obtain ⟨hwu, heu, hcu⟩ := ih hd
    obtain ⟨hwt, het⟩ := waits_step h hwu (by simp [cancelled, hcu, hd.shutdown])
    have het : t.received = s.received := het.trans heu
    exact ⟨hwt, het, hopen (hu.tail h) ht hwt het⟩

theorem run_exhaust (n : Nat) (s : State Wait Call) :
    Relation.ReflTransGen (Step c) s (exhaust readerMove? n s) := by
  induction n generalizing s with
  | zero => exact .refl
  | succ n ih =>
    unfold exhaust
    cases hm : s.readerMove? with
    | none => exact .refl
    | some t => exact .head (.task (.reader hm)) (ih t)

end State

/-- A stuck reader has closed the session just when the inputs ahead fit into the channel; otherwise
only a shutdown or lost output ends the wait. -/
theorem closed_iff_few_ahead {node : Node} {s : State Wait Call}
    (h : Relation.ReflTransGen (State.Step c) (start input true node) s) (hu : s.Undisturbed)
    (hs : s.serving ≠ .ended) :
    (s.readerMove? = none →
      (s.outbox.closed = true ↔ (inputs input).length ≤ s.received.length + 8)) ∧
      (s.Waits → s.received.length + 8 < (inputs input).length →
        ∀ t, Relation.ReflTransGen (State.Step c) s t → t.Undisturbed →
          t.Waits ∧ t.received = s.received ∧ t.outbox.closed = false) := by
  have hr := State.relayed_run h (State.relayed_start input node)
  have hb := State.bounded_run h (State.relayed_start input node) (State.bounded_start input node)
  refine ⟨fun hm => ⟨?_, ?_⟩, ?_⟩
  · intro hc
    exact State.few_of_closed hr hb hu hs hc
  · intro hf
    exact State.closed_of_few hr hb hs hm hf
  · intro hw hn t ht hd
    exact State.waits_run ht hr hb hw hn hd

/-- A tail that sleeps, in a session that has received nothing but its line. -/
def tailing (rest : Bytes) : State Commands.Tail Commands.Call :=
  { reader := .reading rest
    serving := .sleeping "log" ⟨1⟩
    node := (Node.listen { log := { capacity := 0 } }).2
    received := [.line "log"] }

theorem tailing_reached (rest : Bytes) :
    Relation.ReflTransGen (State.Step (Commands.console 0 .silent))
      (start (108 :: 111 :: 103 :: 10 :: rest) true { log := { capacity := 0 } })
      (tailing rest) := by
  have h₁ : Relation.ReflTransGen (State.Step (Commands.console 0 .silent))
      (start (108 :: 111 :: 103 :: 10 :: rest) true { log := { capacity := 0 } }) _ :=
    .single (.task (.reader rfl))
  have h₂ := (h₁.tail (.task (.reader rfl))).tail (.task (.receive rfl rfl))
  have h₃ := (h₂.tail (.task (.written rfl rfl))).tail (.task (.ask rfl))
  exact h₃.tail (.task (.written rfl rfl))

/-- Eight lines behind a tail fit into the channel, and the end of the input cancels it. -/
theorem closed_iff_few_ahead_eight :
    ∃ t : State Commands.Tail Commands.Call,
      Relation.ReflTransGen (State.Step (Commands.console 0 .silent))
          (start (108 :: 111 :: 103 :: 10 :: List.replicate 8 10) true
            { log := { capacity := 0 } }) t ∧
        t.readerMove? = none ∧ t.serving = .sleeping "log" ⟨1⟩ ∧ t.outbox.closed = true := by
  have h := (tailing_reached (List.replicate 8 10)).trans (State.run_exhaust 18 _)
  have hf : (inputs (108 :: 111 :: 103 :: 10 :: List.replicate 8 10)).length = 9 := by
    rw [inputs_eq_framed]
    rfl
  refine ⟨_, h, rfl, rfl, ?_⟩
  exact ((closed_iff_few_ahead h ⟨rfl, rfl, rfl⟩ nofun).1 rfl).mpr (Nat.le_of_eq hf)

/-- With nine lines behind it, a tail waits for the reader, the reader for a place, and neither goes
on. -/
theorem tail_uncancelled_at_end :
    ∃ t : State Commands.Tail Commands.Call,
      Relation.ReflTransGen (State.Step (Commands.console 0 .silent))
          (start (108 :: 111 :: 103 :: 10 :: List.replicate 9 10) true
            { log := { capacity := 0 } }) t ∧
        t.Undisturbed ∧ t.peerEnded = true ∧ t.reader = .handing (.line "") [] ∧
        t.readerMove? = none ∧ t.serving = .sleeping "log" ⟨1⟩ ∧ t.outbox.closed = false ∧
        ∀ u, Relation.ReflTransGen (State.Step (Commands.console 0 .silent)) t u →
          u.Undisturbed → u.outbox.closed = false := by
  let input : Bytes := 108 :: 111 :: 103 :: 10 :: List.replicate 9 10
  have h := (tailing_reached (List.replicate 9 10)).trans (State.run_exhaust 17 _)
  have hf : (inputs input).length = 10 := by
    rw [inputs_eq_framed]
    rfl
  have hr : State.Relayed input _ := State.relayed_run h (State.relayed_start _ _)
  have hb := State.bounded_run h (State.relayed_start _ _) (State.bounded_start _ _)
  refine ⟨_, h, ⟨rfl, rfl, rfl⟩, rfl, rfl, rfl, rfl, rfl, ?_⟩
  intro u hu hd
  have hn : 1 + State.places < (inputs input).length := hf ▸ Nat.lt_succ_self 9
  exact (State.waits_run hu hr hb ⟨"log", ⟨1⟩, .inr rfl⟩ hn hd).2.2

end NodeConsole.Session
