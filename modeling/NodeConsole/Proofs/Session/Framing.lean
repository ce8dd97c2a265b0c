import Mathlib.Data.List.Induction
import Mathlib.Logic.Relation
import NodeConsole.Proofs.Console.Handlers
import NodeConsole.Proofs.Session.Handover

/-! The inputs of a session, read off its input as a whole. -/
namespace NodeConsole.Session
open Text (Bytes)

/-- What stands between the newlines. Behind the last one there is no segment if nothing stands
there. -/
def segments (s : Bytes) : List Bytes :=
  let ws := s.splitOn 10
  if ws.getLast? = some [] then ws.dropLast else ws

/-- A segment as a line: at most one carriage return is taken off its end. -/
def lineOf (w : Bytes) : String :=
  String.ofList (Text.decode (if w.getLast? = some 13 then w.dropLast else w))

/-- The inputs for some segments, up to the first one that is too long. -/
def framed : List Bytes → List Input
  | [] => []
  | w :: ws => if w.length ≤ 65536 then .line (lineOf w) :: framed ws else [.tooLong]

variable {a w s rest : Bytes} {n : Nat}
  {Wait Call : Type} {c : Console Wait Call} {input : Bytes}

theorem cut_whole (ha : 10 ∉ a) (hn : a.length < n) :
    cut n w (a ++ 10 :: s) = .whole (a.reverse ++ w) s := by
  induction a generalizing n w with
  | nil =>
    obtain ⟨n, rfl⟩ := Nat.exists_eq_succ_of_ne_zero (Nat.ne_of_gt hn)
    rfl
  | cons b a ih =>
    obtain ⟨hb, ha⟩ : 10 ≠ b ∧ 10 ∉ a := by simpa using ha
    obtain ⟨n, rfl⟩ := Nat.exists_eq_succ_of_ne_zero (Nat.ne_of_gt (Nat.zero_lt_of_lt hn))
    rw [List.cons_append, cut, if_neg hb.symm, ih ha (Nat.lt_of_succ_lt_succ hn)]
    simp

theorem cut_part (ha : 10 ∉ a) (hn : a.length < n) : cut n w a = .part (a.reverse ++ w) := by
  induction a generalizing n w with
  | nil =>
    obtain ⟨n, rfl⟩ := Nat.exists_eq_succ_of_ne_zero (Nat.ne_of_gt hn)
    rfl
  | cons b a ih =>
    obtain ⟨hb, ha⟩ : 10 ≠ b ∧ 10 ∉ a := by simpa using ha
    obtain ⟨n, rfl⟩ := Nat.exists_eq_succ_of_ne_zero (Nat.ne_of_gt (Nat.zero_lt_of_lt hn))
    rw [cut, if_neg hb.symm, ih ha (Nat.lt_of_succ_lt_succ hn)]
    simp

theorem cut_overlong (ha : 10 ∉ a) (hn : n ≤ a.length) : cut n w (a ++ s) = .overlong := by
  induction a generalizing n w with
  | nil =>
    obtain rfl : n = 0 := Nat.le_zero.mp hn
    rfl
  | cons b a ih =>
    obtain ⟨hb, ha⟩ : 10 ≠ b ∧ 10 ∉ a := by simpa using ha
    cases n with
    | zero => rfl
    | succ n => rw [List.cons_append, cut, if_neg hb.symm, ih ha (Nat.le_of_succ_le_succ hn)]

theorem decodeLine_reverse (w : Bytes) : decodeLine w.reverse = lineOf w := by
  induction w using List.reverseRecOn with
  | nil => rfl
  | append_singleton w b _ =>
    rw [List.reverse_append, List.reverse_singleton, List.singleton_append]
    by_cases hb : b = 13
    · subst hb
      simp [decodeLine, lineOf]
    · rw [decodeLine]
      · simp [lineOf, hb]
      · exact fun _ h => hb (List.cons.inj h).1

theorem segments_nil : segments [] = [] := by
  simp [segments]

theorem segments_cons (ha : 10 ∉ a) (s : Bytes) : segments (a ++ 10 :: s) = a :: segments s := by
  have hs : (a ++ 10 :: s).splitOn 10 = a :: s.splitOn 10 := by
    rw [List.splitOn_append_cons_self, List.splitOn_eq_singleton ha, List.singleton_append]
  have hne : s.splitOn 10 ≠ [] := List.splitOn_ne_nil 10 s
  rw [segments, hs, segments, List.getLast?_cons_of_ne_nil hne, List.dropLast_cons_of_ne_nil hne]
  split <;> rfl

theorem segments_last (ha : 10 ∉ a) (hn : a ≠ []) : segments a = [a] := by
  simp [segments, List.splitOn_eq_singleton ha, hn]

theorem next_whole (ha : 10 ∉ a) (hn : a.length ≤ 65536) (s : Bytes) :
    next? true (a ++ 10 :: s) = some (.line (lineOf a), s) := by
  have hn : a.length < maxLine + 1 := Nat.lt_succ_of_le hn
  rw [next?, cut_whole ha hn, List.append_nil, ← decodeLine_reverse]

theorem next_part (ha : 10 ∉ a) (hn : a.length ≤ 65536) (he : a ≠ []) :
    next? true a = some (.line (lineOf a), []) := by
  have hn : a.length < maxLine + 1 := Nat.lt_succ_of_le hn
  rw [next?, cut_part ha hn, List.append_nil, ← decodeLine_reverse]
  simp [he]

theorem next_overlong (ha : 10 ∉ a) (hn : 65536 < a.length) (s : Bytes) :
    next? true (a ++ s) = some (.tooLong, []) := by
  have hn : maxLine + 1 ≤ a.length := hn
  rw [next?, cut_overlong ha hn]

/-- One bounded read after another finds the segments, as each takes its own and nothing more. -/
theorem inputs_eq_framed (s : Bytes) : inputs s = framed (segments s) := by
  by_cases hs : 10 ∈ s
  · obtain ⟨a, rest, he, ha⟩ := List.eq_append_cons_of_mem hs
    rw [he, segments_cons ha, framed]
    by_cases hn : a.length ≤ 65536
    · rw [inputs_of_some (next_whole ha hn rest), if_pos hn, inputs_eq_framed rest]
    · rw [inputs_of_some (next_overlong ha (Nat.lt_of_not_le hn) _), if_neg hn, inputs_nil]
  · by_cases he : s = []
    · subst he
      rw [inputs_nil, segments_nil, framed]
    · rw [segments_last hs he, framed, framed]
      by_cases hn : s.length ≤ 65536
      · rw [inputs_of_some (next_part hs hn he), if_pos hn, inputs_nil]
      · have hl := next_overlong hs (Nat.lt_of_not_le hn) []
        rw [List.append_nil] at hl
        rw [inputs_of_some hl, if_neg hn, inputs_nil]
termination_by s.length
decreasing_by
  rw [he, List.length_append, List.length_cons]
  omega

namespace Outbox

variable {o p : Outbox} {m : Move}

/-- A session that the outbox closes has lost output or its writer. -/
theorem closed_of_change (h : Change o m p) (hs : Sound o) (hc : p.closed = true) :
    o.closed = true ∨ p.overflowed = true ∨ p.writerEnded = true := by
  cases h with
  | skip | accept | count | queue | full | late | pick | deliver | abort | rest => exact .inl hc
  | overfull | overflow => exact .inr (.inl rfl)
  | close hp => exact .inr (.inr (hs.late_ended _ hp))
  | fail => exact .inr (.inr rfl)

end Outbox

namespace State

variable {s t : State Wait Call}

/-- The inputs that the reader has handed over. -/
def handed (s : State Wait Call) : List Input := s.received.reverse ++ s.channel

/-- Only a move of the reader changes where it stands and what it has handed over. -/
theorem reader_or_frame (hs : s.outbox.Sound) (h : Step c s t) :
    s.readerMove? = some t ∨
      (t.reader = s.reader ∧ t.peerEnded = s.peerEnded ∧ t.handed = s.handed ∧
        (s.serving = .ended → t.serving = .ended) ∧ ∃ m, Outbox.Change s.outbox m t.outbox) := by
  have hrest : ∃ m, Outbox.Change s.outbox m s.outbox := ⟨.pick, .rest rfl nofun⟩
  cases h with
  | task h =>
    cases h with
    | reader h => exact .inl h
    | @receive i rest hs hc =>
      have hh : (i :: s.received).reverse ++ rest = s.handed := by simp [handed, hc]
      cases i <;> exact .inr ⟨rfl, rfl, hh, by simp [hs], hrest⟩
    | hangUp hs => exact .inr ⟨rfl, rfl, rfl, fun _ => rfl, hrest⟩
    | stop hs => exact .inr ⟨rfl, rfl, rfl, fun _ => rfl, hrest⟩
    | offer hs hp => exact .inr ⟨rfl, rfl, rfl, by simp [hs], _, Outbox.change_offer hp⟩
    | put => exact .inr ⟨rfl, rfl, rfl, id, _, Outbox.change_advance⟩
    | written hs => exact .inr ⟨rfl, rfl, rfl, by simp [hs], hrest⟩
    | check hs => exact .inr ⟨rfl, rfl, rfl, by simp [hs], hrest⟩
    | peek hs => exact .inr ⟨rfl, rfl, rfl, by simp [hs], hrest⟩
    | ask hs =>
      unfold State.ask
      split <;> exact .inr ⟨rfl, rfl, rfl, by simp [hs], hrest⟩
    | wake hs => exact .inr ⟨rfl, rfl, rfl, by simp [hs], hrest⟩
    | reply hs => exact .inr ⟨rfl, rfl, rfl, by simp [hs], hrest⟩
    | pick => exact .inr ⟨rfl, rfl, rfl, id, _, Outbox.change_pick⟩
    | deliver => exact .inr ⟨rfl, rfl, rfl, id, _, Outbox.change_deliver⟩
    | abort k _ ho => exact .inr ⟨rfl, rfl, rfl, id, _, .abort (hs.overflowed_idle ho) ho⟩
  | fail k => exact .inr ⟨rfl, rfl, rfl, id, _, Outbox.change_fail⟩
  | shut => exact .inr ⟨rfl, rfl, rfl, id, hrest⟩
  | arrive r => exact .inr ⟨rfl, rfl, rfl, id, hrest⟩

/-- What holds of the inputs at every moment of a session. -/
structure Relayed (input : Bytes) (s : State Wait Call) : Prop where
  peerEnded : s.peerEnded = true
  sound : s.outbox.Sound
  front : s.handed <+: inputs input
  /-- The reader gives up what it has only if nobody is there to take it. -/
  account : s.handed ++ s.reader.ahead = inputs input ∨
    (s.serving = .ended ∧ (s.reader = .closing ∨ s.reader = .ended))
  closed : s.outbox.closed = true →
    s.reader = .ended ∨ s.outbox.overflowed = true ∨ s.outbox.writerEnded = true

theorem relayed_start (input : Bytes) (node : Node) :
    Relayed input (start input true node : State Wait Call) :=
  ⟨rfl, Outbox.sound_empty, List.nil_prefix, .inl rfl, nofun⟩

namespace Relayed

/-- The reader goes on, and what it has still to hand over shrinks by what it hands over. -/
theorem read {channel : List Input} {r : Reader} (hi : Relayed input s) (hr : s.reader ≠ .closing)
    (hn : s.reader ≠ .ended) (hu : channel ++ r.ahead = s.channel ++ s.reader.ahead) :
    Relayed input { s with channel, reader := r } := by
  have ha : s.handed ++ s.reader.ahead = inputs input :=
    hi.account.resolve_right fun h => h.2.elim hr hn
  have ht : (s.received.reverse ++ channel) ++ r.ahead = inputs input := by
    rw [← ha, handed, List.append_assoc, List.append_assoc, hu]
  exact ⟨hi.peerEnded, hi.sound, ⟨_, ht⟩, .inl ht, fun hc => .inr ((hi.closed hc).resolve_left hn)⟩

theorem reader (hi : Relayed input s) (h : s.readerMove? = some t) : Relayed input t := by
  rcases reader_cases h with ⟨bs, i, rest, hr, hn, rfl⟩ | ⟨bs, hr, hn, rfl⟩ |
    ⟨i, rest, hr, hs, rfl⟩ | ⟨i, rest, hr, hl, rfl⟩ | ⟨hr, rfl⟩
  · rw [hi.peerEnded] at hn
    apply hi.read (by simp [hr]) (by simp [hr])
    simp [Reader.ahead, hr, inputs_of_some hn]
  · rw [hi.peerEnded] at hn
    apply hi.read (by simp [hr]) (by simp [hr])
    simp [Reader.ahead, hr, inputs_of_none hn]
  · refine ⟨hi.peerEnded, hi.sound, hi.front, .inr ⟨hs, .inl rfl⟩, fun hc => ?_⟩
    exact .inr ((hi.closed hc).resolve_left (by simp [hr]))
  · apply hi.read (by simp [hr]) (by simp [hr])
    by_cases ht : i = .tooLong
    · subst ht
      have hn : inputs rest = [] := by
        have ha := hi.account.resolve_right (by simp [hr])
        rw [hr, Reader.ahead] at ha
        exact nothing_after_tooLong ha.symm
      simp [Reader.ahead, hr, hn]
    · simp [Reader.ahead, hr, ht]
  · obtain ⟨hp, hs, hh, ha, -⟩ := hi
    refine ⟨hp, ⟨fun _ => rfl, hs.overflowed_idle, fun _ => rfl, hs.ended_empty, hs.late_ended,
      hs.tally_le, hs.pending_eq⟩, hh, ?_, fun _ => .inl rfl⟩
    rcases ha with ha | ⟨he, -⟩
    · rw [hr] at ha
      exact .inl ha
    · exact .inr ⟨he, .inr rfl⟩

theorem step (hi : Relayed input s) (h : Step c s t) : Relayed input t := by
  rcases reader_or_frame hi.sound h with h | ⟨hr, hp, hh, he, m, hm⟩
  · exact hi.reader h
  · refine ⟨hp.trans hi.peerEnded, Outbox.sound_change hm hi.sound, hh ▸ hi.front, ?_, ?_⟩
    · rw [hh, hr]
      exact hi.account.imp_right fun h => ⟨he h.1, h.2⟩
    · intro hc
      rw [hr]
      rcases Outbox.closed_of_change hm hi.sound hc with hc | hc
      · exact (hi.closed hc).imp_right
          (.imp (Outbox.overflowed_change hm) (Outbox.ended_change hm))
      · exact .inr hc

end Relayed

theorem relayed_run (h : Relation.ReflTransGen (Step c) s t) (hi : Relayed input s) :
    Relayed input t := by
  induction h with
  | refl => exact hi
  | tail _ h ih => exact ih.step h

/-- With a place in the channel, the reader can go on until it has closed the session. -/
theorem readerMove_of_room (hp : s.peerEnded = true) (hr : s.reader ≠ .ended)
    (hl : s.channel.length < places) : ∃ t, s.readerMove? = some t := by
  unfold readerMove?
  split
  · split
    · exact ⟨_, rfl⟩
    · exact ⟨_, if_pos hp⟩
  · rw [if_pos hl]
    split <;> exact ⟨_, rfl⟩
  · exact ⟨_, rfl⟩
  · contradiction

end State

/-- In every run the inputs handed over are the first segments, and all of them once the reader has
closed the session. -/
theorem handed_by_segments {node : Node} {s : State Wait Call}
    (h : Relation.ReflTransGen (State.Step c) (start input true node) s) :
    inputs input = framed (segments input) ∧
      s.handed <+: framed (segments input) ∧
      (s.reader ≠ .ended → s.channel.length < 8 → ∃ t, s.readerMove? = some t) ∧
      (s.serving ≠ .ended →
        s.reader = .closing ∨ s.reader = .ended ∨
          (s.outbox.closed = true ∧ s.outbox.overflowed = false ∧ s.outbox.writerEnded = false) →
        s.handed = framed (segments input)) := by
  have hi := State.relayed_run h (State.relayed_start input node)
  rw [← inputs_eq_framed]
  refine ⟨rfl, hi.front, State.readerMove_of_room hi.peerEnded, fun hs hr => ?_⟩
  have ha : s.reader.ahead = [] := by
    rcases hr with hr | hr | ⟨hc, ho, hw⟩
    · rw [hr, Reader.ahead]
    · rw [hr, Reader.ahead]
    · have hr := (hi.closed hc).resolve_right (by simp [ho, hw])
      rw [hr, Reader.ahead]
  simpa [ha] using hi.account.resolve_right fun h => hs h.1

/-- Two lines, the last without a newline, are in the channel when the reader has closed the
session. -/
theorem handed_by_segments_two :
    ∃ t : State Commands.Tail Commands.Call,
      Relation.ReflTransGen (State.Step (Commands.console 0 .silent))
          (start [97, 13, 10, 98] true { log := { capacity := 0 } }) t ∧
        t.outbox.closed = true ∧ t.handed = framed (segments [97, 13, 10, 98]) ∧
        t.channel = [.line "a", .line "b"] := by
  have h₀ : Relation.ReflTransGen (State.Step (Commands.console 0 .silent))
      (start [97, 13, 10, 98] true { log := { capacity := 0 } }) _ :=
    .single (.task (.reader rfl))
  have h₁ := ((h₀.tail (.task (.reader rfl))).tail (.task (.reader rfl))).tail
    (.task (.reader rfl))
  have h₂ := (h₁.tail (.task (.reader rfl))).tail (.task (.reader rfl))
  exact ⟨_, h₂, rfl, (handed_by_segments h₂).2.2.2 nofun (.inr (.inl rfl)), rfl⟩

end NodeConsole.Session
