import NodeConsole.Proofs.Session.Stream
import NodeConsole.Session

/-! From the input of a session to its dispatcher. -/
namespace NodeConsole.Session
open Text (Bytes)

variable {bs rest : Bytes} {i : Input} {is js : List Input}

theorem inputs_of_some (h : next? true bs = some (i, rest)) : inputs bs = i :: inputs rest := by
  rw [inputs]
  split
  · rename_i hn
    rw [h] at hn
    contradiction
  · rename_i j r hn
    obtain ⟨rfl, rfl⟩ : i = j ∧ rest = r := by simpa [h] using hn
    rfl

theorem inputs_of_none (h : next? true bs = none) : inputs bs = [] := by
  rw [inputs]
  split
  · rfl
  · rename_i hn
    rw [h] at hn
    contradiction

theorem inputs_nil : inputs [] = [] := inputs_of_none rfl

theorem rest_of_tooLong (h : next? true bs = some (.tooLong, rest)) : rest = [] := by
  unfold next? at h
  split at h
  · simp at h
  · split at h <;> simp at h
  · simpa using h.symm

theorem nothing_after_tooLong (h : inputs bs = is ++ .tooLong :: js) : js = [] := by
  induction is generalizing bs with
  | nil =>
    cases hn : next? true bs with
    | none => simp [inputs_of_none hn] at h
    | some p =>
      obtain ⟨i, rest⟩ := p
      rw [inputs_of_some hn] at h
      obtain ⟨rfl, rfl⟩ : i = .tooLong ∧ inputs rest = js := by simpa using h
      rw [rest_of_tooLong hn, inputs_nil]
  | cons j is ih =>
    cases hn : next? true bs with
    | none => simp [inputs_of_none hn] at h
    | some p =>
      rw [inputs_of_some hn] at h
      exact ih (List.cons.inj h).2

namespace Outbox

variable {o p : Outbox} {m : Move}

/-- The bytes that have been taken, and those of the chunk that is being put. -/
def taken (o : Outbox) : Bytes := o.stream ++ o.put.chunk?.getD []

theorem put_pick : o.pick.put = o.put := by
  unfold pick
  split <;> rfl

theorem put_deliver : o.deliver.put = o.put := by
  unfold deliver
  split <;> rfl

/-- The writer is there, and no chunk has come too late for it. -/
structure Calm (o : Outbox) : Prop where
  writerEnded : o.writerEnded = false
  in_time : ∀ c, o.put ≠ .rejected c false

theorem calm_change (h : Change o m p) (hm : ∀ k, m ≠ .fail k) (hp : p.overflowed = false)
    (hc : Calm o) : Calm p ∧ p.closed = o.closed ∧ p.taken = o.taken ++ m.chunk?.getD [] := by
  obtain ⟨hw, hl⟩ := hc
  cases h with
  | skip hi hc =>
    have hc : _ = [] := hc.resolve_right (by simp [hp])
    exact ⟨⟨hw, hl⟩, rfl, by simp [Move.chunk?, hc]⟩
  | overfull => simp [Outbox.overflow] at hp
  | accept hi =>
    exact ⟨⟨hw, by simp⟩, rfl, by simp [taken, stream, delivered, Move.chunk?, Put.chunk?, hi]⟩
  | count hi =>
    exact ⟨⟨hw, by simp⟩, rfl, by simp [taken, stream, delivered, Move.chunk?, Put.chunk?, hi]⟩
  | queue hi =>
    exact ⟨⟨hw, by simp⟩, rfl, by simp [taken, stream, delivered, Move.chunk?, Put.chunk?, hi]⟩
  | full hi =>
    exact ⟨⟨hw, by simp⟩, rfl, by simp [taken, stream, delivered, Move.chunk?, Put.chunk?, hi]⟩
  | late _ he => simp [hw] at he
  | overflow => simp at hp
  | close hi => exact absurd hi (hl _)
  | pick hf hq => exact ⟨⟨hw, hl⟩, rfl, by simp [taken, stream_pick hf hq, Move.chunk?]⟩
  | deliver hf => exact ⟨⟨hw, hl⟩, rfl, by simp [taken, stream_deliver hf, Move.chunk?]⟩
  | fail => exact absurd rfl (hm _)
  | abort _ ho => simp [abort, ho] at hp
  | rest hc => exact ⟨⟨hw, hl⟩, rfl, by simp [hc]⟩

end Outbox

variable {Wait Call : Type} {c : Console Wait Call} {s t : State Wait Call} {input : Bytes}

/-- What a reader has still to hand over. -/
def Reader.ahead : Reader → List Input
  | .reading bs => inputs bs
  | .handing i rest => i :: inputs rest
  | .closing | .ended => []

/-- Where the dispatcher comes once all is written. -/
def Serving.after : Serving Wait Call → Serving Wait Call
  | .writing _ next => next.after
  | next => next

namespace State

/-- The inputs that are still to be received. -/
def upcoming (s : State Wait Call) : List Input := s.channel ++ s.reader.ahead

structure Orderly (input : Bytes) (s : State Wait Call) : Prop where
  peerEnded : s.peerEnded = true
  shutdown : s.shutdown = false
  calm : s.outbox.Calm
  account : s.received.reverse ++ s.upcoming = inputs input
  closed : s.outbox.closed = true → s.reader = .ended
  peeking : s.serving.after = .peeking → s.reader = .ended
  ended : s.serving.after = .ended → s.upcoming = []
  putting : s.outbox.put = .idle ∨ ∃ cs next, s.serving = .writing cs next

theorem orderly_start (input : Bytes) (node : Node) :
    Orderly input (start input true node : State Wait Call) :=
  ⟨rfl, rfl, ⟨rfl, nofun⟩, rfl, nofun, nofun, nofun, .inl rfl⟩

/-- What the reader can do. -/
theorem reader_cases (h : s.readerMove? = some t) :
    (∃ bs i rest, s.reader = .reading bs ∧ next? s.peerEnded bs = some (i, rest) ∧
      t = { s with reader := .handing i rest }) ∨
    (∃ bs, s.reader = .reading bs ∧ next? s.peerEnded bs = none ∧
      t = { s with reader := .closing }) ∨
    (∃ i rest, s.reader = .handing i rest ∧ s.serving = .ended ∧
      t = { s with reader := .closing }) ∨
    (∃ i rest, s.reader = .handing i rest ∧ s.channel.length < places ∧
      t = { s with
        channel := s.channel ++ [i], reader := if i = .tooLong then .closing else .reading rest }) ∨
    (s.reader = .closing ∧
      t = { s with outbox := { s.outbox with closed := true }, reader := .ended }) := by
  unfold readerMove? at h
  split at h
  · rename_i bs hr
    split at h
    · rename_i i rest hn
      exact .inl ⟨bs, i, rest, hr, hn, (Option.some.inj h).symm⟩
    · rename_i hn
      split at h
      · exact .inr (.inl ⟨bs, hr, hn, (Option.some.inj h).symm⟩)
      · contradiction
  · rename_i i rest hr
    split at h
    · rename_i hd
      have hs : s.serving = .ended := by
        unfold dispatcherEnded at hd
        split at hd
        · assumption
        · contradiction
      exact .inr (.inr (.inl ⟨i, rest, hr, hs, (Option.some.inj h).symm⟩))
    · split at h
      · rename_i hl
        exact .inr (.inr (.inr (.inl ⟨i, rest, hr, hl, (Option.some.inj h).symm⟩)))
      · contradiction
  · rename_i hr
    exact .inr (.inr (.inr (.inr ⟨hr, (Option.some.inj h).symm⟩)))
  · contradiction

theorem after_place (r : Option (Console.Running Wait Call)) :
    (place r).after ≠ .peeking ∧ (place r).after ≠ .ended := by
  rcases r with _ | ⟨command, w | k⟩ <;> exact ⟨nofun, nofun⟩

namespace Orderly

/-- As long as it moves, the reader has not closed the session. -/
theorem read {channel : List Input} {r : Reader} (hi : Orderly input s) (hr : s.reader ≠ .ended)
    (hu : channel ++ r.ahead = s.upcoming) :
    Orderly input { s with channel, reader := r } where
  peerEnded := hi.peerEnded
  shutdown := hi.shutdown
  calm := hi.calm
  account := (congrArg (s.received.reverse ++ ·) hu).trans hi.account
  closed := fun hc => absurd (hi.closed hc) hr
  peeking := fun hp => absurd (hi.peeking hp) hr
  ended := fun he => hu.trans (hi.ended he)
  putting := hi.putting

theorem reader (hi : Orderly input s) (h : s.readerMove? = some t) : Orderly input t := by
  rcases reader_cases h with ⟨bs, i, rest, hr, hn, rfl⟩ | ⟨bs, hr, hn, rfl⟩ |
    ⟨i, rest, hr, hs, rfl⟩ | ⟨i, rest, hr, hl, rfl⟩ | ⟨hr, rfl⟩
  · rw [hi.peerEnded] at hn
    refine hi.read (by simp [hr]) ?_
    simp [upcoming, Reader.ahead, hr, inputs_of_some hn]
  · rw [hi.peerEnded] at hn
    refine hi.read (by simp [hr]) ?_
    simp [upcoming, Reader.ahead, hr, inputs_of_none hn]
  · have hu := hi.ended (by rw [hs]; rfl)
    simp [upcoming, Reader.ahead, hr] at hu
  · refine hi.read (by simp [hr]) ?_
    by_cases ht : i = .tooLong
    · subst ht
      have hn : inputs rest = [] := by
        have ha := hi.account
        rw [upcoming, hr, Reader.ahead, ← List.append_assoc] at ha
        exact nothing_after_tooLong ha.symm
      simp [upcoming, Reader.ahead, hr, hn]
    · simp [upcoming, Reader.ahead, hr, ht]
  · refine ⟨hi.peerEnded, hi.shutdown, ⟨hi.calm.1, hi.calm.2⟩, ?_, fun _ => rfl, fun _ => rfl, ?_,
      hi.putting⟩
    · simpa [upcoming, Reader.ahead, hr] using hi.account
    · intro he
      simpa [upcoming, Reader.ahead, hr] using hi.ended he

theorem put_idle (hi : Orderly input s) (hs : ∀ cs next, s.serving ≠ .writing cs next) :
    s.outbox.put = .idle :=
  hi.putting.resolve_right fun ⟨cs, next, h⟩ => hs cs next h

/-- The dispatcher goes on without a look at the channel or the outbox. -/
theorem serve {serving : Serving Wait Call} {node : Node} {calls : List Call}
    (hi : Orderly input s) (hs : ∀ cs next, s.serving ≠ .writing cs next)
    (hp : serving.after = .peeking → s.reader = .ended)
    (he : serving.after = .ended → s.upcoming = []) :
    Orderly input { s with serving, node, calls } :=
  ⟨hi.peerEnded, hi.shutdown, hi.calm, hi.account, hi.closed, hp, he, .inl (hi.put_idle hs)⟩

theorem receive {rest : List Input} (hi : Orderly input s) (hs : s.serving = .idle)
    (hc : s.channel = i :: rest) : Orderly input (s.receive c i rest) := by
  have hu : s.upcoming = i :: (rest ++ s.reader.ahead) := by rw [upcoming, hc]; rfl
  have hp : s.outbox.put = .idle := hi.put_idle (by simp [hs])
  have ha : (i :: s.received).reverse ++ (rest ++ s.reader.ahead) = inputs input := by
    rw [← hi.account, hu]
    simp
  cases i with
  | line line =>
    have hn := after_place (c.dispatch line s.node).running
    exact ⟨hi.peerEnded, hi.shutdown, hi.calm, ha, hi.closed, fun h => absurd h hn.1,
      fun h => absurd h hn.2, .inl hp⟩
  | tooLong =>
    have he : rest ++ s.reader.ahead = [] := by
      rw [List.reverse_cons, List.append_assoc, List.singleton_append] at ha
      exact nothing_after_tooLong ha.symm
    exact ⟨hi.peerEnded, hi.shutdown, hi.calm, ha, hi.closed, nofun, fun _ => he, .inl hp⟩

/-- The outbox changes, and no output is lost. -/
theorem outbox {m : Outbox.Move} {o : Outbox} {serving : Serving Wait Call}
    (hi : Orderly input s) (h : Outbox.Change s.outbox m o) (hm : ∀ k, m ≠ .fail k)
    (ho : o.overflowed = false) (hs : serving.after = s.serving.after)
    (hp : o.put = .idle ∨ ∃ cs next, serving = .writing cs next) :
    Orderly input { s with outbox := o, serving } := by
  obtain ⟨hc, hcl, -⟩ := Outbox.calm_change h hm ho hi.calm
  exact ⟨hi.peerEnded, hi.shutdown, hc, hi.account, fun h => hi.closed (hcl ▸ h),
    fun h => hi.peeking (hs ▸ h), fun h => hi.ended (hs ▸ h), hp⟩

theorem step (hi : Orderly input s) (h : TaskStep c s t) (ho : t.outbox.overflowed = false) :
    Orderly input t := by
  cases h with
  | reader h => exact hi.reader h
  | receive hs hc => exact hi.receive hs hc
  | hangUp hs hc hr =>
    apply hi.serve (by simp [hs])
    · intro _
      exact hr
    · intro _
      simp [upcoming, hc, hr, Reader.ahead]
  | stop hs hd => simp [hi.shutdown] at hd
  | offer hs hp =>
    exact hi.outbox (Outbox.change_offer hp) (by simp) ho (by rw [hs]; rfl) (.inr ⟨_, _, rfl⟩)
  | put hp =>
    have hw := hi.putting.resolve_left hp
    exact hi.outbox Outbox.change_advance (by simp) ho rfl (.inr hw)
  | written hs hp =>
    refine ⟨hi.peerEnded, hi.shutdown, hi.calm, hi.account, hi.closed, ?_, ?_, .inl hp⟩
    · intro h
      exact hi.peeking (by rw [hs]; exact h)
    · intro h
      exact hi.ended (by rw [hs]; exact h)
  | check hs =>
    apply hi.serve (by simp [hs])
    · split
      · rename_i hc
        intro _
        exact hi.closed hc
      · nofun
    · split <;> nofun
  | peek hs =>
    -- The session was closed before, so whatever the reader had is in the channel.
    have hr : s.reader = .ended := hi.peeking (by rw [hs]; rfl)
    apply hi.serve (by simp [hs])
    · intro _
      exact hr
    · split
      · rename_i hc
        intro _
        simp [upcoming, List.isEmpty_iff.mp hc, hr, Reader.ahead]
      · nofun
  | @ask command w hs =>
    unfold State.ask
    split
    · have hn := after_place
        (Console.conclude command (c.finish w s.node) : Console.Progress Wait Call).running
      exact hi.serve (by simp [hs]) (fun h => absurd h hn.1) fun h => absurd h hn.2
    · exact hi.serve (by simp [hs]) nofun nofun
  | wake hs => exact hi.serve (by simp [hs]) nofun nofun
  | @reply command k hs =>
    have hn := after_place
      (Console.conclude command (c.answer k s.node) : Console.Progress Wait Call).running
    exact hi.serve (by simp [hs]) (fun h => absurd h hn.1) fun h => absurd h hn.2
  | pick =>
    refine hi.outbox Outbox.change_pick (by simp) ho rfl ?_
    rw [Outbox.put_pick]
    exact hi.putting
  | deliver =>
    refine hi.outbox Outbox.change_deliver (by simp) ho rfl ?_
    rw [Outbox.put_deliver]
    exact hi.putting
  | abort k hs hv => simp [Outbox.abort, hv] at ho

end Orderly
end State
end NodeConsole.Session
