import NodeConsole.Proofs.Session.Accounting

/-! The bytes that reach the peer. -/
namespace NodeConsole.Session
open Text (Bytes)

namespace Outbox

variable {o p q : Outbox} {m : Move} {ms ns : List Move} {c bs : Bytes} {cs ds : List Bytes}
  {k : Nat}

/-- What has been taken, in order: delivered, in flight or queued. -/
def stream (o : Outbox) : Bytes := o.delivered ++ (o.flight.getD [] ++ o.queue.flatten)

/-- What has reached the peer once `k` bytes of the chunk in flight are written. -/
def reached (k : Nat) (o : Outbox) : Bytes := o.delivered ++ (o.flight.getD []).take k

theorem reached_prefix_stream (k : Nat) (o : Outbox) : o.reached k <+: o.stream :=
  (List.prefix_append_right_inj _).mpr ((List.take_prefix k _).trans (List.prefix_append ..))

theorem stream_pick (hf : o.flight = none) (hq : o.queue = c :: cs) :
    stream { o with flight := some c, queue := cs } = o.stream := by
  simp [stream, delivered, hf, hq]

theorem stream_deliver (hf : o.flight = some c) :
    stream { o with flight := none, pending := o.pending - c.length, sent := c :: o.sent } =
      o.stream := by
  simp [stream, delivered, hf]

theorem stream_fail (hf : o.flight = some c) :
    stream { o with
      flight := none, queue := [], pending := o.pending - c.length, sent := c.take k :: o.sent
      closed := true, writerEnded := true } <+: o.stream := by
  have ht : c.take k <+: c := List.take_prefix k c
  have hs : o.delivered ++ c.take k <+: o.delivered ++ (c ++ o.queue.flatten) :=
    (List.prefix_append_right_inj _).mpr (ht.trans (List.prefix_append ..))
  simpa [stream, delivered, hf] using hs

theorem stream_abort : (o.abort k).stream <+: o.stream := by
  cases hf : o.flight with
  | none =>
    simp [stream, delivered, abort, hf]
  | some c =>
    have hs := stream_fail (k := k) hf
    simpa [stream, delivered, abort, hf] using hs

/-- All chunks before the one being put are `ds`; a prefix of them was taken, and all unless one was
turned away. -/
structure Flows (cs ds : List Bytes) (o : Outbox) : Prop where
  offered_eq : cs = ds ++ o.put.chunk?.toList
  stream_begins : o.stream <+: ds.flatten
  stream_eq : o.writerEnded = false → o.overflowed = false → o.stream = ds.flatten

theorem prefix_flatten_snoc (h : bs <+: ds.flatten) (c : Bytes) : bs <+: (ds ++ [c]).flatten := by
  rw [List.flatten_append]
  exact h.trans (List.prefix_append ..)

theorem flows_change (h : Change o m p) (hs : Sound o) (hf : Flows cs ds o) :
    ∃ es, Flows (cs ++ m.chunk?.toList) es p := by
  obtain ⟨rfl, hpre, heq⟩ := hf
  cases h with
  | @skip c hp hc =>
    refine ⟨ds ++ [c], by simp [hp, Put.chunk?, Move.chunk?], prefix_flatten_snoc hpre c, ?_⟩
    intro hw ho
    obtain rfl : c = [] := by simpa [ho] using hc
    simpa using heq hw ho
  | @overfull c hp ho =>
    refine ⟨ds ++ [c], by simp [hp, Put.chunk?, Move.chunk?, Outbox.overflow],
      prefix_flatten_snoc hpre c, ?_⟩
    simp [Outbox.overflow]
  | accept hp ho => exact ⟨ds, by simp [hp, Put.chunk?, Move.chunk?], hpre, heq⟩
  | count hp => exact ⟨ds, by simp [hp, Put.chunk?, Move.chunk?], hpre, heq⟩
  | @queue c hp hw =>
    have ho : o.overflowed = false := by
      by_contra ho
      simp [hs.overflowed_idle (by simpa using ho)] at hp
    have he : stream { o with put := .idle, queue := o.queue ++ [c] } = (ds ++ [c]).flatten := by
      rw [List.flatten_append, ← heq hw ho]
      simp [stream, delivered]
    exact ⟨ds ++ [c], by simp [hp, Put.chunk?, Move.chunk?], he ▸ List.prefix_rfl, fun _ _ => he⟩
  | full hp => exact ⟨ds, by simp [hp, Put.chunk?, Move.chunk?], hpre, heq⟩
  | late hp => exact ⟨ds, by simp [hp, Put.chunk?, Move.chunk?], hpre, heq⟩
  | @overflow c hp =>
    exact ⟨ds ++ [c], by simp [hp, Put.chunk?, Move.chunk?], prefix_flatten_snoc hpre c, by simp⟩
  | @close c hp =>
    refine ⟨ds ++ [c], by simp [hp, Put.chunk?, Move.chunk?], prefix_flatten_snoc hpre c, ?_⟩
    intro hw
    simp [hs.late_ended c hp] at hw
  | pick hf hq =>
    have he := stream_pick hf hq
    exact ⟨ds, by simp [Move.chunk?], he ▸ hpre, fun hw ho => he ▸ heq hw ho⟩
  | deliver hf =>
    have he := stream_deliver hf
    exact ⟨ds, by simp [Move.chunk?], he ▸ hpre, fun hw ho => he ▸ heq hw ho⟩
  | fail hf => exact ⟨ds, by simp [Move.chunk?], (stream_fail hf).trans hpre, by simp⟩
  | abort hp ho =>
    exact ⟨ds, by simp [Move.chunk?, abort], stream_abort.trans hpre, by simp [abort]⟩
  | rest hm => exact ⟨ds, by simp [hm], hpre, heq⟩

theorem flows_run (h : run? ms {} = some o) : ∃ ds, Flows (chunks ms) ds o := by
  have hi : Sound o ∧ ∃ ds, Flows (chunks ms) ds o := by
    refine run_induction (motive := fun cs p => Sound p ∧ ∃ ds, Flows cs ds p) ?_ h []
      ⟨sound_empty, [], rfl, List.nil_prefix, fun _ _ => rfl⟩
    rintro cs u m v hc ⟨hs, ds, hf⟩
    exact ⟨sound_change hc hs, flows_change hc hs hf⟩
  exact hi.2

/-- The chunk that a move turns away, if it does. -/
def refused? (o : Outbox) : Move → Option Bytes
  | .offer c => if c ≠ [] ∧ (o.offer c).put = .idle then some c else none
  | .advance =>
    match o.put with
    | .rejected c _ => some c
    | _ => none
  | _ => none

/-- Nothing is taken any more, and what was taken is a prefix of `bs`. -/
structure Sealed (bs : Bytes) (o : Outbox) : Prop where
  sealed : o.overflowed = true ∨ o.writerEnded = true
  stream_begins : o.stream <+: bs

theorem sealed_change (h : Change o m p) (hs : Sound o) (hd : Sealed bs o) : Sealed bs p := by
  obtain ⟨hov, hpre⟩ := hd
  have hov' : p.overflowed = true ∨ p.writerEnded = true :=
    hov.imp (overflowed_change h) (ended_change h)
  refine ⟨hov', ?_⟩
  cases h with
  | skip => exact hpre
  | overfull => exact hpre
  | accept => exact hpre
  | count => exact hpre
  | queue hp hw =>
    -- The outbox has overflowed, and then nothing is being put.
    rcases hov with ho | he
    · simp [hs.overflowed_idle ho] at hp
    · simp [hw] at he
  | full => exact hpre
  | late => exact hpre
  | overflow => exact hpre
  | close => exact hpre
  | pick hf hq => exact stream_pick hf hq ▸ hpre
  | deliver hf => exact stream_deliver hf ▸ hpre
  | fail hf => exact (stream_fail hf).trans hpre
  | abort => exact stream_abort.trans hpre
  | rest => exact hpre

/-- A chunk that is turned away is the last that was offered, and seals what was taken before. -/
theorem sealed_of_refused? (h : Change o m p) (hr : o.refused? m = some c) (hs : Sound o)
    (hf : Flows cs ds o) :
    cs ++ m.chunk?.toList = ds ++ [c] ∧ p.closed = true ∧ Sealed ds.flatten p := by
  obtain ⟨rfl, hpre, -⟩ := hf
  cases h with
  | @skip d hp hc =>
    obtain ⟨⟨hd, -⟩, rfl⟩ : (d ≠ [] ∧ (o.offer d).put = .idle) ∧ d = c := by
      simpa [refused?] using hr
    have ho : o.overflowed = true := hc.resolve_left hd
    exact ⟨by simp [hp, Put.chunk?, Move.chunk?], hs.overflowed_closed ho, .inl ho, hpre⟩
  | @overfull d hp ho =>
    obtain ⟨-, rfl⟩ : (d ≠ [] ∧ (o.offer d).put = .idle) ∧ d = c := by
      simpa [refused?] using hr
    exact ⟨by simp [hp, Put.chunk?, Move.chunk?], rfl, .inl rfl, hpre⟩
  | @accept d hp ho hc =>
    obtain ⟨⟨hd, hi⟩, rfl⟩ : (d ≠ [] ∧ (o.offer d).put = .idle) ∧ d = c := by
      simpa [refused?] using hr
    simp [offer, hd, ho, hc] at hi
  | count hp => simp [refused?, hp] at hr
  | queue hp hw => simp [refused?, hp] at hr
  | full hp hw => simp [refused?, hp] at hr
  | late hp hw => simp [refused?, hp] at hr
  | @overflow d hp =>
    obtain rfl : d = c := by simpa [refused?, hp] using hr
    exact ⟨by simp [hp, Put.chunk?, Move.chunk?], rfl, .inl rfl, hpre⟩
  | @close d hp =>
    obtain rfl : d = c := by simpa [refused?, hp] using hr
    exact ⟨by simp [hp, Put.chunk?, Move.chunk?], rfl, .inr (hs.late_ended d hp), hpre⟩
  | pick => simp [refused?] at hr
  | deliver => simp [refused?] at hr
  | fail => simp [refused?] at hr
  | abort => simp [refused?] at hr
  | rest hm hp =>
    cases m with
    | offer d => simp [Move.chunk?] at hm
    | advance => simp [refused?, hp rfl] at hr
    | pick | deliver | fail | abort => simp [refused?] at hr

/-- Under any interleaving the counter is exact and bounded, the flags stay, and the peer has a
prefix of what was offered. -/
theorem run_accounts (h : run? ms {} = some o) :
    (o.writerEnded = false →
      o.pending = o.queue.flatten.length + (o.flight.getD []).length + o.put.tally) ∧
    (∀ c, o.flight = some c → c.length ≤ o.pending) ∧
    (∀ c full, o.put = .rejected c full → c.length ≤ o.pending) ∧
    (o.pending ≤ 1048576 ∨ ∃ c ∈ chunks ms, o.pending ≤ c.length) ∧
    (∀ k, o.reached k <+: (chunks ms).flatten) ∧
    (o.closed = false → o.delivered ++ (o.flight.getD [] ++ o.queue.flatten) ++
      (o.put.chunk?.getD []) = (chunks ms).flatten) ∧
    (∀ ns p, run? ns o = some p →
      (o.overflowed = true → p.overflowed = true) ∧ (o.closed = true → p.closed = true)) ∧
    ∀ m c p, o.refused? m = some c → o.move? m = some p →
      p.closed = true ∧ ∃ ds, chunks (ms ++ [m]) = ds ++ [c] ∧
        ∀ ns q k, run? ns p = some q → q.reached k <+: ds.flatten := by
  have hs := sound_run h
  obtain ⟨ds, hf⟩ := flows_run h
  have hall : (chunks ms).flatten = ds.flatten ++ o.put.chunk?.getD [] := by
    rw [hf.offered_eq]
    cases o.put.chunk? <;> simp
  refine ⟨hs.pending_eq, ?_, ?_, pending_le_run h, ?_, ?_, ?_, ?_⟩
  · intro c hc
    have hn := (hs.flight hc).2
    omega
  · intro c full hc
    simpa [hc, Put.tally] using hs.tally_le
  · intro k
    have hp := (o.reached_prefix_stream k).trans hf.stream_begins
    exact hall ▸ hp.trans (List.prefix_append ..)
  · intro hc
    have hw : o.writerEnded = false := by
      by_contra hw
      simp [hs.ended_closed (by simpa using hw)] at hc
    have ho : o.overflowed = false := by
      by_contra ho
      simp [hs.overflowed_closed (by simpa using ho)] at hc
    rw [hall, ← hf.stream_eq hw ho]
    rfl
  · intro ns p hp
    exact ⟨fun ho => run_induction (motive := fun _ u => u.overflowed = true)
        (fun hc hu => overflowed_change hc hu) hp [] ho,
      fun ho => run_induction (motive := fun _ u => u.closed = true)
        (fun hc hu => closed_change hc hu) hp [] ho⟩
  · intro m c p hr hm
    have hch := change_of_move? hm
    obtain ⟨hcs, hcl, hse⟩ := sealed_of_refused? hch hr hs hf
    have hms : chunks (ms ++ [m]) = chunks ms ++ m.chunk?.toList := by
      cases hm : m.chunk? <;> simp [chunks, hm]
    refine ⟨hcl, ds, by rw [hms, hcs], ?_⟩
    intro ns q k hq
    have hi : Sound q ∧ Sealed ds.flatten q :=
      run_induction (motive := fun _ u => Sound u ∧ Sealed ds.flatten u)
        (fun hc hu => ⟨sound_change hc hu.1, sealed_change hc hu.1 hu.2⟩) hq []
        ⟨sound_change hch hs, hse⟩
    exact (q.reached_prefix_stream k).trans hi.2.stream_begins

/-- The writer fails with two of three bytes written, while the next chunk is being counted. -/
theorem run_accounts_failure :
    let ms : List Move := [.offer [1, 2, 3], .advance, .advance, .pick, .offer [4], .fail 2,
      .advance, .advance, .advance]
    ∃ o, run? ms {} = some o ∧ o.pending = 0 ∧ o.closed = true ∧
      o.reached 0 <+: [1, 2, 3, 4] := by
  intro ms
  refine ⟨{ sent := [[1, 2]], closed := true, writerEnded := true }, by decide, rfl, rfl, ?_⟩
  have hr : run? ms {} = some { sent := [[1, 2]], closed := true, writerEnded := true } := by
    decide
  exact (run_accounts hr).2.2.2.2.1 0

end Outbox
end NodeConsole.Session
