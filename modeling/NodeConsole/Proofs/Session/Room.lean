import Mathlib.Data.List.Induction
import NodeConsole.Proofs.Session.Accounting

/-! Room in an outbox, for bytes and for chunks. -/
namespace NodeConsole.Session
open Text (Bytes)

/-- The bytes of a chunk that is about to be counted. -/
def Put.owed : Put → Nat
  | .admitted c => c.length
  | .idle | .counted _ | .rejected .. => 0

namespace Outbox

variable {o p q : Outbox} {m : Move} {ms : List Move} {c : Bytes} {cs : List Bytes}

/-- A chunk has been turned away for want of room. -/
def TurnedAway (o : Outbox) : Prop := o.overflowed = true ∨ ∃ c, o.put = .rejected c true

/-- The move puts a chunk for which there are too many bytes pending or no place in the queue. -/
inductive NoRoom (o : Outbox) : Move → Prop
  | bytes {c : Bytes} (hp : o.put = .idle) (ho : o.overflowed = false) (hn : c ≠ [])
      (h0 : 0 < o.pending) (hb : 1048576 < o.pending + c.length) : NoRoom o (.offer c)
  | places {c : Bytes} (hp : o.put = .counted c) (hw : o.writerEnded = false)
      (hq : o.queue.length = 1024) : NoRoom o .advance

theorem queue_le_change (h : Change o m p) (hl : o.queue.length ≤ maxQueued) :
    p.queue.length ≤ maxQueued := by
  cases h with
  | queue hp hw hq =>
    rw [List.length_append]
    exact hq
  | pick hf hq =>
    rw [hq] at hl
    exact Nat.le_of_succ_le hl
  | fail => exact Nat.zero_le _
  | abort => exact Nat.zero_le _
  | skip | overfull | accept | count | full | late | overflow | close | deliver | rest => exact hl

theorem queue_le_run (h : run? ms {} = some o) : o.queue.length ≤ maxQueued :=
  run_induction (motive := fun _ p => p.queue.length ≤ maxQueued) queue_le_change h []
    (Nat.zero_le _)

theorem turnedAway_change (h : Change o m p) (hr : TurnedAway o) : TurnedAway p := by
  rcases hr with ho | ⟨c, hc⟩
  · exact .inl (overflowed_change h ho)
  · cases h with
    | overflow => exact .inl rfl
    | pick | deliver | fail | rest => exact .inr ⟨c, hc⟩
    | skip hp | overfull hp | accept hp | count hp | queue hp | full hp | late hp | close hp
    | abort hp => simp [hp] at hc

theorem turnedAway_of_noRoom (h : Change o m p) (hn : NoRoom o m) : TurnedAway p := by
  cases hn with
  | bytes hp ho hn h0 hb =>
    cases h with
    | skip _ hc => simp [hn, ho] at hc
    | overfull => exact .inl rfl
    | accept _ _ hc => simp [overfull, maxPending, h0, hb] at hc
    | rest hm => simp [Move.chunk?] at hm
  | places hp hw hq =>
    cases h with
    | full => exact .inr ⟨_, rfl⟩
    | queue _ _ hl => simp [hq, maxQueued] at hl
    | late _ he => simp [hw] at he
    | count hc | overflow hc | close hc => simp [hp] at hc
    | rest _ hi => simp [hp] at hi

theorem noRoom_of_change (h : Change o m p) (hl : o.queue.length ≤ maxQueued)
    (hr : TurnedAway p) : TurnedAway o ∨ NoRoom o m := by
  cases h with
  | overfull hp ho hc hn =>
    obtain ⟨h0, hb⟩ := Bool.and_eq_true_iff.mp hc
    exact .inr (.bytes hp ho hn (of_decide_eq_true h0) (of_decide_eq_true hb))
  | full hp hw hq => exact .inr (.places hp hw (Nat.le_antisymm hl hq))
  | overflow hp => exact .inl (.inr ⟨_, hp⟩)
  | accept | count | queue | late | close => exact .inl (.inl (by simpa [TurnedAway] using hr))
  | abort _ ho => exact .inl (.inl ho)
  | skip | pick | deliver | fail | rest => exact .inl hr

theorem run?_append (ms ns : List Move) (o : Outbox) :
    run? (ms ++ ns) o = (run? ms o).bind (run? ns) :=
  List.foldlM_append

/-- The moment at which a chunk found no room, and nothing else, lets one be turned away. -/
theorem turnedAway_iff (h : run? ms {} = some o) : TurnedAway o ↔ ∃ before m after q,
    ms = before ++ m :: after ∧ run? before {} = some q ∧ NoRoom q m := by
  constructor
  · intro hr
    -- Either the last move found no room, or a chunk had been turned away before it.
    induction ms using List.reverseRecOn generalizing o with
    | nil =>
      obtain rfl : {} = o := by simpa [run?] using h
      simp [TurnedAway] at hr
    | append_singleton ms m ih =>
      obtain ⟨q, hq, hm⟩ : ∃ q, run? ms {} = some q ∧ q.move? m = some o := by
        rw [run?_append] at h
        simpa [run?, Option.bind_eq_some_iff] using h
      rcases noRoom_of_change (change_of_move? hm) (queue_le_run hq) hr with hr | hn
      · obtain ⟨before, n, after, u, rfl, hu, hn⟩ := ih hq hr
        exact ⟨before, n, after ++ [m], u, by simp, hu, hn⟩
      · exact ⟨ms, m, [], q, rfl, hq, hn⟩
  · rintro ⟨before, m, after, q, rfl, hq, hn⟩
    obtain ⟨p, hm, hp⟩ : ∃ p, q.move? m = some p ∧ run? after p = some o := by
      rw [run?_append, hq] at h
      simpa [run?, Option.bind_eq_some_iff] using h
    exact run_induction (motive := fun _ => TurnedAway) turnedAway_change hp []
      (turnedAway_of_noRoom (change_of_move? hm) hn)

/-- What is pending and what takes places is among the chunks `cs` that were offered. -/
structure Fed (cs : List Bytes) (o : Outbox) : Prop where
  pending_le : o.pending + o.put.owed ≤ cs.flatten.length
  places_le : o.queue.length + o.put.chunk?.toList.length ≤ cs.countP (· ≠ [])

/-- Only an offer that is accepted asks for more room. -/
theorem Fed.of_le (hf : Fed cs o) (ds : List Bytes)
    (hb : p.pending + p.put.owed ≤ o.pending + o.put.owed)
    (hl : p.queue.length + p.put.chunk?.toList.length ≤
      o.queue.length + o.put.chunk?.toList.length) : Fed (cs ++ ds) p := by
  constructor
  · rw [List.flatten_append, List.length_append]
    exact Nat.le_add_right_of_le (Nat.le_trans hb hf.pending_le)
  · rw [List.countP_append]
    exact Nat.le_add_right_of_le (Nat.le_trans hl hf.places_le)

theorem Fed.accept (hf : Fed cs o) (hp : o.put = .idle) (hn : c ≠ []) :
    Fed (cs ++ [c]) { o with put := .admitted c } := by
  have hb := hf.pending_le
  have hl := hf.places_le
  rw [hp] at hb hl
  constructor
  · simpa [Put.owed] using hb
  · simpa [Put.chunk?, hn] using hl

theorem fed_change (h : Change o m p) (hf : Fed cs o) : Fed (cs ++ m.chunk?.toList) p := by
  cases h with
  | skip | overfull | rest => exact hf.of_le _ (Nat.le_refl _) (Nat.le_refl _)
  | accept hp _ _ hn => exact hf.accept hp hn
  | count hp => exact hf.of_le _ (by simp [hp, Put.owed]) (by simp [hp, Put.chunk?])
  | queue hp => exact hf.of_le _ (by simp [hp, Put.owed]) (by simp [hp, Put.chunk?])
  | full hp | late hp => exact hf.of_le _ (by simp [hp, Put.owed]) (by simp [hp, Put.chunk?])
  | overflow hp | close hp => exact hf.of_le _ (by simp [hp, Put.owed]) (by simp [hp, Put.chunk?])
  | pick _ hq => exact hf.of_le _ (Nat.le_refl _) (by simp [hq])
  | deliver => exact hf.of_le _ (by simp) (Nat.le_refl _)
  | fail => exact hf.of_le _ (by simp) (by simp)
  | abort => exact hf.of_le _ (Nat.le_refl _) (by simp [Outbox.abort])

theorem fed_run (h : run? ms {} = some o) : Fed (chunks ms) o :=
  run_induction (motive := Fed) fed_change h [] ⟨Nat.zero_le _, Nat.zero_le _⟩

/-- Where there is no room, chunks with many bytes or many chunks have been offered. -/
theorem Fed.noRoom (hf : Fed cs o) (hn : NoRoom o m) :
    1048576 < (cs ++ m.chunk?.toList).flatten.length ∨
      1024 < (cs ++ m.chunk?.toList).countP (· ≠ []) := by
  cases hn with
  | bytes hp ho hn h0 hb =>
    have hle := hf.pending_le
    rw [hp] at hle
    left
    simp only [Put.owed, Nat.add_zero] at hle
    simp only [Move.chunk?, Option.toList_some, List.flatten_append, List.length_append,
      List.flatten_singleton]
    omega
  | places hp hw hq =>
    have hle := hf.places_le
    rw [hp, hq] at hle
    right
    simpa [Move.chunk?, Put.chunk?, Nat.lt_iff_add_one_le] using hle

/-- A chunk is turned away just when the pending bytes leave no room for it, or when the queue has
no place left. -/
theorem run_turns_away (h : run? ms {} = some o) :
    (TurnedAway o ↔ ∃ before m after q,
      ms = before ++ m :: after ∧ run? before {} = some q ∧ NoRoom q m) ∧
    ((chunks ms).flatten.length ≤ 1048576 → (chunks ms).countP (· ≠ []) ≤ 1024 →
      ¬ TurnedAway o) := by
  refine ⟨turnedAway_iff h, ?_⟩
  intro hb hl ht
  obtain ⟨before, m, after, q, rfl, hq, hn⟩ := (turnedAway_iff h).mp ht
  rw [chunks_append, chunks_cons, ← List.append_assoc] at hb hl
  rw [List.flatten_append, List.length_append] at hb
  rw [List.countP_append] at hl
  rcases (fed_run hq).noRoom hn with hlt | hlt <;> omega

/-- Two chunks are put, and the writer has picked one. -/
theorem run_turns_away_two :
    ∃ o, run? [.offer [104, 105], .advance, .advance, .pick, .offer [10], .advance, .advance] {} =
      some o ∧ o.queue = [[10]] ∧ ¬ TurnedAway o := by
  have hr : run? [.offer [104, 105], .advance, .advance, .pick, .offer [10], .advance, .advance]
      {} = some { queue := [[10]], flight := some [104, 105], pending := 3 } := by
    decide
  exact ⟨_, hr, rfl, (run_turns_away hr).2 (by decide) (by decide)⟩

/-- The moves that put chunks one after another. -/
def puts (cs : List Bytes) : List Move := cs.flatMap fun c => [.offer c, .advance, .advance]

theorem chunks_puts (cs : List Bytes) : chunks (puts cs) = cs := by
  induction cs with
  | nil => rfl
  | cons c cs ih => exact congrArg (c :: ·) ih

/-- A chunk for which there is room is counted. -/
theorem run?_count (hc : c ≠ []) (hp : o.put = .idle) (ho : o.overflowed = false)
    (hb : o.pending + c.length ≤ maxPending) :
    run? [.offer c, .advance] o =
      some { o with put := .counted c, pending := o.pending + c.length } := by
  have hf : o.overfull c = false := by simp [overfull, Nat.not_lt.mpr hb]
  simp [run?, move?, offer, advance, hc, hp, ho, hf]

/-- While the writer stands still, chunks up to both limits are all queued. -/
theorem run?_puts (hc : [] ∉ cs) (hp : o.put = .idle) (ho : o.overflowed = false)
    (hw : o.writerEnded = false) (hl : o.queue.length + cs.length ≤ maxQueued)
    (hb : o.pending + cs.flatten.length ≤ maxPending) :
    run? (puts cs) o =
      some { o with queue := o.queue ++ cs, pending := o.pending + cs.flatten.length } := by
  induction cs generalizing o with
  | nil => simp [puts, run?]
  | cons c cs ih =>
    obtain ⟨hn, hc⟩ : c ≠ [] ∧ [] ∉ cs := by simpa [eq_comm] using hc
    rw [List.length_cons] at hl
    rw [List.flatten_cons, List.length_append] at hb
    have hq : run? [.advance] { o with put := .counted c, pending := o.pending + c.length } =
        some { o with queue := o.queue ++ [c], pending := o.pending + c.length } := by
      have hl : o.queue.length < maxQueued := by omega
      simp [run?, move?, advance, hp, hw, hl]
    calc run? (puts (c :: cs)) o
        = run? ([.offer c, .advance] ++ ([.advance] ++ puts cs)) o := rfl
      _ = run? (puts cs) { o with queue := o.queue ++ [c], pending := o.pending + c.length } := by
        rw [run?_append, run?_count hn hp ho (by omega), Option.bind_some, run?_append, hq,
          Option.bind_some]
      _ = _ := by
        rw [ih (o := { o with queue := o.queue ++ [c], pending := o.pending + c.length }) hc hp ho
          hw (by rw [List.length_append, List.length_singleton]; omega) (by simp only; omega)]
        simp [Nat.add_assoc]

/-- The chunk after `maxQueued` others is turned away, however few bytes they have. -/
theorem run?_puts_full (hc : [] ∉ cs) (hl : cs.length = maxQueued) (hn : c ≠ [])
    (hb : cs.flatten.length + c.length ≤ maxPending) :
    run? (puts (cs ++ [c]) ++ [.advance]) {} =
      some { queue := cs, pending := cs.flatten.length, overflowed := true, closed := true } := by
  have hq : run? (puts cs) {} = some { queue := cs, pending := cs.flatten.length } := by
    simpa using run?_puts (o := {}) hc rfl rfl rfl (by simp [hl])
      (by rw [Nat.zero_add]; omega)
  have hmoves : puts (cs ++ [c]) ++ [.advance] =
      puts cs ++ ([.offer c, .advance] ++ [.advance, .advance]) := by
    simp [puts]
  rw [hmoves, run?_append, hq, Option.bind_some, run?_append, run?_count hn rfl rfl hb]
  simp [run?, move?, advance, overflow, hl]

/-- Chunks of a byte each, of which the last is turned away with all others in the queue. -/
theorem short_chunks_turned_away :
    ∃ ms o, run? ms {} = some o ∧ o.writerEnded = false ∧
      (chunks ms).flatten.length ≤ 1048576 ∧ o.overflowed = true := by
  have hb : (List.replicate maxQueued ([10] : Bytes)).flatten.length = maxQueued := by
    rw [List.flatten_replicate_singleton, List.length_replicate]
  have hc : [] ∉ List.replicate maxQueued ([10] : Bytes) := by simp [List.mem_replicate]
  refine ⟨_, _, run?_puts_full hc List.length_replicate (List.cons_ne_nil 10 []) ?_, rfl, ?_, rfl⟩
  · rw [hb]
    decide
  · rw [chunks_append, chunks_puts, List.flatten_append, List.flatten_append, List.length_append,
      List.length_append, hb]
    decide

end Outbox
end NodeConsole.Session
