import Mathlib.Tactic.ByContra
import NodeConsole.Session.Outbox

/-! The counter of an outbox, and what it counts. -/
namespace NodeConsole.Session
open Text (Bytes)

namespace Put

/-- The chunk that is being put. -/
def chunk? : Put → Option Bytes
  | .idle => none
  | .admitted c | .counted c | .rejected c _ => some c

/-- The bytes of it that are counted. -/
def tally : Put → Nat
  | .idle | .admitted _ => 0
  | .counted c | .rejected c _ => c.length

end Put

namespace Outbox

/-- The chunks that moves start to put. -/
def chunks (ms : List Move) : List Bytes := ms.filterMap Move.chunk?

theorem chunks_cons (m : Move) (ms : List Move) :
    chunks (m :: ms) = m.chunk?.toList ++ chunks ms := by
  cases h : m.chunk? <;> simp [chunks, h]

theorem chunks_append (ms ns : List Move) : chunks (ms ++ ns) = chunks ms ++ chunks ns :=
  List.filterMap_append

inductive Change : Outbox → Move → Outbox → Prop
  | skip {o c} (hp : o.put = .idle) (hc : c = [] ∨ o.overflowed = true) : Change o (.offer c) o
  | overfull {o c} (hp : o.put = .idle) (ho : o.overflowed = false)
      (hc : o.overfull c = true) (hn : c ≠ []) : Change o (.offer c) o.overflow
  | accept {o c} (hp : o.put = .idle) (ho : o.overflowed = false) (hc : o.overfull c = false)
      (hn : c ≠ []) : Change o (.offer c) { o with put := .admitted c }
  | count {o c} (hp : o.put = .admitted c) :
      Change o .advance { o with put := .counted c, pending := o.pending + c.length }
  | queue {o c} (hp : o.put = .counted c) (hw : o.writerEnded = false)
      (hq : o.queue.length < maxQueued) :
      Change o .advance { o with put := .idle, queue := o.queue ++ [c] }
  | full {o c} (hp : o.put = .counted c) (hw : o.writerEnded = false)
      (hq : maxQueued ≤ o.queue.length) : Change o .advance { o with put := .rejected c true }
  | late {o c} (hp : o.put = .counted c) (hw : o.writerEnded = true) :
      Change o .advance { o with put := .rejected c false }
  | overflow {o c} (hp : o.put = .rejected c true) :
      Change o .advance
        { o with put := .idle, pending := o.pending - c.length, overflowed := true, closed := true }
  | close {o c} (hp : o.put = .rejected c false) :
      Change o .advance { o with put := .idle, pending := o.pending - c.length, closed := true }
  | pick {o c cs} (hf : o.flight = none) (hq : o.queue = c :: cs) :
      Change o .pick { o with flight := some c, queue := cs }
  | deliver {o c} (hf : o.flight = some c) :
      Change o .deliver
        { o with flight := none, pending := o.pending - c.length, sent := c :: o.sent }
  | fail {o c k} (hf : o.flight = some c) :
      Change o (.fail k)
        { o with
          flight := none, queue := [], pending := o.pending - c.length, sent := c.take k :: o.sent
          closed := true, writerEnded := true }
  | abort {o k} (hp : o.put = .idle) (ho : o.overflowed = true) : Change o (.abort k) (o.abort k)
  /-- There is nothing to do. -/
  | rest {o m} (hm : m.chunk? = none) (hp : m = .advance → o.put = .idle) : Change o m o

variable {o p q : Outbox} {m : Move} {ms : List Move} {c : Bytes} {cs : List Bytes} {bound : Nat}

theorem change_offer (hp : o.put = .idle) : Change o (.offer c) (o.offer c) := by
  unfold offer
  split
  · rename_i h
    exact .skip hp (by simpa [List.isEmpty_iff] using h)
  · rename_i h
    obtain ⟨hn, ho⟩ : c ≠ [] ∧ o.overflowed = false := by simpa [List.isEmpty_iff] using h
    split
    · rename_i hc
      exact .overfull hp ho hc hn
    · rename_i hc
      exact .accept hp ho (by simpa using hc) hn

theorem change_advance : Change o .advance o.advance := by
  unfold advance
  split
  · rename_i hp
    exact .rest rfl fun _ => hp
  · rename_i hp
    exact .count hp
  · rename_i hp
    split
    · rename_i hw
      exact .late hp hw
    · rename_i hw
      have hw : o.writerEnded = false := by simpa using hw
      split
      · rename_i hq
        exact .queue hp hw hq
      · rename_i hq
        exact .full hp hw (Nat.le_of_not_lt hq)
  · rename_i c full hp
    cases full with
    | true => exact .overflow hp
    | false => exact .close hp

theorem change_pick : Change o .pick o.pick := by
  unfold pick
  split
  · rename_i hf hq
    exact .pick hf hq
  · exact .rest rfl nofun

theorem change_deliver : Change o .deliver o.deliver := by
  unfold deliver
  split
  · rename_i hf
    exact .deliver hf
  · exact .rest rfl nofun

theorem change_fail {k : Nat} : Change o (.fail k) (o.fail k) := by
  unfold fail
  split
  · rename_i hf
    exact .fail hf
  · exact .rest rfl nofun

theorem change_of_move? (h : o.move? m = some p) : Change o m p := by
  cases m with
  | offer c =>
    obtain ⟨hp, rfl⟩ : o.put = .idle ∧ o.offer c = p := by simpa [move?] using h
    exact change_offer hp
  | advance =>
    obtain ⟨-, rfl⟩ : ¬ o.put = .idle ∧ o.advance = p := by simpa [move?] using h
    exact change_advance
  | pick => exact Option.some.inj h ▸ change_pick
  | deliver => exact Option.some.inj h ▸ change_deliver
  | fail k => exact Option.some.inj h ▸ change_fail
  | abort k =>
    obtain ⟨⟨hp, ho⟩, rfl⟩ : (o.put = .idle ∧ o.overflowed = true) ∧ o.abort k = p := by
      simpa [move?] using h
    exact .abort hp ho

/-- What every move keeps, as the chunks offered grow, a run keeps. -/
theorem run_induction {motive : List Bytes → Outbox → Prop}
    (step : ∀ {cs o m p}, Change o m p → motive cs o → motive (cs ++ m.chunk?.toList) p)
    (h : run? ms o = some p) (cs : List Bytes) (ho : motive cs o) :
    motive (cs ++ chunks ms) p := by
  induction ms generalizing o cs with
  | nil =>
    obtain rfl : o = p := by simpa [run?] using h
    simpa [chunks] using ho
  | cons m ms ih =>
    obtain ⟨q, hq, h⟩ : ∃ q, o.move? m = some q ∧ run? ms q = some p := by
      simpa [run?, Option.bind_eq_some_iff] using h
    have hi := ih h _ (step (change_of_move? hq) ho)
    rwa [chunks_cons, ← List.append_assoc]

/-- What holds of an outbox at every moment. -/
structure Sound (o : Outbox) : Prop where
  overflowed_closed : o.overflowed = true → o.closed = true
  overflowed_idle : o.overflowed = true → o.put = .idle
  ended_closed : o.writerEnded = true → o.closed = true
  ended_empty : o.writerEnded = true → o.flight = none ∧ o.queue = []
  late_ended : ∀ c, o.put = .rejected c false → o.writerEnded = true
  tally_le : o.put.tally ≤ o.pending
  pending_eq : o.writerEnded = false →
    o.pending = o.queue.flatten.length + (o.flight.getD []).length + o.put.tally

theorem sound_empty : Sound {} := by
  constructor <;> simp [Put.tally]

/-- A writer that holds a chunk is there, and the chunk is counted. -/
theorem Sound.flight (hs : Sound o) (hf : o.flight = some c) : o.writerEnded = false ∧
    o.pending = o.queue.flatten.length + c.length + o.put.tally := by
  have hw : o.writerEnded = false := by
    by_contra hw
    have hn := (hs.ended_empty (by simpa using hw)).1
    simp [hf] at hn
  exact ⟨hw, by simpa [hf] using hs.pending_eq hw⟩

theorem sound_change (h : Change o m p) (hs : Sound o) : Sound p := by
  obtain ⟨hoc, hoi, hec, hee, hle, hcl, hpe⟩ := hs
  cases h with
  | skip => exact ⟨hoc, hoi, hec, hee, hle, hcl, hpe⟩
  | overfull hp ho => constructor <;> simp_all [Outbox.overflow, Put.tally]
  | accept hp ho => constructor <;> simp_all [Put.tally]
  | count hp => constructor <;> simp_all [Put.tally]
  | queue hp hw =>
    constructor <;> simp_all [Put.tally]
    omega
  | full hp hw => constructor <;> simp_all [Put.tally]
  | late hp hw => constructor <;> simp_all [Put.tally]
  | overflow hp => constructor <;> simp_all [Put.tally]
  | close hp => constructor <;> simp_all [Put.tally]
  | pick hf hq =>
    constructor <;> simp_all
    omega
  | deliver hf =>
    obtain ⟨hw, hn⟩ := Sound.flight ⟨hoc, hoi, hec, hee, hle, hcl, hpe⟩ hf
    refine ⟨hoc, hoi, hec, by simp [hw], hle, ?_, fun _ => ?_⟩
    · simp only [hn]
      omega
    · simp only [hn, Option.getD_none, List.length_nil]
      omega
  | fail hf =>
    obtain ⟨hw, hn⟩ := Sound.flight ⟨hoc, hoi, hec, hee, hle, hcl, hpe⟩ hf
    refine ⟨by simp, hoi, by simp, by simp, by simp, ?_, by simp⟩
    simp only [hn]
    omega
  | abort hp ho => constructor <;> simp_all [Outbox.abort]
  | rest => exact ⟨hoc, hoi, hec, hee, hle, hcl, hpe⟩

theorem sound_run (h : run? ms {} = some o) : Sound o :=
  run_induction (motive := fun _ => Sound) sound_change h [] sound_empty

/-- No more is pending than `bound`, and a chunk that is about to be counted fits below it. -/
structure Within (bound : Nat) (o : Outbox) : Prop where
  pending_le : o.pending ≤ bound
  accepted_le : ∀ c, o.put = .admitted c → o.pending + c.length ≤ bound

theorem within_change (h : Change o m p) (hb : maxPending ≤ bound)
    (hm : ∀ c, m.chunk? = some c → c.length ≤ bound) (hw : Within bound o) : Within bound p := by
  obtain ⟨hle, hac⟩ := hw
  cases h with
  | skip => exact ⟨hle, hac⟩
  | overfull hp => exact ⟨hle, hac⟩
  | @accept c hp ho hc =>
    refine ⟨hle, ?_⟩
    rintro d ⟨⟩
    have hd := hm c rfl
    simp only [overfull, Bool.and_eq_false_iff, decide_eq_false_iff_not] at hc ⊢
    omega
  | count hp => exact ⟨hac _ hp, by simp⟩
  | queue hp => exact ⟨hle, by simp⟩
  | full hp => exact ⟨hle, by simp⟩
  | late hp => exact ⟨hle, by simp⟩
  | overflow hp => exact ⟨Nat.le_trans (Nat.sub_le ..) hle, by simp⟩
  | close hp => exact ⟨Nat.le_trans (Nat.sub_le ..) hle, by simp⟩
  | pick => exact ⟨hle, hac⟩
  | deliver hf =>
    refine ⟨Nat.le_trans (Nat.sub_le ..) hle, ?_⟩
    intro d hd
    have hd := hac d hd
    simp only
    omega
  | fail hf =>
    refine ⟨Nat.le_trans (Nat.sub_le ..) hle, ?_⟩
    intro d hd
    have hd := hac d hd
    simp only
    omega
  | abort => exact ⟨hle, hac⟩
  | rest => exact ⟨hle, hac⟩

theorem pending_le_run (h : run? ms {} = some o) :
    o.pending ≤ maxPending ∨ ∃ c ∈ chunks ms, o.pending ≤ c.length := by
  by_contra hn
  obtain ⟨hm, hc⟩ : maxPending < o.pending ∧ ∀ c ∈ chunks ms, c.length < o.pending := by
    simpa using hn
  -- One less than what is pending would be a bound.
  have hw : (∀ c ∈ chunks ms, c.length ≤ o.pending - 1) → Within (o.pending - 1) o := by
    refine run_induction
      (motive := fun cs p => (∀ c ∈ cs, c.length ≤ o.pending - 1) → Within (o.pending - 1) p)
      ?_ h [] (fun _ => ⟨Nat.zero_le _, by simp⟩)
    intro cs u m v hch ih hcs
    refine within_change hch (by omega) ?_ (ih fun c hc => hcs c (by simp [hc]))
    intro c hc
    exact hcs c (by simp [hc])
  have hle := (hw fun c h => by have := hc c h; omega).pending_le
  omega

theorem closed_change (h : Change o m p) (ho : o.closed = true) : p.closed = true := by
  cases h <;> simp_all [Outbox.overflow, Outbox.abort]

theorem overflowed_change (h : Change o m p) (ho : o.overflowed = true) : p.overflowed = true := by
  cases h <;> simp_all [Outbox.abort]

theorem ended_change (h : Change o m p) (ho : o.writerEnded = true) : p.writerEnded = true := by
  cases h <;> simp_all [Outbox.overflow, Outbox.abort]

end Outbox
end NodeConsole.Session
