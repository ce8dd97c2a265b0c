import Mathlib.Data.List.DropRight
import NodeConsole.Log.Follower
import NodeConsole.Proofs.Log.Attendance

/-! What the ring of a log holds. A push may find it full. -/
namespace NodeConsole.Log

namespace Buffer

variable {b c : Buffer} {capacity n : Nat} {rs : List Record} {r : Record}

/-- The ring holds the end of `rs`. -/
structure Holds (capacity : Nat) (rs : List Record) (b : Buffer) : Prop where
  room : b.capacity = capacity
  latest : b.records = rs.rtake capacity

theorem length_rtake (n : Nat) (rs : List Record) : (rs.rtake n).length = min n rs.length := by
  rw [List.rtake, List.length_drop]
  omega

theorem rtake_rtake (n m : Nat) (rs : List Record) : (rs.rtake m).rtake n = rs.rtake (min n m) := by
  simp [List.rtake_eq_reverse_take_reverse, List.take_take]

theorem rtake_min_length (n : Nat) (rs : List Record) :
    rs.rtake (min n rs.length) = rs.rtake n := by
  rw [List.rtake, List.rtake]
  congr 1
  omega

/-- A ring that is full loses its oldest record, and one that is not has all of them. -/
theorem keep_rtake (capacity : Nat) (rs : List Record) (r : Record) :
    keep capacity (rs.rtake capacity) r = (rs ++ [r]).rtake capacity := by
  cases capacity with
  | zero => simp [keep, List.rtake_zero]
  | succ n =>
    have hl := length_rtake (n + 1) rs
    rw [List.rtake_concat_succ, keep, if_neg n.succ_ne_zero]
    by_cases hf : n + 1 ≤ rs.length
    · have ht : (rs.rtake (n + 1)).tail = rs.rtake n := by
        rw [List.rtake, List.rtake, List.tail_drop]
        congr 1
        omega
      rw [if_pos (hl.trans (Nat.min_eq_left hf)), ht]
    · have ht : rs.rtake (n + 1) = rs.rtake n := by
        rw [List.rtake, List.rtake]
        congr 1
        omega
      rw [if_neg (by omega), ht]

theorem holds_new (capacity : Nat) : Holds capacity [] { capacity } :=
  ⟨rfl, (List.rtake_nil capacity).symm⟩

theorem holds_store (h : b.Holds capacity rs) (r : Record) :
    (b.store r).Holds capacity (rs ++ [r]) where
  room := h.room
  latest := by
    have hs : (b.store r).records = keep b.capacity b.records r := rfl
    rw [hs, h.room, h.latest, keep_rtake]

theorem Holds.congr (h : b.Holds capacity rs) (hc : c.capacity = b.capacity)
    (hr : c.records = b.records) : c.Holds capacity rs :=
  ⟨hc.trans h.room, hr.trans h.latest⟩

/-- What is no push adds nothing. -/
theorem Holds.still (h : b.Holds capacity rs) (hc : c.capacity = b.capacity)
    (hr : c.records = b.records) : c.Holds capacity (rs ++ (none : Option Record).toList) := by
  rw [Option.toList_none, List.append_nil]
  exact h.congr hc hr

theorem holds_push (h : b.Holds capacity rs) (r : Record) :
    (b.push r).Holds capacity (rs ++ [r]) :=
  (holds_store h r).congr rfl rfl

theorem Holds.length_le (h : b.Holds capacity rs) : b.records.length ≤ capacity := by
  rw [h.latest, length_rtake]
  exact Nat.min_le_left ..

theorem Holds.recent (h : b.Holds capacity rs) (n : Nat) :
    b.recent n = rs.rtake (min n (min capacity rs.length)) := by
  have hr : b.recent n = b.records.rtake n := rfl
  rw [hr, h.latest, rtake_rtake, ← Nat.min_assoc, rtake_min_length]

end Buffer

namespace Attendance
open Buffer (Holds)

variable {a : Attendance} {capacity : Nat} {rs : List Record}

def Op.record? : Op → Option Record
  | .push r => some r
  | _ => none

/-- The records pushed, oldest first. -/
def pushed (ops : List Op) : List Record := ops.filterMap Op.record?

theorem pushed_cons (op : Op) (ops : List Op) :
    pushed (op :: ops) = op.record?.toList ++ pushed ops := by
  cases h : op.record? <;> simp [pushed, h]

theorem holds_perform (h : a.buffer.Holds capacity rs) (op : Op) :
    (a.perform op).2.buffer.Holds capacity (rs ++ op.record?.toList) := by
  cases op with
  | push r => exact Buffer.holds_push h r
  | listen => exact h.still rfl rfl
  | unlisten id =>
    rw [perform, unlisten_eq]
    exact h.still rfl rfl

theorem holds_run (ops : List Op) (h : a.buffer.Holds capacity rs) :
    (run a ops).2.buffer.Holds capacity (rs ++ pushed ops) := by
  induction ops generalizing a rs with
  | nil => simpa [run, pushed] using h
  | cons op ops ih =>
    rw [run_cons, pushed_cons, ← List.append_assoc]
    exact ih (holds_perform h op)

theorem holds_opened (capacity : Nat) (ops : List Op) :
    (run (opened capacity) ops).2.buffer.Holds capacity (pushed ops) :=
  holds_run (a := opened capacity) ops (Buffer.holds_new capacity)

end Attendance

namespace Following
open Buffer (Holds)

variable {s t : Following} {e : Event} {es : List Event} {capacity : Nat} {rs : List Record}

def Event.record? : Event → Option Record
  | .push r => some r
  | _ => none

theorem holds_move {b c : Buffer} {f g : Follower} {a : Follower.Act}
    (hs : Follower.Step b f a c g) (h : b.Holds capacity rs) : c.Holds capacity rs := by
  cases hs with
  | refuse | ask | write | pause | wake | reply | drain | finish | done => exact h
  | subscribe | take | leave | drop => exact h.congr rfl rfl

theorem holds_step (hs : Step s e t) (h : s.buffer.Holds capacity rs) :
    t.buffer.Holds capacity (rs ++ e.record?.toList) := by
  cases hs with
  | push r => exact Buffer.holds_store h r
  | call | done => exact h.still rfl rfl
  | move _ hm => exact (holds_move hm h).still rfl rfl

theorem holds_trace (ht : Trace s es t) (h : s.buffer.Holds capacity []) :
    t.buffer.Holds capacity (es.filterMap Event.record?) := by
  induction ht with
  | refl => exact h
  | @snoc es e t u _ hs ih =>
    have he : (es ++ [e]).filterMap Event.record? =
        es.filterMap Event.record? ++ e.record?.toList := by
      cases hr : e.record? <;> simp [hr]
    rw [he]
    exact holds_step hs ih

end Following

namespace Attendance

/-- The log has the end of what was pushed, as far as `n` and the capacity allow, even with pushes
under way. -/
theorem recent_of_run (capacity : Nat) (ops : List Op) :
    let a := (run (opened capacity) ops).2
    let es := (run (opened 0) ops).1
    let ringless := (run (opened 0) ops).2
    (∀ n, a.buffer.recent n =
        (pushed ops).rtake (min n (min capacity (pushed ops).length)) ∧
      (a.buffer.recent n).length = min n (min capacity (pushed ops).length)) ∧
    a.buffer.records.length ≤ capacity ∧
    ringless.buffer.records = [] ∧
    (∀ id, ringless.seen id = if id ∈ ids es then some (heard id es) else none) ∧
    ∀ s es t, Following.Trace s es t → s.buffer = { capacity } →
      t.buffer.records.length ≤ capacity ∧
      ∀ n, t.buffer.recent n = (es.filterMap Following.Event.record?).rtake
        (min n (min capacity (es.filterMap Following.Event.record?).length)) := by
  intro a es ringless
  have ha := holds_opened capacity ops
  have hz : Tells es ringless := tells_run ops (tells_opened 0)
  refine ⟨?_, ha.length_le, ?_, hz.seen, ?_⟩
  · intro n
    refine ⟨ha.recent n, ?_⟩
    rw [ha.recent n, Buffer.length_rtake]
    omega
  · exact List.length_eq_zero_iff.mp (Nat.le_zero.mp (holds_opened 0 ops).length_le)
  · intro s es t ht hs
    have h := Following.holds_trace ht (hs ▸ Buffer.holds_new capacity)
    exact ⟨h.length_le, h.recent⟩

/-- Two pushes that are under way together, on a ring with room for one. -/
theorem recent_of_run_overlapping :
    ∃ t, Following.Trace ⟨{ capacity := 1 }, [], []⟩ [.push ⟨.info, "a"⟩, .push ⟨.warn, "b"⟩] t ∧
      t.pushing.length = 2 ∧ t.buffer.recent 5 = [⟨.warn, "b"⟩] := by
  have h₀ := Following.Trace.refl (s := ⟨{ capacity := 1 }, [], []⟩)
  have h₁ := h₀.snoc (.push ⟨.info, "a"⟩)
  have ht := h₁.snoc (.push ⟨.warn, "b"⟩)
  exact ⟨_, ht, rfl, ((recent_of_run 1 []).2.2.2.2 _ _ _ ht rfl).2 5⟩

example (r t u : Record) :
    (run (opened 2) [.push r, .listen, .push t, .unlisten 1, .push u]).2.buffer.recent 10 =
      [t, u] := rfl

end Attendance
end NodeConsole.Log
