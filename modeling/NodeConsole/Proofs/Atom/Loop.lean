import NodeConsole.Atom.Loop
import NodeConsole.Proofs.Atom.Stack

/-! The invariant of the loop, and what follows from it. -/
namespace NodeConsole.Atom
open Text (Bytes)

namespace Loop
open Reader (State Result Header AllOpen spelling refuse spells_step act_step)

variable {s t : State} {a : Atom} {stack : List Frame} {bs : Bytes} {h : Header} {n : Nat}

theorem exists_climb (a : Atom) (h : AllOpen stack) : ∃ p, climb a stack = .ok p := by
  induction stack generalizing a with
  | nil => exact ⟨.whole a, by rw [climb_eq]; rfl⟩
  | cons f fs ih =>
    obtain ⟨hf, hfs⟩ := h
    have hr : f.remaining ≠ 0 := Nat.pos_iff_ne_zero.mp hf.remaining_pos
    rw [climb_cons, if_neg hr]
    split
    · exact ⟨_, rfl⟩
    · exact ih _ hfs

theorem exists_settle (a : Atom) (h : AllOpen s.stack) : ∃ x, settle a s = .ok x := by
  obtain ⟨p, hp⟩ := exists_climb a h
  unfold settle
  rw [hp]
  cases p with
  | whole b => exact ⟨_, rfl⟩
  | within stack => exact ⟨_, rfl⟩

theorem exists_body (hs : AllOpen s.stack) : ∃ x, (body h s).next = .ok x := by
  unfold body
  split
  · split
    · exact ⟨_, rfl⟩
    · split
      · exact exists_settle _ hs
      · exact ⟨_, rfl⟩
  · split
    · exact ⟨_, rfl⟩
    · dsimp only
      split
      · exact ⟨_, rfl⟩
      · exact exists_settle (s := ⟨s.stack, _, _⟩) _ hs

theorem turn_next (hs : AllOpen s.stack) : (turn s).next = .ok (Reader.step s) := by
  have hx : ∃ x, (turn s).next = .ok x := by
    unfold turn
    split
    · exact ⟨_, rfl⟩
    · exact exists_body hs
  obtain ⟨x, hx⟩ := hx
  rw [hx, step_of_turn hx]

theorem buffer_body (hn : (body h s).buffer = some n) : n ≤ 1048576 := by
  unfold body at hn
  split at hn
  · split at hn
    · contradiction
    · split at hn <;> contradiction
  · split at hn
    · contradiction
    · rename_i hm
      obtain rfl := Option.some.inj hn
      exact Nat.le_of_not_lt hm

theorem buffer_turn (hn : (turn s).buffer = some n) : n ≤ 1048576 := by
  unfold turn at hn
  split at hn
  · contradiction
  · exact buffer_body hn

theorem length_leafHeader (id : AtomId) (n : Nat) : (leafHeader id n).length = 8 := rfl

theorem length_parentHeader (id : AtomId) (n : Nat) : (parentHeader id n).length = 8 := rfl

/-- No turn that goes on reads less than a header. -/
theorem length_step (h : Reader.step s = .inr t) : t.rest.length + 8 ≤ s.rest.length := by
  have hact := act_step s
  rw [h] at hact
  generalize hx : (Sum.inr t : Result ⊕ State) = x at hact
  cases hact with
  | cut => simp [refuse] at hx
  | cutData => simp [refuse] at hx
  | tooLarge => simp [refuse] at hx
  | @leaf id data rest hr hn =>
    rw [Reader.rest_settle hx.symm, hr, List.length_append, List.length_append, length_leafHeader]
    dsimp only
    omega
  | @empty id rest hr hd =>
    rw [Reader.rest_settle hx.symm, hr, List.length_append, length_parentHeader, Nat.add_comm]
  | @push id n rest hr h0 hn hd =>
    obtain rfl := Sum.inr.inj hx
    rw [hr, List.length_append, length_parentHeader, Nat.add_comm]

/-- What holds whenever the loop asks for a header of the stream `bs`. -/
structure Invariant (bs : Bytes) (s : State) : Prop where
  depth : s.stack.length ≤ 16
  waiting : ∀ f ∈ s.stack, 0 < f.remaining
  counted : ∀ f ∈ s.stack, f.children.length + f.remaining = f.declared
  bounded : ∀ f ∈ s.stack, 1 ≤ f.declared ∧ f.declared ≤ 1024
  /-- What has been read are the headers of the frames, with the numbers they declare, and their
  children so far. -/
  spelt : spelling s.stack ++ s.rest = bs

theorem mem_allOpen {f : Frame} (h : AllOpen stack) (hf : f ∈ stack) : ∃ k, f.Open k := by
  induction stack with
  | nil => exact absurd hf List.not_mem_nil
  | cons g fs ih =>
    rcases List.mem_cons.mp hf with rfl | hf
    · exact ⟨_, h.1⟩
    · exact ih h.2 hf

theorem length_allOpen (h : AllOpen stack) : stack.length ≤ 16 := by
  cases stack with
  | nil => exact Nat.zero_le _
  | cons f fs => exact Nat.succ_le_succ h.1.depth_le

theorem invariant_of_allOpen (hs : AllOpen s.stack) (hb : spelling s.stack ++ s.rest = bs) :
    Invariant bs s where
  depth := length_allOpen hs
  waiting f hf := by
    obtain ⟨k, ho⟩ := mem_allOpen hs hf
    exact ho.remaining_pos
  counted f hf := by
    obtain ⟨k, ho⟩ := mem_allOpen hs hf
    exact ho.count_eq
  bounded f hf := by
    obtain ⟨k, ho⟩ := mem_allOpen hs hf
    have hc := ho.count_eq
    have hp := ho.remaining_pos
    exact ⟨by omega, ho.declared_le⟩
  spelt := hb

/-- The state after so many turns, if the loop goes on for so long. -/
def after : Nat → State → Option State
  | 0, s => some s
  | n + 1, s =>
    match (turn s).next with
    | .ok (.inr t) => after n t
    | _ => none

theorem heads_trace (s : State) (n : Nat) : (trace s).heads[n]? = after n s := by
  induction n generalizing s with
  | zero =>
    rw [trace]
    split <;> rfl
  | succ n ih =>
    rw [trace, after]
    split
    · rename_i h
      rw [h]
      rfl
    · rename_i h
      rw [h]
      rfl
    · rename_i t h
      rw [h]
      exact ih t

theorem buffers_trace (s : State) :
    (trace s).buffers = (trace s).heads.flatMap fun t => (turn t).buffer.toList := by
  fun_induction trace s with
  | case1 s t h => rw [List.flatMap_singleton]
  | case2 s r h => rw [List.flatMap_singleton]
  | case3 s t h later ih => rw [List.flatMap_cons, ih]

/-- How the trace goes on from a state in which no turn meets a trap. -/
theorem trace_eq (hs : AllOpen s.stack) : trace s =
    match Reader.step s with
    | .inl r => ⟨.ok r, [s], (turn s).buffer.toList⟩
    | .inr t => ⟨(trace t).outcome, s :: (trace t).heads,
        (turn s).buffer.toList ++ (trace t).buffers⟩ := by
  have hn := turn_next hs
  rw [trace]
  split
  · rename_i h
    rw [h] at hn
    contradiction
  · rename_i h
    rw [h] at hn
    rw [← Except.ok.inj hn]
  · rename_i h
    rw [h] at hn
    rw [← Except.ok.inj hn]

/-- What the rest of a run does, from a state in which the invariant holds. -/
structure Trace.Safe (bs : Bytes) (s : State) (tr : Trace) : Prop where
  outcome : tr.outcome = .ok (Reader.run s)
  heads : ∀ t ∈ tr.heads, Invariant bs t
  buffers : ∀ n ∈ tr.buffers, n ≤ 1048576
  few : tr.heads.length ≤ s.rest.length / 8 + 1

theorem safe_trace (hs : AllOpen s.stack) (hb : spelling s.stack ++ s.rest = bs) :
    (trace s).Safe bs s := by
  have hi := invariant_of_allOpen hs hb
  -- Along the run of the reader, whose frames stay open.
  fun_induction Reader.run s with
  | case1 s r hr =>
    rw [trace_eq hs, hr]
    refine ⟨by rw [Reader.run_eq, hr]; rfl, by simpa using hi, ?_, Nat.le_add_left ..⟩
    exact fun n hn => buffer_turn (Option.mem_toList.mp hn)
  | case2 s t hr ih =>
    have hp := spells_step hs
    rw [hr] at hp
    obtain ⟨he, ht⟩ := hp
    have hb := he.trans hb
    have hsafe := ih ht hb (invariant_of_allOpen ht hb)
    have hl := length_step hr
    rw [trace_eq hs, hr]
    refine ⟨?_, ?_, ?_, ?_⟩
    · rw [hsafe.outcome, Reader.run_eq s, hr]
      rfl
    · exact List.forall_mem_cons.mpr ⟨hi, hsafe.heads⟩
    · intro n hn
      rcases List.mem_append.mp hn with hn | hn
      · exact buffer_turn (Option.mem_toList.mp hn)
      · exact hsafe.buffers n hn
    · have hf := hsafe.few
      rw [List.length_cons]
      omega

/-- On any stream the loop meets no trap and agrees with the reader; its invariant holds at every
header, and its requests are bounded. -/
theorem trace_safe (bs : Bytes) (ps : List Bytes) :
    let tr := trace ⟨[], bs, ps⟩
    (∀ n, tr.heads[n]? = after n ⟨[], bs, ps⟩) ∧
    (tr.buffers = tr.heads.flatMap fun s => (turn s).buffer.toList) ∧
    tr.outcome = .ok (Reader.run ⟨[], bs, ps⟩) ∧
    (∀ s ∈ tr.heads, Invariant bs s) ∧
    (∀ n ∈ tr.buffers, n ≤ 1024 * 1024) ∧
    tr.heads.length ≤ bs.length / 8 + 1 := by
  intro tr
  have h : tr.Safe bs ⟨[], bs, ps⟩ := safe_trace trivial rfl
  exact ⟨heads_trace _, buffers_trace _, h.outcome, h.heads, h.buffers, h.few⟩

end Loop
end NodeConsole.Atom
