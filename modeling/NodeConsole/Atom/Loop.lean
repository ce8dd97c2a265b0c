import NodeConsole.Atom.Reader

/-! The reader as a loop whose operations may fail. -/
namespace NodeConsole.Atom
open Text (Bytes)

namespace Loop
open Reader (State Result Header Progress exactly? refuse)

/-- An operation that has no result. -/
inductive Trap
  | belowZero
  | emptyStack
  deriving DecidableEq, Repr

def decrement : Nat → Except Trap Nat
  | 0 => .error .belowZero
  | n + 1 => .ok n

def pop : List Frame → Except Trap (Frame × List Frame)
  | [] => .error .emptyStack
  | f :: fs => .ok (f, fs)

/-- What the inner loop goes on with after an atom was given to the innermost frame. -/
inductive Given
  /-- There is no frame. -/
  | alone
  /-- The frame waits for more children. -/
  | waiting (stack : List Frame)
  /-- The frame was complete: the atom it makes, and the stack below it. -/
  | complete (a : Atom) (stack : List Frame)

def give (a : Atom) : List Frame → Except Trap Given
  | [] => .ok .alone
  | f :: fs => do
    let remaining ← decrement f.remaining
    let stack := { f with remaining, children := a :: f.children } :: fs
    if 0 < remaining then return .waiting stack
    let (f, stack) ← pop stack
    return .complete (.parent f.id f.children.reverse) stack

theorem give_cons (a : Atom) (f : Frame) (fs : List Frame) : give a (f :: fs) =
    if f.remaining = 0 then .error .belowZero
    else if 0 < f.remaining - 1 then
      .ok (.waiting ({ f with remaining := f.remaining - 1, children := a :: f.children } :: fs))
    else .ok (.complete (.parent f.id (a :: f.children).reverse) fs) := by
  obtain ⟨id, declared, remaining, children⟩ := f
  match remaining with
  | 0 => rfl
  | 1 => rfl
  | n + 2 => rfl

theorem length_of_give {a b : Atom} {stack below : List Frame}
    (h : give a stack = .ok (.complete b below)) : below.length < stack.length := by
  cases stack with
  | nil => simp [give] at h
  | cons f fs =>
    rw [give_cons] at h
    split at h
    · contradiction
    · split at h
      · simp at h
      · obtain ⟨-, rfl⟩ : _ ∧ fs = below := by simpa using h
        exact Nat.lt_succ_self _

/-- The inner loop: from frame to frame as long as they are complete. -/
def climb (a : Atom) (stack : List Frame) : Except Trap Progress :=
  match _h : give a stack with
  | .error t => .error t
  | .ok .alone => .ok (.whole a)
  | .ok (.waiting stack) => .ok (.within stack)
  | .ok (.complete b below) => climb b below
termination_by stack.length
decreasing_by exact length_of_give _h

def settle (a : Atom) (s : State) : Except Trap (Result ⊕ State) := do
  match ← climb a s.stack with
  | .whole a => return .inl ⟨.ok a, s.rest, s.pieces⟩
  | .within stack => return .inr { s with stack }

/-- What a turn of the outer loop comes to, and the buffer that it asks for. -/
structure Turn where
  buffer : Option Nat
  next : Except Trap (Result ⊕ State)

/-- What follows a header that has been read. -/
def body (h : Header) (s : State) : Turn :=
  match h.count? with
  | some count =>
    if maxChildren < count ∨ maxDepth ≤ s.stack.length then
      ⟨none, .ok (refuse (.tooLarge h.id) s)⟩
    else if count = 0 then ⟨none, settle (.parent h.id []) s⟩
    else ⟨none, .ok (.inr { s with stack := ⟨h.id, count, count, []⟩ :: s.stack })⟩
  | none =>
    if maxData < h.size.toNat then ⟨none, .ok (refuse (.tooLarge h.id) s)⟩
    else
      ⟨some h.size.toNat, match exactly? h.size.toNat s.rest with
        | none => .ok (refuse .early { s with rest := [] })
        | some (data, rest) =>
          settle (.leaf h.id data) { s with rest, pieces := data :: s.pieces }⟩

/-- One turn of the outer loop. -/
def turn (s : State) : Turn :=
  match Header.next? s.rest with
  | none => ⟨none, .ok (refuse .early { s with rest := [] })⟩
  | some (h, rest) => body h { s with rest, pieces := h.bytes :: s.pieces }

theorem climb_eq (a : Atom) (stack : List Frame) : climb a stack =
    (give a stack).bind fun
      | .alone => .ok (.whole a)
      | .waiting stack => .ok (.within stack)
      | .complete b below => climb b below := by
  rw [climb]
  split <;> rename_i h <;> rw [h] <;> rfl

theorem climb_cons (a : Atom) (f : Frame) (fs : List Frame) : climb a (f :: fs) =
    if f.remaining = 0 then .error .belowZero
    else if 0 < f.remaining - 1 then
      .ok (.within ({ f with remaining := f.remaining - 1, children := a :: f.children } :: fs))
    else climb (.parent f.id (a :: f.children).reverse) fs := by
  rw [climb_eq, give_cons]
  split
  · rfl
  · split <;> rfl

theorem attach_of_climb {a : Atom} {stack : List Frame} {p : Progress}
    (h : climb a stack = .ok p) : Reader.attach a stack = p := by
  induction stack generalizing a with
  | nil =>
    rw [climb] at h
    exact Except.ok.inj h
  | cons f fs ih =>
    rw [climb_cons] at h
    rw [Reader.attach]
    split at h
    · contradiction
    · split at h
      · rename_i hr
        rw [if_pos hr]
        exact Except.ok.inj h
      · rename_i hr
        rw [if_neg hr]
        exact ih h

theorem settle_eq {a : Atom} {s : State} {x : Result ⊕ State} (h : settle a s = .ok x) :
    Reader.settle a s = x := by
  unfold settle at h
  cases hc : climb a s.stack with
  | error t => simp [hc, bind, Except.bind] at h
  | ok p =>
    rw [Reader.settle, attach_of_climb hc]
    simp only [hc, bind, Except.bind] at h
    cases p with
    | whole b => exact Except.ok.inj h
    | within stack => exact Except.ok.inj h

theorem body_eq {h : Header} {s : State} {x : Result ⊕ State} (hb : (body h s).next = .ok x) :
    Reader.body h s = x := by
  unfold body at hb
  unfold Reader.body
  cases hc : h.count? with
  | some count =>
    simp only [hc] at hb ⊢
    by_cases hm : maxChildren < count ∨ maxDepth ≤ s.stack.length
    · rw [if_pos hm] at hb ⊢
      exact Except.ok.inj hb
    · rw [if_neg hm] at hb ⊢
      by_cases h0 : count = 0
      · rw [if_pos h0] at hb ⊢
        exact settle_eq hb
      · rw [if_neg h0] at hb ⊢
        exact Except.ok.inj hb
  | none =>
    simp only [hc] at hb ⊢
    by_cases hm : maxData < h.size.toNat
    · rw [if_pos hm] at hb ⊢
      exact Except.ok.inj hb
    · rw [if_neg hm] at hb ⊢
      cases hx : exactly? h.size.toNat s.rest with
      | none =>
        simp only [hx] at hb ⊢
        exact Except.ok.inj hb
      | some p =>
        simp only [hx] at hb ⊢
        exact settle_eq hb

theorem step_of_turn {s : State} {x : Result ⊕ State} (h : (turn s).next = .ok x) :
    Reader.step s = x := by
  unfold turn at h
  unfold Reader.step
  cases hn : Header.next? s.rest with
  | none =>
    simp only [hn] at h ⊢
    exact Except.ok.inj h
  | some p =>
    simp only [hn] at h ⊢
    exact body_eq h

/-- What a run of the loop leaves behind. -/
structure Trace where
  outcome : Except Trap Result
  /-- The states in which it asked for a header, in order. -/
  heads : List State
  /-- The sizes of the buffers it asked for, in order. -/
  buffers : List Nat

def trace (s : State) : Trace :=
  match _h : (turn s).next with
  | .error t => ⟨.error t, [s], (turn s).buffer.toList⟩
  | .ok (.inl r) => ⟨.ok r, [s], (turn s).buffer.toList⟩
  | .ok (.inr t) =>
    let later := trace t
    ⟨later.outcome, s :: later.heads, (turn s).buffer.toList ++ later.buffers⟩
termination_by s.rest.length
decreasing_by exact Reader.length_rest_step (step_of_turn _h)

end Loop
end NodeConsole.Atom
