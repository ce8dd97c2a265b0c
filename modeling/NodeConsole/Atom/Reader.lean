import NodeConsole.Atom

/-! Reading an atom from a stream, with a stack of open parents. -/
namespace NodeConsole.Atom
open Text (Bytes)

def maxData : Nat := 1048576
def maxChildren : Nat := 1024

/-- No parent has this many parents above it. -/
def maxDepth : Nat := 16

inductive ReadFault
  /-- The stream ends within an atom. -/
  | early
  | tooLarge (id : AtomId)
  deriving DecidableEq, Repr

def ReadFault.message : ReadFault → String
  | .early => "early eof"
  | .tooLarge id => s!"atom '{id.text}' is too large"

/-- A parent that waits for children. -/
structure Frame where
  id : AtomId
  declared : Nat
  remaining : Nat
  /-- Last first. -/
  children : List Atom
  deriving Repr

namespace Reader

structure State where
  /-- Innermost first. -/
  stack : List Frame
  rest : Bytes
  /-- What has been read, in pieces, last first. -/
  pieces : List Bytes
  deriving Repr

structure Result where
  outcome : Except ReadFault Atom
  rest : Bytes
  pieces : List Bytes

/-- The bytes that were read whole. -/
def record (pieces : List Bytes) : Bytes := pieces.reverse.flatten

def exactly? (n : Nat) (s : Bytes) : Option (Bytes × Bytes) :=
  if (s.take n).length = n then some (s.take n, s.drop n) else none

theorem exactly?_eq_some {n : Nat} {s a b : Bytes} (h : exactly? n s = some (a, b)) :
    s = a ++ b ∧ a.length = n := by
  unfold exactly? at h
  split at h
  · obtain ⟨rfl, rfl⟩ := Prod.mk.inj (Option.some.inj h)
    exact ⟨(List.take_append_drop n s).symm, ‹_›⟩
  · simp at h

structure Header where
  id : AtomId
  size : UInt32
  deriving DecidableEq, Repr

namespace Header

def bytes (h : Header) : Bytes := h.id.bytes ++ word h.size

def next? : Bytes → Option (Header × Bytes)
  | a :: b :: c :: d :: x :: y :: z :: w :: s => some (⟨⟨a, b, c, d⟩, ofWord x y z w⟩, s)
  | _ => none

/-- The number of children, if the header is a parent's. -/
def count? (h : Header) : Option Nat :=
  if parentBit ≤ h.size then some (h.size - parentBit).toNat else none

end Header

/-- Where a whole atom leaves the reader. -/
inductive Progress
  | whole (a : Atom)
  | within (stack : List Frame)

/-- Gives `a` to the innermost parent, and each parent that this completes to the one around it. -/
def attach (a : Atom) : List Frame → Progress
  | [] => .whole a
  | f :: fs =>
    let children := a :: f.children
    let remaining := f.remaining - 1
    if 0 < remaining then .within ({ f with remaining, children } :: fs)
    else attach (.parent f.id children.reverse) fs

/-- The state or the result after a whole atom. -/
def settle (a : Atom) (s : State) : Result ⊕ State :=
  match attach a s.stack with
  | .whole a => .inl ⟨.ok a, s.rest, s.pieces⟩
  | .within stack => .inr { s with stack }

def refuse (f : ReadFault) (s : State) : Result ⊕ State := .inl ⟨.error f, s.rest, s.pieces⟩

/-- Reads what a header announces; the header has been read. -/
def body (h : Header) (s : State) : Result ⊕ State :=
  match h.count? with
  | some count =>
    if maxChildren < count ∨ maxDepth ≤ s.stack.length then refuse (.tooLarge h.id) s
    else if count = 0 then settle (.parent h.id []) s
    else .inr { s with stack := ⟨h.id, count, count, []⟩ :: s.stack }
  | none =>
    if maxData < h.size.toNat then refuse (.tooLarge h.id) s
    else match exactly? h.size.toNat s.rest with
      | none => refuse .early { s with rest := [] }
      | some (data, rest) =>
        settle (.leaf h.id data) { s with rest, pieces := data :: s.pieces }

/-- Reads one header and what it announces. -/
def step (s : State) : Result ⊕ State :=
  match Header.next? s.rest with
  | none => refuse .early { s with rest := [] }
  | some (h, rest) => body h { s with rest, pieces := h.bytes :: s.pieces }

theorem rest_settle {a : Atom} {s t : State} (h : settle a s = .inr t) : t.rest = s.rest := by
  unfold settle at h
  split at h <;> simp_all
  exact h ▸ rfl

theorem length_rest_body {h : Header} {s t : State} (hb : body h s = .inr t) :
    t.rest.length ≤ s.rest.length := by
  unfold body refuse at hb
  split at hb
  · split at hb
    · simp at hb
    · split at hb
      · simp [rest_settle hb]
      · simp_all
        exact Nat.le_of_eq (by rw [← hb])
  · split at hb
    · simp at hb
    · split at hb
      · simp at hb
      · rename_i data rest hx
        rw [rest_settle hb, (exactly?_eq_some hx).1, List.length_append]
        exact Nat.le_add_left ..

theorem length_rest_step {s t : State} (h : step s = .inr t) : t.rest.length < s.rest.length := by
  unfold step at h
  split at h
  · simp [refuse] at h
  · rename_i k rest hk
    have : rest.length < s.rest.length := by
      unfold Header.next? at hk
      split at hk <;> simp_all
      omega
    exact Nat.lt_of_le_of_lt (length_rest_body h) this

def run (s : State) : Result :=
  match _h : step s with
  | .inl r => r
  | .inr t => run t
termination_by s.rest.length
decreasing_by exact length_rest_step _h

end Reader

/-- Reads one atom from the front of a stream. -/
def read (s : Bytes) : Reader.Result := Reader.run ⟨[], s, []⟩

end NodeConsole.Atom
