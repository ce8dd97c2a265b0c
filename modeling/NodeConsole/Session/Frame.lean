import NodeConsole.Text.Utf8

/-! The lines of a session's input, of limited length. -/
namespace NodeConsole.Session
open Text (Bytes)

/-- Most bytes of a line, without its newline. -/
def maxLine : Nat := 65536

inductive Input
  | line (s : String)
  | tooLong
  deriving DecidableEq, Repr

/-- A line from its bytes, last first, without a carriage return at its end. -/
def decodeLine (w : Bytes) : String :=
  match w with
  | 13 :: w => String.ofList (Text.decode w.reverse)
  | w => String.ofList (Text.decode w.reverse)

/-- What a bounded read comes to; the bytes of a line are given last first. -/
inductive Cut
  | whole (w rest : Bytes)
  /-- The input ends before the newline. -/
  | part (w : Bytes)
  | overlong
  deriving DecidableEq, Repr

/-- Reads at most `n` bytes after those in `w`. -/
def cut : (n : Nat) → (w : Bytes) → Bytes → Cut
  | 0, _, _ => .overlong
  | _ + 1, w, [] => .part w
  | n + 1, w, b :: s => if b = 10 then .whole w s else cut n (b :: w) s

/-- The next input and what is left after it. A last line without a newline counts once the peer has
ended its side. -/
def next? (ended : Bool) (s : Bytes) : Option (Input × Bytes) :=
  match cut (maxLine + 1) [] s with
  | .whole w rest => some (.line (decodeLine w), rest)
  | .part w => if w.isEmpty || !ended then none else some (.line (decodeLine w), [])
  | .overlong => some (.tooLong, [])

theorem length_rest_cut {n : Nat} {w v s r : Bytes} (h : cut n w s = .whole v r) :
    r.length < s.length := by
  induction n generalizing w s with
  | zero => simp [cut] at h
  | succ n ih =>
    cases s with
    | nil => simp [cut] at h
    | cons b s =>
      by_cases hb : b = 10
      · simp only [cut, hb, if_true, Cut.whole.injEq] at h
        simp [h.2]
      · simp only [cut, hb, if_false] at h
        exact Nat.lt_succ_of_lt (ih h)

theorem length_rest_next? {ended : Bool} {s r : Bytes} {i : Input}
    (h : next? ended s = some (i, r)) : r.length < s.length := by
  cases s with
  | nil => simp [next?, cut] at h
  | cons b s =>
    unfold next? at h
    split at h
    · rename_i hc
      exact (Prod.mk.inj (Option.some.inj h)).2 ▸ length_rest_cut hc
    · split at h
      · simp at h
      · simp [← (Prod.mk.inj (Option.some.inj h)).2]
    · simp [← (Prod.mk.inj (Option.some.inj h)).2]

/-- All inputs of a peer that ends its side after `s`. -/
def inputs (s : Bytes) : List Input :=
  match _h : next? true s with
  | none => []
  | some (i, rest) => i :: inputs rest
termination_by s.length
decreasing_by exact length_rest_next? _h

end NodeConsole.Session
