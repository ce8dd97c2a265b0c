import NodeConsole.Text.Canonical.Parts
import NodeConsole.Text.Mark

/-! The canonical form of a text, by decomposition and composition. -/
namespace NodeConsole.Text.Canonical

/-- Composites are nested less than four deep. -/
def takenApart : (depth : Nat) → Char → List Char
  | 0, c => [c]
  | depth + 1, c =>
    match parts? c with
    | none => [c]
    | some s => s.flatMap (takenApart depth)

/-- Each character that has class 0, and the marks after it, in the order of their classes. -/
def ordered (s : List Char) : List Char :=
  (s.splitBy fun _ c => Mark.order c ≠ 0).flatMap
    (·.mergeSort fun a b => Mark.order a ≤ Mark.order b)

/-- A text that is put together. -/
structure Joined where
  /-- Last first; up to the last character of class 0, which is not in it. -/
  done : List Char := []
  base : Option Char := none
  /-- The marks after the last character of class 0, last first. -/
  marks : List Char := []

def Joined.text (j : Joined) : List Char :=
  (j.marks ++ j.base.toList ++ j.done).reverse

/-- A mark is joined with the base unless another of its class or a greater one is in between. -/
def Joined.add (j : Joined) (c : Char) : Joined :=
  let free := j.marks.head?.all fun m => Mark.order m < Mark.order c
  match if free then j.base.bind (join? · c) else none with
  | some d => { j with base := some d }
  | none =>
    if Mark.order c = 0 then
      { done := j.marks ++ j.base.toList ++ j.done, base := some c, marks := [] }
    else { j with marks := c :: j.marks }

def form (s : List Char) : List Char :=
  ((ordered (s.flatMap (takenApart 4))).foldl Joined.add {}).text

end NodeConsole.Text.Canonical
