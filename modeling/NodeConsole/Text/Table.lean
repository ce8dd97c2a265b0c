import NodeConsole.Text.Digits

/-! Tables over characters, written as text. -/
namespace NodeConsole.Text

/-- What the code points from `first` to `last` have. -/
structure Run (α : Type) where
  first : Nat
  last : Nat
  value : α

abbrev Table (α : Type) := Array (Run α)

namespace Table
variable {α : Type}

/-- A number as tables have it: hexadecimal. -/
def number? (w : List Char) : Option Nat := if w.isEmpty then none else valueOf? hexDigit? 16 w

/-- Characters as tables have them: code points, with low lines between them. -/
def characters? (w : List Char) : Option (List Char) :=
  (w.splitOn '_').mapM fun n => (number? n).map Char.ofNat

/-- The runs of an entry, for a reader of its words. -/
def runs (value? : List Char → Option α) (entry : List Char) : List (Run α) :=
  match (entry.splitOn ' ').filter (· ≠ []) with
  | [] => []
  | start :: words =>
    match (start.splitOn '-').mapM number? with
    | some [first] =>
      words.zipIdx.filterMap fun (w, k) => (value? w).map (⟨first + k, first + k, ·⟩)
    | some [first, last] => (words.filterMap value?).map (⟨first, last, ·⟩)
    | _ => []

/-- Entries end with a semicolon or a line; the word `.` leaves a code point out. -/
def read (value? : List Char → Option α) (text : String) : Table α :=
  let entries := text.toList.splitOnP fun c => c == ';' || c == '\n'
  (entries.flatMap (runs value?)).toArray

/-- The run that holds `n`, among those from place `lo` up to place `hi`. -/
def search (t : Table α) (n lo hi : Nat) : Option (Run α) :=
  if lo < hi then
    let middle := (lo + hi) / 2
    match t[middle]? with
    | none => none
    | some r =>
      if n < r.first then search t n lo middle
      else if r.last < n then search t n (middle + 1) hi
      else some r
  else none
termination_by hi - lo

def run? (t : Table α) (c : Char) : Option (Run α) := search t c.toNat 0 t.size

def find? (t : Table α) (c : Char) : Option α := (t.run? c).map (·.value)

end Table
end NodeConsole.Text
