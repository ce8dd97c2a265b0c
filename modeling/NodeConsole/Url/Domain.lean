import NodeConsole.Text.Canonical
import NodeConsole.Text.Direction
import NodeConsole.Text.Joining
import NodeConsole.Url.Domain.Mapping
import NodeConsole.Url.Punycode

/-! Domains in ASCII. -/
namespace NodeConsole.Url.Domain
open Text (Direction Joining)

/-- ASCII characters that no domain has. -/
def isForbidden (c : Char) : Bool :=
  c ≤ ' ' || c == '\x7f' || ['#', '%', '/', ':', '<', '>', '?', '@', '[', '\\', ']', '^', '|'].contains c

/-- A character that is as domains have it. -/
def isKept (c : Char) : Bool := image? c = some [c]

/-- A label as it is shown and in ASCII. -/
structure Label where
  shown : List Char
  ascii : List Char
  deriving DecidableEq, Repr

/-- Most characters of a label in ASCII that stands for another, after its mark. -/
def maxEncoded : Nat := 2000

/-- Most characters of a label that is not in ASCII. -/
def maxShown : Nat := 1000

/-- The label that is written as `r` after the mark: what it stands for is as domains have it. -/
def decoded? (r : List Char) : Option (List Char) := do
  guard (r.length ≤ maxEncoded && r.getLast?.any (· ≠ '-'))
  let t ← Punycode.decode? r
  guard (t.length ≤ maxShown && t.all isKept && Text.Canonical.form t = t)
  return t

def label? (s : List Char) : Option Label :=
  match s with
  | 'x' :: 'n' :: '-' :: '-' :: r => (decoded? r).map (⟨·, s⟩)
  | s =>
    if s.all Punycode.isPlain then some ⟨s, s⟩
    else if s.length ≤ maxShown then some ⟨s, ['x', 'n', '-', '-'] ++ Punycode.encode s⟩
    else none

def nonJoiner : Char := '\u200C'
def joiner : Char := '\u200D'

/-- A joiner stands after a virama, or keeps letters apart that would be joined; `before` is last
first. -/
def joinerOk (c : Char) (before after : List Char) : Bool :=
  before.head?.any Text.Mark.isVirama
    || (c == nonJoiner && Joining.reaches Joining.joinsAfter before
      && Joining.reaches Joining.joinsBefore after)

def joinersOk (before : List Char) : List Char → Bool
  | [] => true
  | c :: s => (!(c == nonJoiner || c == joiner) || joinerOk c before s) && joinersOk (c :: before) s

def isRightToLeft (d : Direction) : Bool :=
  d == .rightToLeft || d == .arabicLetter || d == .arabicNumber

/-- What a label from left to right may hold, and end with. -/
def fromLeft : List Direction × List Direction :=
  ([.leftToRight, .europeanNumber, .europeanSeparator, .commonSeparator, .europeanTerminator,
      .neutral, .boundary, .mark],
    [.leftToRight, .europeanNumber])

/-- What a label from right to left may hold, and end with. -/
def fromRight : List Direction × List Direction :=
  ([.rightToLeft, .arabicLetter, .arabicNumber, .europeanNumber, .europeanSeparator,
      .commonSeparator, .europeanTerminator, .neutral, .boundary, .mark],
    [.rightToLeft, .arabicLetter, .europeanNumber, .arabicNumber])

/-- Whether `ds` holds and ends with what it may; marks at the end do not count. -/
def within (allowed : List Direction × List Direction) (ds : List Direction) : Bool :=
  let core := ds.reverse.dropWhile (· == .mark)
  core.all allowed.1.contains && core.head?.all allowed.2.contains

/-- Whether the directions of a label agree, where any label of the domain is written from right to
left. -/
def directionsOk : List Direction → Bool
  | [] => true
  | .leftToRight :: ds => within fromLeft ds
  | .rightToLeft :: ds | .arabicLetter :: ds =>
    within fromRight ds && !(ds.contains .europeanNumber && ds.contains .arabicNumber)
  | _ => false

/-- A label starts with no mark, and its joiners join. -/
def isOk (l : Label) : Bool :=
  !l.shown.head?.any Text.Mark.isMark && joinersOk [] l.shown

/-- The domain that a text gives, in ASCII. -/
def ofText? (s : List Char) : Option (List Char) := do
  let t := Text.Canonical.form (← s.mapM image?).flatten
  guard (!t.any isForbidden)
  let labels ← (t.splitOn '.').mapM label?
  guard (labels.all isOk)
  let directions := labels.map fun l => l.shown.map Direction.of
  guard (!directions.any (·.any isRightToLeft) || directions.all directionsOk)
  return ['.'].intercalate (labels.map (·.ascii))

end NodeConsole.Url.Domain
