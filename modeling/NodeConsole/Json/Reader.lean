import NodeConsole.Text.Digits
import NodeConsole.Text.Utf8

/-! Reading values of a known shape from JSON notation, left to right. -/
namespace NodeConsole.Json

inductive Fault
  /-- The text ends within a value. -/
  | truncated
  /-- The text is no JSON. -/
  | malformed
  /-- The value has another shape than the one wanted. -/
  | misshapen
  deriving DecidableEq, Repr

abbrev Reader (α : Type) := List Char → Except Fault (α × List Char)

namespace Reader

def map {α β : Type} (f : α → β) (r : Reader α) : Reader β := fun s => do
  let (a, s) ← r s
  return (f a, s)

def isBlank (c : Char) : Bool := c == ' ' || c == '\n' || c == '\t' || c == '\r'

def skipBlanks (s : List Char) : List Char := s.dropWhile isBlank

/-- The rest of a word whose first letter has been seen. -/
def word : List Char → List Char → Except Fault (List Char)
  | [], s => .ok s
  | _ :: _, [] => .error .truncated
  | c :: cs, d :: s => if c = d then word cs s else .error .malformed

/-- The four digits of an escape. Fewer than four bytes before the end are a text cut short. -/
def codeUnit (s : List Char) : Except Fault (Nat × List Char) :=
  if (Text.encode (s.take 4)).length < 4 then .error .truncated
  else match s with
    | a :: b :: c :: d :: r =>
      match Text.valueOf? Text.hexDigit? 16 [a, b, c, d] with
      | some n => .ok (n, r)
      | none => .error .malformed
    | _ => .error .malformed

def isHigh (n : Nat) : Bool := 0xD800 ≤ n && n ≤ 0xDBFF
def isLow (n : Nat) : Bool := 0xDC00 ≤ n && n ≤ 0xDFFF

def expect (c : Char) : List Char → Except Fault (List Char)
  | [] => .error .truncated
  | d :: s => if c = d then .ok s else .error .malformed

/-- A character from one code unit or from a pair of them. -/
def codePoint (s : List Char) : Except Fault (Char × List Char) := do
  let (n, s) ← codeUnit s
  if isLow n then throw .malformed
  if isHigh n then
    let (m, s) ← codeUnit (← expect 'u' (← expect '\\' s))
    if isLow m then return (Char.ofNat ((n - 0xD800) * 1024 + (m - 0xDC00) + 0x10000), s)
    throw .malformed
  return (Char.ofNat n, s)

def simpleEscape? : Char → Option Char
  | '"' => some '"'
  | '\\' => some '\\'
  | '/' => some '/'
  | 'b' => some '\x08'
  | 'f' => some '\x0c'
  | 'n' => some '\n'
  | 'r' => some '\r'
  | 't' => some '\t'
  | _ => none

/-- What follows a backslash. -/
def escape : List Char → Except Fault (Char × List Char)
  | [] => .error .truncated
  | 'u' :: s => codePoint s
  | c :: s =>
    match simpleEscape? c with
    | some d => .ok (d, s)
    | none => .error .malformed

def skipEscape : List Char → Except Fault (List Char)
  | [] => .error .truncated
  | 'u' :: s => (codeUnit s).map (·.2)
  | c :: s => if (simpleEscape? c).isSome then .ok s else .error .malformed

/-- The text up to the closing quote; `out` is what has been read of it, last character first. -/
def textFrom : (fuel out s : List Char) → Except Fault (String × List Char)
  | [], _, _ | _, _, [] => .error .truncated
  | _ :: _, out, '"' :: s => .ok (String.ofList out.reverse, s)
  | _ :: fuel, out, '\\' :: s => do
    let (c, s) ← escape s
    textFrom fuel (c :: out) s
  | _ :: fuel, out, c :: s => if c < ' ' then .error .malformed else textFrom fuel (c :: out) s

/-- A text whose opening quote has been read. What is left is fuel enough, a character a turn. -/
def textBody (s : List Char) : Except Fault (String × List Char) := textFrom s [] s

def skipTextFrom : (fuel s : List Char) → Except Fault (List Char)
  | [], _ | _, [] => .error .truncated
  | _ :: _, '"' :: s => .ok s
  | _ :: fuel, '\\' :: s => do skipTextFrom fuel (← skipEscape s)
  | _ :: fuel, c :: s => if c < ' ' then .error .malformed else skipTextFrom fuel s

def skipTextBody (s : List Char) : Except Fault (List Char) := skipTextFrom s s

def isDigit (c : Char) : Bool := '0' ≤ c && c ≤ '9'

def digitValue (c : Char) : Nat := c.toNat - '0'.toNat

def isExponentMark (c : Char) : Bool := c == 'e' || c == 'E'

/-- At least one digit. What is said at the end of the text differs between reading and skipping. -/
def digits1 (atEnd : Fault) (s : List Char) : Except Fault (List Char × List Char) :=
  match s with
  | [] => .error atEnd
  | c :: _ => if isDigit c then .ok (s.takeWhile isDigit, s.dropWhile isDigit) else .error .malformed

/-- The digits before a fraction: a zero stands alone. -/
def wholePart (atEnd : Fault) (s : List Char) : Except Fault (List Char × List Char) := do
  let (ds, r) ← digits1 atEnd s
  match ds with
  | '0' :: _ :: _ => throw .malformed
  | _ => return (ds, r)

def fraction (atEnd : Fault) : List Char → Except Fault (List Char × List Char)
  | '.' :: s => digits1 atEnd s
  | s => .ok ([], s)

/-- The sign of an exponent and its digits, if there is one. -/
def exponent (atEnd : Fault) (s : List Char) :
    Except Fault (Option (Bool × List Char) × List Char) :=
  match s with
  | c :: r =>
    if isExponentMark c then do
      let (negative, r) := match r with
        | '+' :: r => (false, r)
        | '-' :: r => (true, r)
        | r => (false, r)
      let (ds, r) ← digits1 atEnd r
      return (some (negative, ds), r)
    else .ok (none, s)
  | [] => .ok (none, s)

def maxSignificand : Nat := UInt64.size - 1

/-- Digits onto a significand as long as it fits: the significand, how many digits it took, and the
digits left. -/
def extend (n count : Nat) : List Char → Nat × Nat × List Char
  | [] => (n, count, [])
  | c :: s =>
    if n * 10 + digitValue c ≤ maxSignificand then extend (n * 10 + digitValue c) (count + 1) s
    else (n, count, c :: s)

/-- `n` with the 53 leading bits that a floating number keeps, rounded half to even. -/
def rounded (n : Nat) : Nat :=
  let unit := Nat.pow 2 (n.log2 + 1 - 53)
  let q := n / unit
  let r := 2 * (n % unit)
  (if unit < r ∨ (unit = r ∧ q % 2 = 1) then q + 1 else q) * unit

/-- Products from here on are no floating numbers. -/
def infinite : Nat := Nat.pow 2 1024 - Nat.pow 2 970

/-- A number that is no integer has no value here; all that counts is whether it is too large. -/
def tooLarge (whole frac : List Char) (exponent : Option (Bool × List Char)) : Bool :=
  let (n, _, excess) := extend 0 0 whole
  let (n, taken, _) := extend n 0 frac
  let base : Int := (excess.length : Int) - taken
  match exponent with
  | none => overflows n base
  | some (negative, ds) =>
    let e := ds.foldl (fun e c => e * 10 + digitValue c) 0
    if Nat.pow 2 31 ≤ e then n ≠ 0 && !negative
    else overflows n (if negative then base - e else base + e)
where
  overflows (n : Nat) (e : Int) : Bool :=
    n ≠ 0 && 0 ≤ e && (308 < e || infinite ≤ rounded n * rounded (Nat.pow 10 e.toNat))

/-- A number after its sign; it has a value if it is an integer below `2 ^ 64`. -/
def number (s : List Char) : Except Fault (Option Nat × List Char) := do
  let (whole, r) ← wholePart .truncated s
  let (frac, r) ← fraction .truncated r
  let (exp, r) ← exponent .truncated r
  let (n, _, excess) := extend 0 0 whole
  if frac.isEmpty && exp.isNone && excess.isEmpty then return (some n, r)
  if tooLarge whole frac exp then throw .malformed
  return (none, r)

def skipNumber (s : List Char) : Except Fault (List Char) := do
  let (_, r) ← wholePart .malformed s
  let (_, r) ← fraction .malformed r
  let (_, r) ← exponent .malformed r
  return r

/-- A value that is not what is wanted. Literals, numbers and texts are read to their end first. -/
def mismatch : List Char → Except Fault (List Char)
  | [] => .error .truncated
  | 'n' :: s => do discard (word ['u', 'l', 'l'] s); throw .misshapen
  | 't' :: s => do discard (word ['r', 'u', 'e'] s); throw .misshapen
  | 'f' :: s => do discard (word ['a', 'l', 's', 'e'] s); throw .misshapen
  | '-' :: s => do discard (number s); throw .misshapen
  | '"' :: s => do discard (textBody s); throw .misshapen
  | '[' :: _ => .error .misshapen
  | c :: s =>
    if isDigit c then do discard (number (c :: s)); throw .misshapen
    else if c = '\x7b' then .error .misshapen
    else .error .malformed

/-- The failure of a reader that has met a value of another shape. -/
def refuse {α : Type} : Reader α := fun s =>
  match mismatch s with
  | .error f => .error f
  | .ok _ => .error .misshapen

inductive Bracket
  | list | object
  deriving DecidableEq, Repr

def Bracket.close : Bracket → Char
  | .list => ']'
  | .object => '\x7d'

/-- A value without parts, or the bracket that opens one with parts. -/
def skipScalar (s : List Char) : Except Fault (Option Bracket × List Char) :=
  match s with
  | [] => .error .truncated
  | 'n' :: s => (word ['u', 'l', 'l'] s).map (none, ·)
  | 't' :: s => (word ['r', 'u', 'e'] s).map (none, ·)
  | 'f' :: s => (word ['a', 'l', 's', 'e'] s).map (none, ·)
  | '-' :: s => (skipNumber s).map (none, ·)
  | '"' :: s => (skipTextBody s).map (none, ·)
  | '[' :: s => .ok (some .list, s)
  | c :: r =>
    if isDigit c then (skipNumber s).map (none, ·)
    else if c = '\x7b' then .ok (some .object, r)
    else .error .malformed

/-- The name of a field and the colon after it. -/
def skipName (s : List Char) : Except Fault (List Char) := do
  let s ← expect '"' (skipBlanks s)
  expect ':' (skipBlanks (← skipTextBody s))

/-- Closes brackets up to the next part, if there is one; `first` says that nothing is in the
innermost one yet. -/
def skipCloses (first : Bool) : List Bracket → List Char → Except Fault (List Bracket × List Char)
  | [], s => .ok ([], s)
  | b :: bs, s =>
    match skipBlanks s with
    | [] => .error .truncated
    | c :: r =>
      if c = b.close then skipCloses false bs r
      else if first then .ok (b :: bs, c :: r)
      else if c = ',' then .ok (b :: bs, r)
      else .error .malformed

/-- Passes over one value, and then over what is left of the brackets open around it. -/
def skipFrom : (fuel : List Char) → List Bracket → List Char → Except Fault (List Char)
  | [], _, _ => .error .truncated
  | _ :: fuel, around, s => do
    let (opened, s) ← skipScalar (skipBlanks s)
    let (around, s) ← match opened with
      | some b => skipCloses true (b :: around) s
      | none => skipCloses false around s
    match around with
    | [] => return s
    | .list :: _ => skipFrom fuel around s
    | .object :: _ => skipFrom fuel around (← skipName s)

def skip (s : List Char) : Except Fault (List Char) := skipFrom s [] s

/-- An integer below `bound`. -/
def nat (bound : Nat) : Reader Nat := fun s =>
  match skipBlanks s with
  | [] => .error .truncated
  | c :: r =>
    if isDigit c then do
      let (n, r) ← number (c :: r)
      match n with
      | some n => if n < bound then return (n, r) else throw .misshapen
      | none => throw .misshapen
    else refuse (c :: r)

def text : Reader String := fun s =>
  match skipBlanks s with
  | '"' :: r => textBody r
  | r => refuse r

/-- A text of which `f` makes the value. -/
def textOf {α : Type} (f : String → Option α) : Reader α := fun s => do
  let (t, r) ← text s
  match f t with
  | some a => return (a, r)
  | none => throw .misshapen

def optional {α : Type} (read : Reader α) : Reader (Option α) := fun s =>
  match skipBlanks s with
  | 'n' :: r => (word ['u', 'l', 'l'] r).map (none, ·)
  | r => map some read r

def unit : Reader Unit := fun s =>
  match skipBlanks s with
  | 'n' :: r => (word ['u', 'l', 'l'] r).map ((), ·)
  | r => refuse r

/-- Whether another element follows, and the text from there on. -/
def another (first : Bool) (s : List Char) : Except Fault (Bool × List Char) :=
  match skipBlanks s with
  | [] => .error .truncated
  | ']' :: r => .ok (false, ']' :: r)
  | c :: r =>
    if first then .ok (true, c :: r)
    else if c = ',' then
      match skipBlanks r with
      | [] => .error .truncated
      | ']' :: _ => .error .malformed
      | r => .ok (true, r)
    else .error .malformed

def listFrom {α : Type} (read : Reader α) :
    (fuel : List Char) → (first : Bool) → (out : List α) → Reader (List α)
  | [], _, _, _ => .error .truncated
  | _ :: fuel, first, out, s => do
    let (more, s) ← another first s
    if more then
      let (a, s) ← read s
      listFrom read fuel false (a :: out) s
    else return (out.reverse, s.drop 1)

def list {α : Type} (read : Reader α) : Reader (List α) := fun s =>
  match skipBlanks s with
  | '[' :: r => listFrom read ('[' :: r) true [] r
  | r => refuse r

/-- A word for each of several values, which may also stand in braces with a null. -/
def choice {α : Type} (f : String → Option α) : Reader α := fun s =>
  match skipBlanks s with
  | [] => .error .truncated
  | c :: r =>
    if c = '"' then textOf f (c :: r)
    else if c = '\x7b' then do
      let (a, r) ← textOf f r
      let ((), r) ← unit (← expect ':' (skipBlanks r))
      return (a, ← expect '\x7d' (skipBlanks r))
    else .error .malformed

/-- A field of a record `σ`. -/
structure Field (σ : Type) where
  name : String
  read : Reader (σ → σ)
  /-- The field may be missing in an object. -/
  optional : Bool := false
  /-- The field may be missing at the end of a list. -/
  trailing : Bool := false

/-- Whether another name follows, and the text after its opening quote. -/
def anotherName (first : Bool) (s : List Char) : Except Fault (Bool × List Char) :=
  match skipBlanks s with
  | [] => .error .truncated
  | c :: r =>
    if c = '\x7d' then .ok (false, r)
    else if first then
      if c = '"' then .ok (true, r) else .error .malformed
    else if c = ',' then (expect '"' (skipBlanks r)).map (true, ·)
    else .error .malformed

/-- The fields of an object; `seen` are the names of the known ones so far. -/
def objectFrom {σ : Type} (fields : List (Field σ)) :
    (fuel : List Char) → (first : Bool) → (seen : List String) → σ → Reader σ
  | [], _, _, _, _ => .error .truncated
  | _ :: fuel, first, seen, a, s => do
    let (more, s) ← anotherName first s
    if more then
      let (name, s) ← textBody s
      match fields.find? (·.name = name) with
      | some f =>
        if seen.contains name then throw .misshapen
        let (set, s) ← f.read (← expect ':' (skipBlanks s))
        objectFrom fields fuel false (name :: seen) (set a) s
      | none =>
        let s ← skip (← expect ':' (skipBlanks s))
        objectFrom fields fuel false seen a s
    else if fields.all fun f => f.optional || seen.contains f.name then return (a, s)
    else throw .misshapen

/-- The fields of a record written as a list. -/
def elements {σ : Type} : (fields : List (Field σ)) → (first : Bool) → σ → Reader σ
  | [], _, a, s => (expect ']' (skipBlanks s)).map (a, ·)
  | f :: fs, first, a, s => do
    let (more, s) ← another first s
    if more then
      let (set, s) ← f.read s
      elements fs false (set a) s
    else if (f :: fs).all (·.trailing) then return (a, s.drop 1)
    else throw .misshapen

/-- A record that starts as `a` and gets the fields that the text gives. -/
def record {σ : Type} (fields : List (Field σ)) (a : σ) : Reader σ := fun s =>
  match skipBlanks s with
  | [] => .error .truncated
  | c :: r =>
    if c = '[' then elements fields true a r
    else if c = '\x7b' then objectFrom fields (c :: r) true [] a r
    else refuse (c :: r)

/-- Reads a whole text. -/
def run {α : Type} (read : Reader α) (s : String) : Except Fault α := do
  let (a, r) ← read s.toList
  if (skipBlanks r).isEmpty then return a else throw .malformed

end Reader
end NodeConsole.Json
