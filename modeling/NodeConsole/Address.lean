import NodeConsole.Text.Digits

/-! Internet addresses, read in any accepted spelling and written in the canonical one. -/
namespace NodeConsole

inductive Address
  | v4 (octets : Vector UInt8 4)
  | v6 (groups : Vector UInt16 8)
  deriving DecidableEq, Repr

namespace Address

/-- At most `limit` digits in `base`, with their number. -/
def digits (digit? : Char → Option Nat) (base limit : Nat) (n count : Nat) :
    List Char → Nat × Nat × List Char
  | [] => (n, count, [])
  | c :: s =>
    match digit? c with
    | some d =>
      if count < limit then digits digit? base limit (n * base + d) (count + 1) s
      else (n, count, c :: s)
    | none => (n, count, c :: s)

/-- A decimal number below 256 without leading zeros. -/
def octet? (s : List Char) : Option (UInt8 × List Char) :=
  let (n, count, r) := digits Text.decimalDigit? 10 4 0 0 s
  if count = 0 ∨ 3 < count ∨ 255 < n ∨ (1 < count ∧ s.head? = some '0') then none
  else some (n.toUInt8, r)

def given? (c : Char) : List Char → Option (List Char)
  | [] => none
  | d :: s => if d = c then some s else none

def dotted? (s : List Char) : Option (Vector UInt8 4 × List Char) := do
  let (a, s) ← octet? s
  let (b, s) ← octet? (← given? '.' s)
  let (c, s) ← octet? (← given? '.' s)
  let (d, s) ← octet? (← given? '.' s)
  return (#v[a, b, c, d], s)

/-- One to four hexadecimal digits. -/
def group? (s : List Char) : Option (UInt16 × List Char) :=
  let (n, count, r) := digits Text.hexDigit? 16 5 0 0 s
  if count = 0 ∨ 4 < count then none else some (n.toUInt16, r)

def pair (a b : UInt8) : UInt16 := (a.toNat * 256 + b.toNat).toUInt16

/-- Groups separated by colons, at most `limit`; the last two may be dotted. Whether they are, and
what follows the groups. -/
def groups (first : Bool) : (limit : Nat) → List Char → List UInt16 × Bool × List Char
  | 0, s => ([], false, s)
  | limit + 1, s =>
    match if first then some s else given? ':' s with
    | none => ([], false, s)
    | some t =>
      match if 0 < limit then dotted? t else none with
      | some (v, r) => ([pair v[0] v[1], pair v[2] v[3]], true, r)
      | none =>
        match group? t with
        | none => ([], false, s)
        | some (g, r) =>
          let (gs, dotted, r) := groups false limit r
          (g :: gs, dotted, r)

def toGroups? (gs : List UInt16) : Option (Vector UInt16 8) :=
  if h : gs.length = 8 then some ⟨gs.toArray, by simpa using h⟩ else none

def colons? (s : List Char) : Option (Vector UInt16 8 × List Char) := do
  let (front, dotted, r) := groups true 8 s
  if front.length = 8 then
    return (← toGroups? front, r)
  guard !dotted
  let r ← given? ':' (← given? ':' r)
  let (back, _, r) := groups true (7 - front.length) r
  return (← toGroups? (front ++ List.replicate (8 - front.length - back.length) 0 ++ back), r)

/-- A text that is a version 6 address and nothing else. -/
def v6? (s : List Char) : Option (Vector UInt16 8) :=
  match colons? s with
  | some (v, []) => some v
  | _ => none

def ofText? (s : String) : Option Address :=
  match dotted? s.toList with
  | some (v, []) => some (.v4 v)
  | _ => (v6? s.toList).map .v6

/-- Length of the run of zeros at the front. -/
def zeros (gs : List UInt16) : Nat := (gs.takeWhile (· == 0)).length

/-- Start and length of the first longest run of zeros among `gs`, which start at `at`. -/
def longestRun (start : Nat) : List UInt16 → Nat × Nat
  | [] => (start, 0)
  | g :: gs =>
    let here := zeros (g :: gs)
    let later := longestRun (start + 1) gs
    if later.2 ≤ here then (start, here) else later

def hexGroups (gs : List UInt16) : List Char :=
  [':'].intercalate (gs.map fun g => Text.hexAtLeast 1 g.toNat)

def octets (bs : List UInt8) : List Char :=
  ['.'].intercalate (bs.map fun b => (toString b.toNat).toList)

def high (g : UInt16) : UInt8 := (g.toNat / 256).toUInt8
def low (g : UInt16) : UInt8 := (g.toNat % 256).toUInt8

/-- Groups with the first longest run of two or more zeros left out. -/
def compressed (gs : List UInt16) : List Char :=
  let (start, n) := longestRun 0 gs
  if 1 < n then hexGroups (gs.take start) ++ [':', ':'] ++ hexGroups (gs.drop (start + n))
  else hexGroups gs

def text : Address → String
  | .v4 v => String.ofList (octets v.toList)
  | .v6 v =>
    String.ofList <|
      if v.toList.take 6 = [0, 0, 0, 0, 0, 0xFFFF] then
        "::ffff:".toList ++ octets [high v[6], low v[6], high v[7], low v[7]]
      else compressed v.toList

end Address
end NodeConsole
