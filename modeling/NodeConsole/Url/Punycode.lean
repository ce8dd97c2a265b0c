/-! Domain labels in ASCII, by Punycode. -/
namespace NodeConsole.Url.Punycode

def digit (n : Nat) : Char := Char.ofNat (if n < 26 then 'a'.toNat + n else '0'.toNat + (n - 26))

def digit? (c : Char) : Option Nat :=
  if 'a' ≤ c && c ≤ 'z' then some (c.toNat - 'a'.toNat)
  else if 'A' ≤ c && c ≤ 'Z' then some (c.toNat - 'A'.toNat)
  else if '0' ≤ c && c ≤ '9' then some (c.toNat - '0'.toNat + 26)
  else none

/-- Digits below the threshold end a number. -/
def threshold (k bias : Nat) : Nat := max 1 (min 26 (k - bias))

/-- Brings a distance down, 36 more for each division. -/
def scale (delta k : Nat) : Nat :=
  if 455 < delta then scale (delta / 35) (k + 36) else k + 36 * delta / (delta + 38)
termination_by delta
decreasing_by exact Nat.div_lt_self (by omega) (by decide)

def adapt (delta points : Nat) (first : Bool) : Nat :=
  let delta := if first then delta / 700 else delta / 2
  scale (delta + delta / points) 0

/-- A number as digits, least significant first. -/
def number (bias k n : Nat) : List Char :=
  let t := threshold k bias
  if n < t then [digit n] else digit (t + (n - t) % (36 - t)) :: number bias (k + 36) ((n - t) / (36 - t))
termination_by n
decreasing_by
  have : 1 ≤ threshold k bias := Nat.le_max_left ..
  exact Nat.lt_of_le_of_lt (Nat.div_le_self ..) (by omega)

structure Encoder where
  /-- Last first. -/
  out : List Char := []
  delta : Nat := 0
  bias : Nat := 72
  handled : Nat

/-- Passes `c` while the characters of code point `m` are placed. -/
def pass (basic m : Nat) (e : Encoder) (c : Char) : Encoder :=
  if c.toNat < m then { e with delta := e.delta + 1 }
  else if c.toNat = m then
    { out := (number e.bias 36 e.delta).reverse ++ e.out
      delta := 0
      bias := adapt e.delta (e.handled + 1) (e.handled = basic)
      handled := e.handled + 1 }
  else e

/-- Places the characters of each code point in `ms`, ascending; those below `n` are placed. -/
def placeAll (s : List Char) (basic : Nat) : List Nat → Nat → Encoder → Encoder
  | [], _, e => e
  | m :: ms, n, e =>
    let e := { e with delta := e.delta + (m - n) * (e.handled + 1) }
    let e := s.foldl (pass basic m) e
    placeAll s basic ms (m + 1) { e with delta := e.delta + 1 }

def isPlain (c : Char) : Bool := c.toNat < 128

/-- The code points outside ASCII, ascending, each once. -/
def others (s : List Char) : List Nat :=
  (((s.filter fun c => !isPlain c).map Char.toNat).mergeSort (· ≤ ·)).eraseReps

def encode (s : List Char) : List Char :=
  let plain := s.filter isPlain
  let e := placeAll s plain.length (others s) 128 { handled := plain.length }
  plain ++ (if plain.isEmpty then [] else ['-']) ++ e.out.reverse

/-- Numbers, weights and code points stay below this. -/
def bound : Nat := 0x100000000

/-- The number, if it is below the bound. -/
def bounded? (n : Nat) : Option Nat := if n < bound then some n else none

/-- A number, added onto `i`, and what follows it. -/
def number? (bias : Nat) : List Char → (k weight i : Nat) → Option (Nat × List Char)
  | [], _, _, _ => none
  | c :: s, k, weight, i => do
    let d ← digit? c
    let t := threshold k bias
    let j ← bounded? (i + d * weight)
    if d < t then return (j, s)
    else number? bias s (k + 36) (← bounded? (weight * (36 - t))) j

/-- Puts the characters that `s` places into `out`; a number takes a character of `fuel`. -/
def insertAll : (fuel : List Char) → (bias n i : Nat) → (out s : List Char) → Option (List Char)
  | _, _, _, _, out, [] => some out
  | [], _, _, _, _, _ => none
  | _ :: fuel, bias, n, i, out, s => do
    let (j, s) ← number? bias s 36 1 i
    let points := out.length + 1
    let m := n + j / points
    if m.isValidChar then
      let place := j % points
      insertAll fuel (adapt (j - i) points (i = 0)) m (place + 1)
        (out.take place ++ Char.ofNat m :: out.drop place) s
    else none

/-- The part before the last hyphen and the part after it; a hyphen with nothing before it belongs
to the numbers. -/
def split (s : List Char) : List Char × List Char :=
  let tail := s.reverse.takeWhile (· ≠ '-')
  match (s.reverse.drop (tail.length + 1)).reverse with
  | [] => ([], s)
  | plain => (plain, tail.reverse)

def decode? (s : List Char) : Option (List Char) :=
  let (plain, rest) := split s
  if plain.all isPlain then insertAll rest 72 128 0 plain rest else none

end NodeConsole.Url.Punycode
