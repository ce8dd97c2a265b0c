/-! Numbers in digits: decimal, and hexadecimal of fixed width. -/
namespace NodeConsole.Text

def decimalDigit? (c : Char) : Option Nat :=
  if '0' ≤ c && c ≤ '9' then some (c.toNat - '0'.toNat) else none

def hexDigit? (c : Char) : Option Nat :=
  if '0' ≤ c && c ≤ '9' then some (c.toNat - '0'.toNat)
  else if 'a' ≤ c && c ≤ 'f' then some (c.toNat - 'a'.toNat + 10)
  else if 'A' ≤ c && c ≤ 'F' then some (c.toNat - 'A'.toNat + 10)
  else none

/-- The value of a text that is all digits in `base`, most significant first. -/
def valueOf? (digit? : Char → Option Nat) (base : Nat) (s : List Char) : Option Nat :=
  s.foldl (fun acc c => do return (← acc) * base + (← digit? c)) (some 0)

/-- At least one digit, after at most one plus sign. -/
def signedValue? (digit? : Char → Option Nat) (base : Nat) (s : List Char) : Option Nat :=
  let digits := match s with
    | '+' :: r => r
    | s => s
  if digits.isEmpty then none else valueOf? digit? base digits

def natural? (s : List Char) : Option Nat := signedValue? decimalDigit? 10 s

def hexDigit (n : Nat) : Char :=
  Char.ofNat (if n < 10 then '0'.toNat + n else 'a'.toNat + (n - 10))

/-- The last `width` hexadecimal digits of `n`, in lower case. -/
def hex (width n : Nat) : List Char :=
  match width with
  | 0 => []
  | w + 1 => hex w (n / 16) ++ [hexDigit (n % 16)]

/-- As many hexadecimal digits as `n` needs, at least `width`. -/
def hexAtLeast (width n : Nat) : List Char :=
  let digits := (Nat.toDigits 16 n)
  List.replicate (width - digits.length) '0' ++ digits

def hexByte (b : UInt8) : List Char := hex 2 b.toNat

end NodeConsole.Text
