/-! Texts as bytes in UTF-8. -/
namespace NodeConsole.Text

abbrev Bytes := List UInt8

def encode (s : List Char) : Bytes := s.flatMap String.utf8EncodeChar

def bytes (s : String) : Bytes := encode s.toList

theorem encode_cons (c : Char) (s : List Char) :
    encode (c :: s) = String.utf8EncodeChar c ++ encode s := List.flatMap_cons

theorem bytes_append (a b : String) : bytes (a ++ b) = bytes a ++ bytes b := by
  simp [bytes, encode]

namespace Utf8

/-- What has been read of the current character. -/
inductive State
  | start
  /-- `need` more bytes, the next between `lo` and `hi`; `value` holds the bits so far. -/
  | within (need : Nat) (lo hi : UInt8) (value : Nat)
  deriving DecidableEq, Repr

/-- The state after the first byte of a longer character. -/
def lead (b : UInt8) : Option State :=
  if 0xC2 ≤ b && b ≤ 0xDF then some (.within 1 0x80 0xBF (b.toNat - 0xC0))
  else if b == 0xE0 then some (.within 2 0xA0 0xBF 0)
  else if b == 0xED then some (.within 2 0x80 0x9F 13)
  else if 0xE1 ≤ b && b ≤ 0xEF then some (.within 2 0x80 0xBF (b.toNat - 0xE0))
  else if b == 0xF0 then some (.within 3 0x90 0xBF 0)
  else if 0xF1 ≤ b && b ≤ 0xF3 then some (.within 3 0x80 0xBF (b.toNat - 0xF0))
  else if b == 0xF4 then some (.within 3 0x80 0x8F 4)
  else none

def replacement : Char := '\uFFFD'

/-- A byte between characters; `out` holds the text so far, last character first. -/
def first (out : List Char) (b : UInt8) : State × List Char :=
  if b < 0x80 then (.start, Char.ofNat b.toNat :: out)
  else match lead b with
    | some q => (q, out)
    | none => (.start, replacement :: out)

def step : State × List Char → UInt8 → State × List Char
  | (.start, out), b => first out b
  | (.within need lo hi value, out), b =>
    if lo ≤ b && b ≤ hi then
      let value := value * 64 + (b.toNat - 0x80)
      if need ≤ 1 then (.start, Char.ofNat value :: out)
      else (.within (need - 1) 0x80 0xBF value, out)
    else first (replacement :: out) b

def finish : State × List Char → List Char
  | (.start, out) => out.reverse
  | (.within .., out) => (replacement :: out).reverse

end Utf8

/-- Each longest part that begins no character becomes one replacement character. -/
def decode (bs : Bytes) : List Char := Utf8.finish (bs.foldl Utf8.step (.start, []))

/-- The text of bytes that are UTF-8 throughout. -/
def decode? (bs : Bytes) : Option (List Char) :=
  let s := decode bs
  if encode s = bs then some s else none

end NodeConsole.Text
