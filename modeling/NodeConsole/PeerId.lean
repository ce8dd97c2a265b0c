import NodeConsole.Text.Blank
import NodeConsole.Text.Digits
import NodeConsole.Text.Utf8

/-! The identifier of a peer or a channel: sixteen bytes. -/
namespace NodeConsole

structure PeerId where
  bytes : Text.Bytes
  length_bytes : bytes.length = 16
  deriving DecidableEq, Repr

namespace PeerId

def zero : PeerId := ⟨List.replicate 16 0, by simp⟩

instance : Inhabited PeerId := ⟨zero⟩

def ofBytes? (bs : Text.Bytes) : Option PeerId :=
  if h : bs.length = 16 then some ⟨bs, h⟩ else none

def upperHexByte (b : UInt8) : List Char := (Text.hexByte b).map Char.toUpper

def text (id : PeerId) : String := String.ofList (id.bytes.flatMap upperHexByte)

/-- Bytes from pairs of digits; a plus sign may stand for the first digit of a pair. -/
def pairs? : List Char → Option Text.Bytes
  | [] => some []
  | [_] => none
  | a :: b :: s => do
    let n ← Text.signedValue? Text.hexDigit? 16 [a, b]
    let bs ← pairs? s
    return n.toUInt8 :: bs

/-- Reads an identifier with white space around it. -/
def ofText? (s : String) : Option PeerId := do
  let raw := Text.trim s.toList
  guard (raw.length = 32)
  ofBytes? (← pairs? raw)

/-- What is said of a text that is no identifier. -/
def invalid (s : String) : String := s!"invalid id '{s}': expected 32 hex digits"

def parse (s : String) : Except String PeerId :=
  match ofText? s with
  | some id => .ok id
  | none => .error (invalid s)

end PeerId
end NodeConsole
