import NodeConsole.Text.Escaped
import NodeConsole.Text.Utf8

/-! Atoms, the messages of the peer protocol, and their encoding. -/
namespace NodeConsole
open Text (Bytes)

structure AtomId where
  (b₀ b₁ b₂ b₃ : UInt8)
  deriving DecidableEq, Repr

namespace AtomId

def bytes (id : AtomId) : Bytes := [id.b₀, id.b₁, id.b₂, id.b₃]

def ofBytes? : Bytes → Option AtomId
  | [a, b, c, d] => some ⟨a, b, c, d⟩
  | _ => none

/-- The identifier without the zero bytes at its end, every character visible. -/
def text (id : AtomId) : String :=
  let s := (Text.decode id.bytes).reverse.dropWhile (· == '\x00')
  String.ofList (Text.escaped s.reverse)

end AtomId

inductive Atom
  | leaf (id : AtomId) (data : Bytes)
  | parent (id : AtomId) (children : List Atom)
  deriving Repr

namespace Atom

/-- The bytes of a word, least significant first. -/
def word (n : UInt32) : Bytes :=
  [n.toUInt8, (n >>> 8).toUInt8, (n >>> 16).toUInt8, (n >>> 24).toUInt8]

def ofWord (a b c d : UInt8) : UInt32 :=
  a.toUInt32 ||| (b.toUInt32 <<< 8) ||| (c.toUInt32 <<< 16) ||| (d.toUInt32 <<< 24)

/-- Marks a word that counts children. -/
def parentBit : UInt32 := 0x80000000

def leafHeader (id : AtomId) (length : Nat) : Bytes := id.bytes ++ word length.toUInt32

def parentHeader (id : AtomId) (count : Nat) : Bytes :=
  id.bytes ++ word (count.toUInt32 ||| parentBit)

mutual
def encode : Atom → Bytes
  | leaf id data => leafHeader id data.length ++ data
  | parent id children => parentHeader id children.length ++ encodeAll children

def encodeAll : List Atom → Bytes
  | [] => []
  | a :: s => encode a ++ encodeAll s
end

def int (id : AtomId) (n : UInt32) : Atom := leaf id (word n)

/-- A text ends with a zero byte. -/
def text (id : AtomId) (s : String) : Atom := leaf id (Text.bytes s ++ [0])

def id : Atom → AtomId
  | leaf id _ | parent id _ => id

def data? : Atom → Option Bytes
  | leaf _ data => some data
  | parent .. => none

/-- The first child with an identifier. -/
def child? (id : AtomId) : Atom → Option Atom
  | leaf .. => none
  | parent _ children => children.find? (·.id = id)

def int? (a : Atom) : Option UInt32 :=
  match a.data? with
  | some [x, y, z, w] => some (ofWord x y z w)
  | _ => none

/-- The text up to the first zero byte. -/
def text? (a : Atom) : Option String :=
  a.data?.map fun data => String.ofList (Text.decode (data.takeWhile (· ≠ 0)))

end Atom
end NodeConsole
