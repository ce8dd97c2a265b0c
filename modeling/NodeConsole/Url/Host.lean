import NodeConsole.Address
import NodeConsole.Text.Utf8
import NodeConsole.Url.Domain

/-! The hosts of URLs: domains and addresses. -/
namespace NodeConsole.Url
open Text (Bytes)

inductive Fault
  | relative
  | emptyHost
  | invalidPort
  | invalidV4
  | invalidV6
  /-- A domain that has no form in ASCII. -/
  | invalidDomain
  /-- A character that no host has. -/
  | invalidHostCharacter
  deriving DecidableEq, Repr

def Fault.message : Fault → String
  | .relative => "relative URL without a base"
  | .emptyHost => "empty host"
  | .invalidPort => "invalid port number"
  | .invalidV4 => "invalid IPv4 address"
  | .invalidV6 => "invalid IPv6 address"
  | .invalidDomain => "invalid international domain name"
  | .invalidHostCharacter => "invalid domain character"

inductive Host
  | domain (s : List Char)
  | address (a : Address)
  deriving DecidableEq, Repr

namespace Host

def text : Host → List Char
  | domain s => s
  | address (.v4 v) => Address.octets v.toList
  | address (.v6 v) => '[' :: Address.compressed v.toList ++ [']']

/-- Bytes with each percent sign and two digits made into the byte that they stand for. -/
def unescaped : Bytes → Bytes
  | [] => []
  | b :: s =>
    match b, s with
    | 0x25, x :: y :: r =>
      match Text.hexDigit? (Char.ofNat x.toNat), Text.hexDigit? (Char.ofNat y.toNat) with
      | some m, some n => (m * 16 + n).toUInt8 :: unescaped r
      | _, _ => 0x25 :: unescaped (x :: y :: r)
    | b, s => b :: unescaped s

def digitsIn? (base : Nat) (s : List Char) : Option Nat :=
  Text.valueOf? (fun c => (Text.hexDigit? c).filter (· < base)) base s

/-- A number in decimal, in octal after a zero, or in hexadecimal after `0x`. -/
def part? : List Char → Option Nat
  | [] => none
  | '0' :: 'x' :: s | '0' :: 'X' :: s => digitsIn? 16 s
  | '0' :: c :: s => digitsIn? 8 (c :: s)
  | s => digitsIn? 10 s

/-- The labels without an empty one at the end. -/
def labels (s : List Char) : List (List Char) :=
  let ps := s.splitOn '.'
  if ps.getLast? = some [] then ps.dropLast else ps

def endsInNumber (s : List Char) : Bool :=
  match (labels s).getLast? with
  | none => false
  | some p => (!p.isEmpty && p.all fun c => (Text.decimalDigit? c).isSome) || (part? p).isSome

/-- The last part fills the octets that the others leave. -/
def assemble? : (room : Nat) → List Nat → Option Nat
  | _, [] => none
  | room, [n] => if n < Nat.pow 256 room then some n else none
  | room, n :: ns => do
    guard (n < 256)
    return n * Nat.pow 256 (room - 1) + (← assemble? (room - 1) ns)

def v4? (s : List Char) : Option Address := do
  let parts := labels s
  guard (parts.length ≤ 4)
  let n ← assemble? 4 (← parts.mapM part?)
  let octet (k : Nat) : UInt8 := (n / Nat.pow 256 k).toUInt8
  return .v4 #v[octet 3, octet 2, octet 1, octet 0]

def bracketed (s : List Char) : Except Fault Host :=
  match s.getLast? with
  | some ']' =>
    match Address.v6? s.dropLast with
    | some v => .ok (.address (.v6 v))
    | none => .error .invalidV6
  | _ => .error .invalidV6

/-- The host of a URL whose scheme is special. -/
def ofText : List Char → Except Fault Host
  | '[' :: s => bracketed s
  | s =>
    match Domain.ofText? (Text.decode (unescaped (Text.encode s))) with
    | none => .error .invalidDomain
    | some [] => .error .emptyHost
    | some d =>
      if endsInNumber d then
        match v4? d with
        | some a => .ok (.address a)
        | none => .error .invalidV4
      else .ok (.domain d)

/-- Characters that the host of no URL has. -/
def isForbiddenAnywhere (c : Char) : Bool :=
  ['\x00', '\t', '\n', '\r', ' ', '#', '/', ':', '<', '>', '?', '@', '[', '\\', ']', '^', '|'].contains c

/-- Checks the host of a URL whose scheme is not special. -/
def checkOpaque : List Char → Except Fault Unit
  | '[' :: s => (bracketed s).map fun _ => ()
  | s => if s.any isForbiddenAnywhere then .error .invalidHostCharacter else .ok ()

end Host
end NodeConsole.Url
