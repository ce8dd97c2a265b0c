import NodeConsole.Text.Blank
import NodeConsole.Text.Digits

/-! The address of a peer, in one of four forms. -/
namespace NodeConsole

structure Host where
  name : String
  port : UInt16
  deriving DecidableEq, Repr

namespace Host

def port? (s : List Char) : Option UInt16 := do
  let n ← Text.natural? s
  if 0 < n ∧ n < 65536 then some n.toUInt16 else none

/-- The text before the first `c` and the text after it. -/
def cut? (c : Char) : List Char → Option (List Char × List Char)
  | [] => none
  | d :: s => if d = c then some ([], s) else (cut? c s).map fun (a, b) => (d :: a, b)

/-- The part after an opening bracket. -/
def bracketed? (default : UInt16) (s : List Char) : Option Host := do
  let (name, tail) ← cut? ']' s
  let port ← match tail with
    | [] => some default
    | ':' :: p => port? p
    | _ => none
  if name.isEmpty then none else some ⟨String.ofList name, port⟩

def plain? (default : UInt16) (s : List Char) : Option Host := do
  let (name, port) ← match cut? ':' s with
    | some (name, p) => if p.contains ':' then some (s, default) else (port? p).map (name, ·)
    | none => some (s, default)
  if name.isEmpty || name.any Text.isBlank then none else some ⟨String.ofList name, port⟩

/-- `default` is the port of an address that gives none. -/
def ofText? (default : UInt16) (s : String) : Option Host :=
  match Text.trim s.toList with
  | '[' :: r => bracketed? default r
  | r => plain? default r

def text (h : Host) : String :=
  if h.name.toList.contains ':' then s!"[{h.name}]:{h.port.toNat}" else s!"{h.name}:{h.port.toNat}"

end Host
end NodeConsole
