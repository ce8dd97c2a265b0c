import NodeConsole.Text.Digits
import NodeConsole.Text.Printable

/-! Texts with every character visible. -/
namespace NodeConsole.Text

/-- What is escaped besides control characters and backslashes. -/
structure Escaping where
  single : Bool
  double : Bool
  extenders : Bool

def codePoint (c : Char) : List Char :=
  ['\\', 'u', '\x7b'] ++ hexAtLeast 1 c.toNat ++ ['\x7d']

def escapeChar (e : Escaping) (c : Char) : List Char :=
  match c with
  | '\x00' => ['\\', '0']
  | '\t' => ['\\', 't']
  | '\r' => ['\\', 'r']
  | '\n' => ['\\', 'n']
  | '\\' => ['\\', '\\']
  | _ =>
    if (c == '"' && e.double) || (c == '\'' && e.single) then ['\\', c]
    else if e.extenders && isExtender c then codePoint c
    else if isPrintable c then [c]
    else codePoint c

/-- A text in double quotes. Every extender is shown as a code point. -/
def quoted (s : List Char) : List Char :=
  ['"'] ++ s.flatMap (escapeChar ⟨false, true, true⟩) ++ ['"']

/-- A text without quotes around it; an extender may extend any character but a missing one. -/
def escaped : List Char → List Char
  | [] => []
  | c :: s => escapeChar ⟨true, true, true⟩ c ++ s.flatMap (escapeChar ⟨true, true, false⟩)

end NodeConsole.Text
