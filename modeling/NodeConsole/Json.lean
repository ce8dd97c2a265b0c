import NodeConsole.Text.Digits

/-! Values in JSON notation, without fractions and negative numbers. -/
namespace NodeConsole

inductive Json
  | null
  | nat (n : Nat)
  | text (s : String)
  | list (xs : List Json)
  /-- In the order in which the fields are written. -/
  | object (fields : List (String × Json))
  deriving Repr, Inhabited

namespace Json

def ofOption {α : Type} (f : α → Json) : Option α → Json
  | none => null
  | some a => f a

def escape (c : Char) : List Char :=
  match c with
  | '"' => ['\\', '"']
  | '\\' => ['\\', '\\']
  | '\n' => ['\\', 'n']
  | '\r' => ['\\', 'r']
  | '\t' => ['\\', 't']
  | '\x08' => ['\\', 'b']
  | '\x0c' => ['\\', 'f']
  | c => if c < ' ' then '\\' :: 'u' :: Text.hex 4 c.toNat else [c]

def writeText (s : String) : List Char := '"' :: s.toList.flatMap escape ++ ['"']

def writeNat (n : Nat) : List Char := Nat.toDigits 10 n

mutual
def compact : Json → List Char
  | null => ['n', 'u', 'l', 'l']
  | nat n => writeNat n
  | text s => writeText s
  | list xs => '[' :: compactList xs ++ [']']
  | object fs => '\x7b' :: compactFields fs ++ ['\x7d']

def compactList : List Json → List Char
  | [] => []
  | [x] => compact x
  | x :: xs => compact x ++ ',' :: compactList xs

def compactFields : List (String × Json) → List Char
  | [] => []
  | [(k, v)] => writeText k ++ ':' :: compact v
  | (k, v) :: fs => writeText k ++ ':' :: compact v ++ ',' :: compactFields fs
end

/-- A new line at a level. -/
def indent (level : Nat) : List Char := '\n' :: List.replicate (2 * level) ' '

mutual
def prettyAt (level : Nat) : Json → List Char
  | null => ['n', 'u', 'l', 'l']
  | nat n => writeNat n
  | text s => writeText s
  | list [] => ['[', ']']
  | list (x :: xs) => '[' :: prettyList (level + 1) (x :: xs) ++ indent level ++ [']']
  | object [] => ['\x7b', '\x7d']
  | object (f :: fs) =>
    '\x7b' :: prettyFields (level + 1) (f :: fs) ++ indent level ++ ['\x7d']

def prettyList (level : Nat) : List Json → List Char
  | [] => []
  | [x] => indent level ++ prettyAt level x
  | x :: xs => indent level ++ prettyAt level x ++ ',' :: prettyList level xs

def prettyFields (level : Nat) : List (String × Json) → List Char
  | [] => []
  | [(k, v)] => indent level ++ writeText k ++ ':' :: ' ' :: prettyAt level v
  | (k, v) :: fs =>
    indent level ++ writeText k ++ ':' :: ' ' :: prettyAt level v ++ ',' :: prettyFields level fs
end

def pretty (j : Json) : List Char := prettyAt 0 j

end Json
end NodeConsole
