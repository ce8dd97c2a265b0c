import NodeConsole.Text.Utf8

/-! Paths of files, told apart by their names. -/
namespace NodeConsole

structure Path where
  absolute : Bool
  names : List (List Char)
  deriving DecidableEq, Repr

namespace Path

/-- The name that leads nowhere else, and the one that leads to the directory above. -/
def here : List Char := ['.']
def above : List Char := ['.', '.']

/-- What stands between the slashes of a text. -/
def namesOf (s : String) : List (List Char) := (s.toList.splitOn '/').filter (· ≠ [])

def startsAtRoot (s : String) : Bool := s.toList.head? = some '/'

def ofText (s : String) : Path :=
  let absolute := startsAtRoot s
  match namesOf s with
  | ['.'] :: rest => ⟨absolute, (if absolute then [] else [here]) ++ rest.filter (· ≠ here)⟩
  | names => ⟨absolute, names.filter (· ≠ here)⟩

/-- The directory that `p` is in; the root is in itself. -/
def up (p : Path) : Path :=
  match p.names.getLast? with
  | none => if p.absolute then p else { p with names := [above] }
  | some n => { p with names := if n = above then p.names ++ [above] else p.names.dropLast }

def below (p : Path) (name : List Char) : Path := { p with names := p.names ++ [name] }

def same (p q : String) : Bool := ofText p = ofText q

/-- Takes slashes, and dots between them, off the end of a path that is given last character
first; the slash of the root stays. -/
def dropSlashes : List Char → List Char
  | ['/'] => ['/']
  | '/' :: s => dropSlashes s
  | '.' :: '/' :: s => dropSlashes ('/' :: s)
  | s => s
termination_by s => s.length

/-- The text of the directory that a path stands in: nothing for a path without names, and an empty
text for a single name. -/
def parent? (s : String) : Option String :=
  match dropSlashes s.toList.reverse with
  | [] | ['/'] => none
  | r => some (String.ofList (dropSlashes (r.dropWhile (· ≠ '/'))).reverse)

end Path
end NodeConsole
