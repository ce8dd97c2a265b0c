import NodeConsole.Words

/-! The words of a line, one character at a time in three modes. -/
namespace NodeConsole.Words

inductive Mode
  | outside | quoted
  /-- After a backslash inside quotes. -/
  | escaped
  deriving DecidableEq, Repr

structure Machine where
  mode : Mode := .outside
  /-- Last first, as the words are. -/
  word : List Char := []
  words : List String := []
  deriving DecidableEq, Repr

namespace Machine

def keep (c : Char) (m : Machine) : Machine := { m with word := c :: m.word }

/-- The words with the one up to here. -/
def emitted (m : Machine) : List String := String.ofList m.word.reverse :: m.words

/-- A space ends a word that is not empty. -/
def separate (m : Machine) : Machine :=
  { m with word := [], words := if m.word = [] then m.words else m.emitted }

/-- A closing quote ends a word in any case. -/
def close (m : Machine) : Machine := { mode := .outside, word := [], words := m.emitted }

def step (m : Machine) (c : Char) : Machine :=
  match m.mode with
  | .outside =>
    if c = ' ' then m.separate else if c = '"' then { m with mode := .quoted } else m.keep c
  | .quoted =>
    if c = '"' then m.close else if c = '\\' then { m with mode := .escaped } else m.keep c
  | .escaped => { m.keep c with mode := .quoted }

def finish (m : Machine) : Except LineFault (List String) :=
  match m.mode with
  | .outside => .ok m.separate.words.reverse
  | .quoted => .error .quoteOpen
  | .escaped => .error .escapeOpen

def run (line : List Char) : Machine := line.foldl step {}

end Machine
end NodeConsole.Words
