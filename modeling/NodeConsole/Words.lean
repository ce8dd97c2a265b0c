/-! The words of a command line. -/
namespace NodeConsole

inductive LineFault
  /-- The line ends inside quotes. -/
  | quoteOpen
  /-- The line ends after a backslash inside quotes. -/
  | escapeOpen
  deriving DecidableEq, Repr

def LineFault.message : LineFault → String
  | .quoteOpen => "Premature end of quoted string"
  | .escapeOpen => "Premature end of escaped character"

namespace Words

/-- A word from its characters, last first. -/
def word (w : List Char) : String := String.ofList w.reverse

/-- Ends the word `w` outside quotes, where an empty one does not count. -/
def flush (ws : List String) (w : List Char) : List String :=
  if w.isEmpty then ws else word w :: ws

mutual
/-- Reads on outside quotes: `ws` are the words so far, last first, and `w` the characters of the
current one, last first. -/
def scan (ws : List String) (w : List Char) : List Char → Except LineFault (List String)
  | [] => .ok (flush ws w).reverse
  | ' ' :: s => scan (flush ws w) [] s
  | '"' :: s => scanQuoted ws w s
  | c :: s => scan ws (c :: w) s

/-- Reads on inside quotes, where a backslash takes the character after it as it is. -/
def scanQuoted (ws : List String) (w : List Char) : List Char → Except LineFault (List String)
  | [] => .error .quoteOpen
  | ['\\'] => .error .escapeOpen
  | '\\' :: c :: s => scanQuoted ws (c :: w) s
  | '"' :: s => scan (word w :: ws) [] s
  | c :: s => scanQuoted ws (c :: w) s
end

end Words

def words (line : String) : Except LineFault (List String) := Words.scan [] [] line.toList

end NodeConsole
