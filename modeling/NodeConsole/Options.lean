/-! Arguments split into flags and positionals. -/
namespace NodeConsole

structure Options where
  /-- Ascending, each once. -/
  flags : List String := []
  positionals : List String := []
  deriving DecidableEq, Repr

namespace Options

def has (o : Options) (flag : String) : Bool := o.flags.contains flag

def insertFlag (flag : String) : List String → List String
  | [] => [flag]
  | f :: fs =>
    if flag < f then flag :: f :: fs
    else if flag = f then f :: fs
    else f :: insertFlag flag fs

/-- The first `--` is dropped, and everything after it is positional. -/
def split (known : List String) : List String → Options
  | [] => {}
  | arg :: args =>
    if arg = "--" then { positionals := args }
    else
      let rest := split known args
      if known.contains arg then { rest with flags := insertFlag arg rest.flags }
      else { rest with positionals := arg :: rest.positionals }

end Options
end NodeConsole
