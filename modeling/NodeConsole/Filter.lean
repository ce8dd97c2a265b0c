import NodeConsole.Text.Blank

/-! The connection filters of a node: patterns with flags. -/
namespace NodeConsole

structure FilterFlags where
  bits : UInt32
  deriving DecidableEq, Repr

namespace FilterFlags

def none : FilterFlags := ⟨0⟩
def ban : FilterFlags := ⟨1⟩
def network : FilterFlags := ⟨2⟩
def direct : FilterFlags := ⟨4⟩
def onlyPrivate : FilterFlags := ⟨8⟩

def union (a b : FilterFlags) : FilterFlags := ⟨a.bits ||| b.bits⟩

def contains (a b : FilterFlags) : Bool := a.bits &&& b.bits == b.bits

/-- The flags with a label, in the order in which labels are shown. -/
def labelled : List (FilterFlags × String) :=
  [(ban, "banned"), (network, "network"), (direct, "direct"), (onlyPrivate, "private")]

def labels (f : FilterFlags) : List String :=
  (labelled.filter fun l => f.contains l.1).map (·.2)

/-- Labels are read without regard to case and surrounding white space. -/
def ofLabel? (label : String) : Option FilterFlags :=
  match String.ofList ((Text.trim label.toList).map Char.toLower) with
  | "ban" | "banned" => some ban
  | "network" => some network
  | "direct" => some direct
  | "private" => some onlyPrivate
  | _ => Option.none

end FilterFlags

structure Filter where
  pattern : String
  flags : FilterFlags
  deriving DecidableEq, Repr

/-- A filter as a configuration gives it. -/
structure FilterSpec where
  pattern : String := ""
  flags : List String := []
  deriving DecidableEq, Repr, Inhabited

namespace Filter

/-- Labels that name no flag are passed over. -/
def ofSpec (s : FilterSpec) : Filter :=
  ⟨s.pattern, (s.flags.filterMap FilterFlags.ofLabel?).foldl .union .none⟩

/-- The pattern takes at least twenty columns. -/
def line (f : Filter) : String :=
  f.pattern ++ String.ofList (List.replicate (20 - f.pattern.length) ' ') ++ " "
    ++ " ".intercalate f.flags.labels

end Filter

abbrev FilterTable := List Filter

namespace FilterTable

/-- The entry that a ban of `pattern` leaves, and the table with it. -/
def ban (pattern : String) : FilterTable → Filter × FilterTable
  | [] => let f : Filter := ⟨pattern, .ban⟩; (f, [f])
  | f :: fs =>
    if f.pattern = pattern then
      let g := { f with flags := f.flags.union .ban }
      (g, g :: fs)
    else
      let (g, gs) := ban pattern fs
      (g, f :: gs)

end FilterTable
end NodeConsole
