import NodeConsole.Url.Host

/-! URLs, read as browsers read them. -/
namespace NodeConsole
namespace Url

/-- A URL whose scheme is special: it has a host and a path with slashes. -/
structure Web where
  scheme : List Char
  /-- Escaped. -/
  username : List Char := []
  password : List Char := []
  host : Host
  /-- Nothing for the port that the scheme implies. -/
  port : Option Nat := none
  /-- Escaped; starts with a slash. -/
  path : List Char
  query : Option (List Char) := none
  fragment : Option (List Char) := none
  deriving DecidableEq, Repr

/-- What a text is the URL of. -/
inductive Target
  | web (u : Web)
  | other (scheme : List Char)
  deriving DecidableEq, Repr

def Target.scheme : Target → List Char
  | web u => u.scheme
  | other s => s

def escapeByte (b : UInt8) : List Char := '%' :: (Text.hexByte b).map Char.toUpper

def isControl (c : Char) : Bool := c < ' ' || '~' < c

/-- Escapes what is not in printable ASCII and what is in `set`. -/
def escape (set : List Char) (c : Char) : List Char :=
  if isControl c || set.contains c then (Text.encode [c]).flatMap escapeByte else [c]

def fragmentSet : List Char := [' ', '"', '<', '>', '\x60']
def pathSet : List Char := fragmentSet ++ ['#', '?', '\x7b', '\x7d']
def userSet : List Char := pathSet ++ ['/', ':', ';', '=', '@', '[', '\\', ']', '^', '|']
def querySet : List Char := [' ', '"', '#', '<', '>', '\'']

def escapeAll (set : List Char) (s : List Char) : List Char := s.flatMap (escape set)

/-- How a dot may be written in a dot segment. -/
def dots : List Char → Option Nat
  | [] => some 0
  | '.' :: s => (dots s).map (· + 1)
  | '%' :: '2' :: 'e' :: s | '%' :: '2' :: 'E' :: s => (dots s).map (· + 1)
  | _ => none

/-- A letter with a colon or a bar, which is no directory to leave. -/
def isDrive : List Char → Bool
  | [c, d] => c.isAlpha && (d == ':' || d == '|')
  | _ => false

/-- The directory above; `dirs` holds the segments so far, last first. -/
def up : List (List Char) → List (List Char)
  | [] => []
  | d :: ds => if isDrive d then d :: ds else ds

/-- Segments resolved, last first; the last of them is what follows the last slash. -/
def resolve (dirs : List (List Char)) : List (List Char) → List (List Char)
  | [] => dirs
  | [s] =>
    match dots s with
    | some 1 => [] :: dirs
    | some 2 => [] :: up dirs
    | _ => s :: dirs
  | s :: ss =>
    match dots s with
    | some 1 => resolve dirs ss
    | some 2 => resolve (up dirs) ss
    | _ => resolve (s :: dirs) ss

def isSlash (c : Char) : Bool := c == '/' || c == '\\'

/-- The path of a text in which it may start with a slash. -/
def path (s : List Char) : List Char :=
  let s := s.map fun c => if c = '\\' then '/' else c
  let s := match s with
    | '/' :: r => r
    | s => s
  (resolve [] ((s.splitOn '/').map (escapeAll pathSet))).reverse.flatMap ('/' :: ·)

def isEnd (special : Bool) (c : Char) : Bool :=
  c == '/' || c == '?' || c == '#' || (special && c == '\\')

/-- The part before the last `@` of an authority, if there is one, and the part after it. -/
def userinfo (s : List Char) : Option (List Char) × List Char :=
  if s.contains '@' then
    let tail := s.reverse.takeWhile (· ≠ '@')
    (some ((s.reverse.drop (tail.length + 1)).reverse), tail.reverse)
  else (none, s)

/-- The host and what follows it; a colon in brackets belongs to the host. -/
def hostPart : (inside : Bool) → List Char → List Char × List Char
  | _, [] => ([], [])
  | inside, c :: s =>
    if c = ':' && !inside then ([], c :: s)
    else
      let (h, r) := hostPart (if c = '[' then true else if c = ']' then false else inside) s
      (c :: h, r)

def digits? (s : List Char) : Option Nat :=
  s.foldl (fun n c => do
    let n := (← n) * 10 + (← Text.decimalDigit? c)
    if n < 65536 then some n else none) (some 0)

/-- The port after a host; an empty one is none. -/
def port : List Char → Except Fault (Option Nat)
  | ':' :: s =>
    match digits? s with
    | some n => .ok (if s.isEmpty then none else some n)
    | none => .error .invalidPort
  | _ => .ok none

structure Authority where
  username : List Char := []
  password : List Char := []
  host : List Char
  rest : List Char

/-- The parts of an authority; `followed` says whether the text goes on, which it may not do after a
lone `@`. -/
def authority (followed : Bool) (s : List Char) : Except Fault Authority :=
  let (user, r) := userinfo s
  let (host, rest) := hostPart false r
  match user with
  | none => .ok { host, rest }
  | some user =>
    if r.isEmpty && user.isEmpty && followed then .error .emptyHost
    else
      let name := user.takeWhile (· ≠ ':')
      .ok
        { username := escapeAll userSet name
          password := escapeAll userSet (user.drop (name.length + 1))
          host, rest }

def schemePorts : List (String × Nat) :=
  [("http", 80), ("https", 443), ("ws", 80), ("wss", 443), ("ftp", 21)]

/-- A scheme in lower case and what follows its colon. -/
def scheme? (s : List Char) : Option (List Char × List Char) :=
  let name := s.takeWhile (· ≠ ':')
  let ok (c : Char) : Bool := c.isAlphanum || c == '+' || c == '-' || c == '.'
  match name, s.drop name.length with
  | c :: _, _ :: r => if c.isAlpha && name.all ok then some (name.map Char.toLower, r) else none
  | _, _ => none

/-- The text without what does not count in it. -/
def strip (s : List Char) : List Char :=
  let blank (c : Char) : Bool := c ≤ ' '
  let s := ((s.dropWhile blank).reverse.dropWhile blank).reverse
  s.filter fun c => !(c == '\t' || c == '\n' || c == '\r')

/-- What follows an authority: path, query and fragment. -/
def cutAt (c : Char) (s : List Char) : List Char × Option (List Char) :=
  let front := s.takeWhile (· ≠ c)
  match s.drop front.length with
  | [] => (front, none)
  | _ :: r => (front, some r)

/-- The text after the scheme of a URL whose scheme is special. -/
def web (scheme : List Char) (implied : Nat) (s : List Char) : Except Fault Web := do
  let s := s.dropWhile isSlash
  let front := s.takeWhile fun c => !isEnd true c
  let a ← authority true front
  if a.host.isEmpty then throw .emptyHost
  let host ← Host.ofText a.host
  let port ← port a.rest
  let (r, fragment) := cutAt '#' (s.drop front.length)
  let (r, query) := cutAt '?' r
  return {
    scheme, username := a.username, password := a.password, host
    port := port.filter (· ≠ implied)
    path := path r
    query := query.map (escapeAll querySet)
    fragment := fragment.map (escapeAll fragmentSet) }

/-- Checks the text after a scheme that is not special: it may have an authority. -/
def checkOther : List Char → Except Fault Unit
  | '/' :: '/' :: s => do
    let front := s.takeWhile fun c => !isEnd false c
    let a ← authority (front.length < s.length) front
    Host.checkOpaque a.host
    if a.host.isEmpty && (!a.username.isEmpty || !a.password.isEmpty || !a.rest.isEmpty) then
      throw .emptyHost
    discard (port (a.rest.takeWhile (· ≠ '\\')))
  | _ => .ok ()

/-- Checks the text after `file:`: it may have a host, which is no drive. -/
def checkFile : List Char → Except Fault Unit
  | c :: d :: s =>
    if isSlash c && isSlash d then
      let host := s.takeWhile fun c => !isEnd true c
      if host.isEmpty || isDrive host then .ok () else (Host.ofText host).map fun _ => ()
    else .ok ()
  | _ => .ok ()

def read (s : String) : Except Fault Target :=
  match scheme? (strip s.toList) with
  | none => .error .relative
  | some (scheme, r) =>
    match schemePorts.lookup (String.ofList scheme) with
    | some implied => (web scheme implied r).map .web
    | none =>
      let checked := if scheme = ['f', 'i', 'l', 'e'] then checkFile r else checkOther r
      checked.map fun () => .other scheme

namespace Web

def credentials (u : Web) : List Char :=
  if u.username.isEmpty && u.password.isEmpty then []
  else u.username ++ (if u.password.isEmpty then [] else ':' :: u.password) ++ ['@']

def text (u : Web) : List Char :=
  u.scheme ++ [':', '/', '/'] ++ u.credentials ++ u.host.text
    ++ (match u.port with | some n => ':' :: Nat.toDigits 10 n | none => [])
    ++ u.path
    ++ (match u.query with | some q => '?' :: q | none => [])
    ++ (match u.fragment with | some f => '#' :: f | none => [])

/-- The URL without user and password. -/
def anonymous (u : Web) : Web := { u with username := [], password := [] }

end Web
end Url
end NodeConsole
