import NodeConsole.Commands
import NodeConsole.Url

/-! The services of a node over a given network. -/
namespace NodeConsole
open Text (Bytes)

/-- What becomes of a request for a document. -/
inductive Exchange
  | failed
  | silent
  | answered (status : Nat) (body : Bytes)
  deriving DecidableEq, Repr

structure Network where
  /-- The names of the interfaces to it. -/
  interfaces : List String
  /-- The addresses of a name, or why there are none. -/
  addresses : String → Except String (List Address)
  /-- The name of an address. -/
  name : Address → Option String
  contact : Address → UInt16 → Contact
  exchange : Url.Web → Exchange

namespace Network

def lookupFailed (reason : String) : String := s!"failed to lookup address information: {reason}"

def offline : Network where
  interfaces := ["lo"]
  addresses _ := .error (lookupFailed "Temporary failure in name resolution")
  name _ := none
  contact _ _ := .failed "Network is unreachable (os error 101)"
  exchange _ := .failed

/-- A version 4 address in one to four parts, each in any base. -/
def numeric? (s : List Char) : Option Address :=
  let parts := s.splitOn '.'
  if parts.contains [] || parts.any fun p => p.map Char.toLower = ['0', 'x'] then none
  else Url.Host.v4? s

/-- Whether an address is one of a link or a node, whose scope may be an interface. -/
def isLocal (groups : Vector UInt16 8) : Bool :=
  let g := groups[0].toNat
  g / 64 = 0xFE80 / 64 || (g / 256 = 0xFF && (g % 16 = 1 || g % 16 = 2))

/-- A scope is a number of 32 bits, or names an interface. -/
def isScope (n : Network) (groups : Vector UInt16 8) (s : List Char) : Bool :=
  (isLocal groups && n.interfaces.contains (String.ofList s))
    || (!s.isEmpty && (Text.valueOf? Text.decimalDigit? 10 s).any (· < 0x100000000))

/-- A version 6 address with a scope after a percent sign, which only has to be one. -/
def scoped? (n : Network) (s : List Char) : Option (Except String Address) := do
  let (address, scope) ← Host.cut? '%' s
  let groups ← Address.v6? address
  return if n.isScope groups scope then .ok (.v6 groups)
    else .error (lookupFailed "Name or service not known")

/-- An address stands for itself; no name holds a zero character. -/
def resolve (n : Network) (name : String) : Except String (List Address) :=
  match Address.ofText? name with
  | some a => .ok [a]
  | none =>
    if name.toList.contains '\x00' then .error "file name contained an unexpected NUL byte"
    else match numeric? name.toList, n.scoped? name.toList with
      | some a, _ => .ok [a]
      | none, some a => a.map ([·])
      | none, none => n.addresses name

/-- The addresses of a name, each once. -/
def lookup (n : Network) (name : String) : Except Failure (List Address) :=
  match n.resolve name with
  | .error reason => .error (.lookup name reason)
  | .ok [] => .error (.lookup name "no addresses")
  | .ok as => .ok as.eraseDups

/-- Longest URL that can be asked for, in bytes. -/
def maxUrl : Nat := 65534

/-- Characters that a URL's host may have and a request's may not. -/
def isUnaskable (c : Char) : Bool := ['"', '\x60', '\x7b', '\x7d'].contains c

def askable (u : Url.Web) : Bool := !u.host.text.any isUnaskable && u.text.length ≤ maxUrl

/-- What a part of a URL stands for, if that is in UTF-8. -/
def meaning? (s : List Char) : Option (List Char) :=
  Text.decode? (Url.Host.unescaped (Text.encode s))

/-- A user in UTF-8 and its password go into the request, and so out of the URL, unless both are
empty. -/
def asked (u : Url.Web) : Url.Web :=
  match meaning? u.username with
  | none => u
  | some name =>
    let password := (meaning? u.password).getD []
    if name.isEmpty && password.isEmpty then u else u.anonymous

def about (what : String) (u : Url.Web) : Failure :=
  .http s!"{what} for url ({String.ofList u.text})"

def isSuccess (status : Nat) : Bool := 200 ≤ status && status < 300

def webUrl (url : String) : Except Failure Url.Web :=
  match Url.read url with
  | .error f => .error (.invalidUrl url f.message)
  | .ok (.other scheme) =>
    .error (.invalidUrl url s!"unsupported scheme '{String.ofList scheme}'")
  | .ok (.web u) =>
    if u.scheme = "http".toList ∨ u.scheme = "https".toList then .ok u
    else .error (.invalidUrl url s!"unsupported scheme '{String.ofList u.scheme}'")

def fetch (n : Network) (limit : Duration) (url : String) : Except Failure Bytes := do
  let u := asked (← webUrl url)
  if !askable u then throw (about "builder error" u)
  match n.exchange u with
  | .failed => throw (about "error sending request" u)
  | .silent => throw (.timeout s!"GET {url}" limit)
  | .answered status body =>
    if isSuccess status then return body else throw (.httpStatus url status)

/-- The first address that can be contacted, or the last that cannot. -/
def contactAny (n : Network) (port : UInt16) : List Address → Contact
  | [] => .failed "could not resolve to any address"
  | [a] => n.contact a port
  | a :: as =>
    match n.contact a port with
    | .failed _ => n.contactAny port as
    | k => k

def reach (n : Network) (host : Host) : Contact :=
  match n.resolve host.name with
  | .error reason => .failed reason
  | .ok as => n.contactAny host.port as

def services (n : Network) (g : Greeter) (httpLimit : Duration) : Services where
  lookup := n.lookup
  reverse a := .ok (n.name a)
  fetch := n.fetch httpLimit
  greet host := g.greet host (n.reach host)

/-- The greeter of a configuration, under a session identifier of its own. -/
def greeter (c : Config) (session : PeerId) : Greeter where
  agent := c.effectivePeerAgent
  session
  limit := c.effectivePeerTimeout

/-- The console of a configuration on a network. -/
def console (n : Network) (c : Config) (session : PeerId) :
    Console Commands.Tail Commands.Call :=
  Commands.console c.effectivePeerPort (n.services (greeter c session) c.effectiveHttpTimeout)

end Network
end NodeConsole
