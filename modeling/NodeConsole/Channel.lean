import NodeConsole.PeerId

/-! The channels of a node, one entry per identifier. -/
namespace NodeConsole

inductive ChannelStatus
  | none | wait | connect | request | close | receive | broadcast | abort | search | noHosts
  | idle | error | notFound
  deriving DecidableEq, Repr, Inhabited

namespace ChannelStatus

def all : List ChannelStatus :=
  [.none, .wait, .connect, .request, .close, .receive, .broadcast, .abort, .search, .noHosts,
    .idle, .error, .notFound]

/-- The status as a configuration writes it. -/
def name : ChannelStatus → String
  | .none => "none" | .wait => "wait" | .connect => "connect" | .request => "request"
  | .close => "close" | .receive => "receive" | .broadcast => "broadcast" | .abort => "abort"
  | .search => "search" | .noHosts => "no_hosts" | .idle => "idle" | .error => "error"
  | .notFound => "not_found"

def ofName? (s : String) : Option ChannelStatus := all.find? (·.name = s)

/-- The status as a listing shows it. -/
def text : ChannelStatus → String
  | .none => "NONE" | .wait => "WAIT" | .connect => "CONNECT" | .request => "REQUEST"
  | .close => "CLOSE" | .receive => "RECEIVE" | .broadcast => "BROADCAST" | .abort => "ABORT"
  | .search => "SEARCH" | .noHosts => "NOHOSTS" | .idle => "IDLE" | .error => "ERROR"
  | .notFound => "NOTFOUND"

end ChannelStatus

structure Channel where
  name : String := ""
  id : PeerId := .zero
  status : ChannelStatus := .none
  deriving DecidableEq, Repr, Inhabited

def Channel.line (c : Channel) : String := s!"{c.name} {c.id.text} {c.status.text}"

abbrev ChannelTable := List Channel

/-- The first entry of the channel's identifier becomes `c`; without one, `c` is added. -/
def ChannelTable.upsert (c : Channel) : ChannelTable → ChannelTable
  | [] => [c]
  | d :: ds => if d.id = c.id then c :: ds else d :: upsert c ds

end NodeConsole
