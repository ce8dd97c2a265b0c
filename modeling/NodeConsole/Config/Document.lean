import NodeConsole.Config
import NodeConsole.Json
import NodeConsole.Json.Reader

/-! The document of a configuration, read section by section. -/
namespace NodeConsole

def PeerId.toJson (id : PeerId) : Json := .text id.text

def FilterSpec.toJson (f : FilterSpec) : Json :=
  .object [("pattern", .text f.pattern), ("flags", .list (f.flags.map .text))]

def Channel.toJson (c : Channel) : Json :=
  .object [("name", .text c.name), ("id", c.id.toJson), ("status", .text c.status.name)]

namespace Config

def natural (n : Option UInt64) : Json := .ofOption (fun n => .nat n.toNat) n

def toJson (c : Config) : Json :=
  .object <|
    [("console", .object [("poll_interval_ms", natural c.pollInterval)]),
      ("server", .object [("socket_path", .ofOption .text c.socketPath)]),
      ("http", .object [("timeout_ms", natural c.httpTimeout)]),
      ("dns", .object [("timeout_ms", natural c.dnsTimeout)]),
      ("peer", .object
        [("default_port", .ofOption (fun n => .nat n.toNat) c.peerPort),
          ("timeout_ms", natural c.peerTimeout),
          ("agent", .ofOption .text c.peerAgent)]),
      ("log", .object [("capacity", natural c.logCapacity)])]
    ++ (c.filters.map fun fs => ("filters", Json.list (fs.map FilterSpec.toJson))).toList
    ++ (c.channels.map fun cs => ("channels", Json.list (cs.map Channel.toJson))).toList

end Config

namespace Json.Reader

def uint64 : Reader UInt64 := map Nat.toUInt64 (nat UInt64.size)

def uint16 : Reader UInt16 := map Nat.toUInt16 (nat UInt16.size)

/-- A field that must be there. -/
def required {σ α : Type} (name : String) (read : Reader α) (set : α → σ → σ) : Field σ :=
  { name, read := map set read }

/-- A field that may be missing. -/
def defaulted {σ α : Type} (name : String) (read : Reader α) (set : α → σ → σ) : Field σ :=
  { name, read := map set read, optional := true, trailing := true }

/-- A setting: it may be missing in an object, and stand open as a null. -/
def setting {σ α : Type} (name : String) (read : Reader α) (set : Option α → σ → σ) : Field σ :=
  { name, read := map set (Reader.optional read), optional := true }

def peerId : Reader PeerId := textOf PeerId.ofText?

def filterSpec : Reader FilterSpec :=
  record
    [required "pattern" text fun p f => { f with pattern := p },
      defaulted "flags" (list text) fun l f => { f with flags := l }]
    {}

def channel : Reader Channel :=
  record
    [required "name" text fun n c => { c with name := n },
      required "id" peerId fun i c => { c with id := i },
      defaulted "status" (choice ChannelStatus.ofName?) fun s c => { c with status := s }]
    {}

/-- A section of a configuration. -/
def group (name : String) (settings : List (Field Config)) : Field Config :=
  defaulted name (record settings {}) Config.overlay

def config : Reader Config :=
  record
    [group "console"
        [setting "poll_interval_ms" uint64 fun n c => { c with pollInterval := n }],
      group "server" [setting "socket_path" text fun p c => { c with socketPath := p }],
      group "http" [setting "timeout_ms" uint64 fun n c => { c with httpTimeout := n }],
      group "dns" [setting "timeout_ms" uint64 fun n c => { c with dnsTimeout := n }],
      group "peer"
        [setting "default_port" uint16 fun n c => { c with peerPort := n },
          setting "timeout_ms" uint64 fun n c => { c with peerTimeout := n },
          setting "agent" text fun t c => { c with peerAgent := t }],
      group "log" [setting "capacity" uint64 fun n c => { c with logCapacity := n }],
      defaulted "filters" (Reader.optional (list filterSpec)) fun l c => { c with filters := l },
      defaulted "channels" (Reader.optional (list channel)) fun l c => { c with channels := l }]
    {}

end Json.Reader

namespace Config

/-- Reads the text of a document. -/
def ofDocument (s : String) : Except Json.Fault Config := Json.Reader.run Json.Reader.config s

end Config
end NodeConsole
