import NodeConsole.Channel
import NodeConsole.Failure
import NodeConsole.Filter

/-! The configuration of a node. Every setting may be left open. -/
namespace NodeConsole

structure Config where
  /-- Milliseconds, as all times here. -/
  pollInterval : Option UInt64 := none
  socketPath : Option String := none
  httpTimeout : Option UInt64 := none
  dnsTimeout : Option UInt64 := none
  peerPort : Option UInt16 := none
  peerTimeout : Option UInt64 := none
  peerAgent : Option String := none
  logCapacity : Option UInt64 := none
  filters : Option (List FilterSpec) := none
  channels : Option (List Channel) := none
  deriving DecidableEq, Repr, Inhabited

namespace Config

/-- `upper` laid over `lower`; a list is taken as a whole. -/
def overlay (upper lower : Config) : Config where
  pollInterval := upper.pollInterval <|> lower.pollInterval
  socketPath := upper.socketPath <|> lower.socketPath
  httpTimeout := upper.httpTimeout <|> lower.httpTimeout
  dnsTimeout := upper.dnsTimeout <|> lower.dnsTimeout
  peerPort := upper.peerPort <|> lower.peerPort
  peerTimeout := upper.peerTimeout <|> lower.peerTimeout
  peerAgent := upper.peerAgent <|> lower.peerAgent
  logCapacity := upper.logCapacity <|> lower.logCapacity
  filters := upper.filters <|> lower.filters
  channels := upper.channels <|> lower.channels

def millis (setting : Option UInt64) (default : Nat) : Duration :=
  .ofMillis ((setting.map UInt64.toNat).getD default)

/-- At least a millisecond. -/
def effectivePollInterval (c : Config) : Duration :=
  .ofMillis (max 1 ((c.pollInterval.map UInt64.toNat).getD 100))

def effectiveHttpTimeout (c : Config) : Duration := millis c.httpTimeout 10000

def effectiveDnsTimeout (c : Config) : Duration := millis c.dnsTimeout 5000

def defaultPeerPort : UInt16 := 7144

def effectivePeerPort (c : Config) : UInt16 := c.peerPort.getD defaultPeerPort

def effectivePeerTimeout (c : Config) : Duration := millis c.peerTimeout 30000

def programName : String := "ctlshell"
def programVersion : String := "0.1.0"

def effectivePeerAgent (c : Config) : String := c.peerAgent.getD s!"{programName}/{programVersion}"

def effectiveLogCapacity (c : Config) : Nat := (c.logCapacity.map UInt64.toNat).getD 1000

def filterTable (c : Config) : FilterTable := (c.filters.getD []).map Filter.ofSpec

def channelTable (c : Config) : ChannelTable := c.channels.getD []

end Config
end NodeConsole
