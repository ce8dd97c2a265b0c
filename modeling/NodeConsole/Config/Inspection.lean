import NodeConsole.Config.Layers

/-! What a node says about its configuration. -/
namespace NodeConsole.Config

/-- Where the control socket is if no setting says so. -/
def defaultSocketPath (runtimeDir : String) : String := s!"{runtimeDir}/ctlshell.sock"

def effectiveSocketPath (runtimeDir : String) (c : Config) : String :=
  c.socketPath.getD (defaultSocketPath runtimeDir)

def effectiveJson (runtimeDir : String) (c : Config) : Json :=
  .object
    [("poll_interval_ms", .nat c.effectivePollInterval.millis),
      ("socket_path", .text (c.effectiveSocketPath runtimeDir)),
      ("http_timeout_ms", .nat c.effectiveHttpTimeout.millis),
      ("dns_timeout_ms", .nat c.effectiveDnsTimeout.millis),
      ("peer_default_port", .nat c.effectivePeerPort.toNat),
      ("peer_timeout_ms", .nat c.effectivePeerTimeout.millis),
      ("peer_agent", .text c.effectivePeerAgent),
      ("log_capacity", .nat c.effectiveLogCapacity),
      ("filter_count", .nat (c.filters.getD []).length),
      ("channel_count", .nat (c.channels.getD []).length)]

def inspectionJson (runtimeDir : String) (l : Loaded) : Json :=
  .object
    [("searched_paths", .list (l.searched.map .text)),
      ("loaded_paths", .list (l.loaded.map .text)),
      ("config", l.config.toJson),
      ("effective", effectiveJson runtimeDir l.config)]

def inspect (runtimeDir : String) (l : Loaded) : String :=
  String.ofList (inspectionJson runtimeDir l).pretty

end NodeConsole.Config
