import NodeConsole.Channel
import NodeConsole.Config
import NodeConsole.Filter
import NodeConsole.Log.Buffer

/-! The node that a console looks at. -/
namespace NodeConsole

structure Node where
  channels : ChannelTable := []
  filters : FilterTable := []
  log : Log.Buffer
  /-- Which of the console's own events reach the log. -/
  threshold : Log.Threshold := none
  deriving DecidableEq, Repr

namespace Node

def ofConfig (c : Config) : Node where
  channels := c.channelTable
  filters := c.filterTable
  log := { capacity := c.effectiveLogCapacity }

def push (r : Log.Record) (n : Node) : Node := { n with log := n.log.push r }

def pushAll (rs : List Log.Record) (n : Node) : Node := rs.foldl (fun n r => n.push r) n

def note (x : Log.Notice) (n : Node) : Node :=
  match x.record? n.threshold with
  | some r => n.push r
  | none => n

theorem nextId_note (x : Log.Notice) (n : Node) : (n.note x).log.nextId = n.log.nextId := by
  unfold note
  split <;> rfl

theorem threshold_note (x : Log.Notice) (n : Node) : (n.note x).threshold = n.threshold := by
  unfold note
  split <;> rfl

def noteAll (xs : List Log.Notice) (n : Node) : Node := xs.foldl (fun n x => n.note x) n

def listen (n : Node) : Nat × Node := (n.log.listen.1, { n with log := n.log.listen.2 })

/-- Takes a listener off the log; what it had not taken yet. -/
def unlisten (id : Nat) (n : Node) : List Log.Record × Node :=
  ((n.log.unlisten id).1.getD [], { n with log := (n.log.unlisten id).2 })

def take (id : Nat) (n : Node) : List Log.Record × Node :=
  ((n.log.take id).1, { n with log := (n.log.take id).2 })

end Node
end NodeConsole
