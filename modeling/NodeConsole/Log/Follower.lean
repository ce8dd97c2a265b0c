import NodeConsole.Log.Buffer

/-! Followers of a log, move by move, with pushes under way. -/
namespace NodeConsole.Log

/-- A tail is cancelled from outside, a relay ends with its call. -/
inductive Kind
  | tail | relay
  deriving DecidableEq, Repr

/-- Where a follower stands. -/
inductive Stage
  | outside
  | asking
  | taking
  | writing (batch : List Record)
  | sleeping
  | calling
  | leaving
  | draining
  | finishing (batch : List Record)
  | ended
  | dropped
  deriving DecidableEq, Repr

def Kind.first : Kind → Stage
  | .tail => .asking
  | .relay => .calling

namespace Stage

/-- Whether the follower has a listener on the log. -/
def listening : Stage → Bool
  | .asking | .taking | .writing _ | .sleeping | .calling | .leaving => true
  | .outside | .draining | .finishing _ | .ended | .dropped => false

/-- What has been taken and is not written yet. -/
def batch : Stage → List Record
  | .writing rs | .finishing rs => rs
  | _ => []

end Stage

structure Follower where
  /-- What it writes of a record, if anything. -/
  format : Record → Option String
  kind : Kind := .tail
  stage : Stage := .outside
  /-- Its listener, once it has one. -/
  listener : Nat := 0
  /-- What had come in when its listener left the log. -/
  queue : List Record := []
  /-- What it has written, last first. -/
  written : List String := []
  /-- The listeners that it has taken off the log, last first. -/
  removals : List Nat := []

namespace Follower

def tail : Follower := { format := fun r => some r.chunk }

def goTo (stage : Stage) (f : Follower) : Follower := { f with stage }

def subscribe (b : Buffer) (f : Follower) : Buffer × Follower :=
  (b.listen.2, { f with stage := f.kind.first, listener := b.listen.1 })

def take (b : Buffer) (f : Follower) : Buffer × Follower :=
  ((b.take f.listener).2, f.goTo (.writing (b.take f.listener).1))

def write (r : Record) (f : Follower) : Follower :=
  { f with written := (f.format r).toList ++ f.written }

def leave (b : Buffer) (f : Follower) : Buffer × Follower :=
  let (inbox, b) := b.unlisten f.listener
  (b, { f with
    stage := .draining, queue := inbox.getD [], removals := f.listener :: f.removals })

/-- Takes what had come in when the listener left. -/
def drain (f : Follower) : Follower := { f with stage := .finishing f.queue, queue := [] }

def drop (b : Buffer) (f : Follower) : Buffer × Follower :=
  ((f.leave b).1, (f.leave b).2.goTo .dropped)

inductive Act
  /-- The act names the listener that the follower gets. -/
  | subscribe (id : Nat)
  | refuse
  | ask (cancelled : Bool)
  | take | write | pause | wake | reply | leave | drain | finish | done | drop
  deriving DecidableEq, Repr

/-- Whether a listener comes or goes. -/
def Act.exclusive : Act → Bool
  | .subscribe _ | .leave | .drop => true
  | _ => false

inductive Step : Buffer → Follower → Act → Buffer → Follower → Prop
  | subscribe {b f} (h : f.stage = .outside) :
      Step b f (.subscribe b.listen.1) (f.subscribe b).1 (f.subscribe b).2
  /-- The command fails before it has a listener, or is dropped. -/
  | refuse {b f} (h : f.stage = .outside) : Step b f .refuse b (f.goTo .ended)
  | ask {b f} (cancelled : Bool) (h : f.stage = .asking) :
      Step b f (.ask cancelled) b (f.goTo (if cancelled then .leaving else .taking))
  | take {b f} (h : f.stage = .taking) : Step b f .take (f.take b).1 (f.take b).2
  | write {b f r rs} (h : f.stage = .writing (r :: rs)) :
      Step b f .write b ((f.write r).goTo (.writing rs))
  | pause {b f} (h : f.stage = .writing []) : Step b f .pause b (f.goTo .sleeping)
  | wake {b f} (h : f.stage = .sleeping) : Step b f .wake b (f.goTo .asking)
  | reply {b f} (h : f.stage = .calling) : Step b f .reply b (f.goTo .leaving)
  | leave {b f} (h : f.stage = .leaving) : Step b f .leave (f.leave b).1 (f.leave b).2
  | drain {b f} (h : f.stage = .draining) : Step b f .drain b f.drain
  | finish {b f r rs} (h : f.stage = .finishing (r :: rs)) :
      Step b f .finish b ((f.write r).goTo (.finishing rs))
  | done {b f} (h : f.stage = .finishing []) : Step b f .done b (f.goTo .ended)
  | drop {b f} (h : f.stage = .sleeping ∨ f.stage = .calling) :
      Step b f .drop (f.drop b).1 (f.drop b).2

end Follower

/-- A push that is under way. -/
structure Pushing where
  record : Record
  /-- The listeners that it has still to call. -/
  ahead : List Nat
  deriving DecidableEq, Repr

/-- A log, those who follow it and the pushes under way. -/
structure Following where
  buffer : Buffer
  followers : List Follower
  pushing : List Pushing := []

namespace Following

inductive Event
  | push (r : Record)
  | call (id : Nat) (r : Record)
  /-- A push has called everyone. -/
  | done
  | move (i : Nat) (a : Follower.Act)
  deriving DecidableEq, Repr

inductive Step : Following → Event → Following → Prop
  /-- The record is in the ring, and the listeners that are there will be called. -/
  | push {s} (r : Record) :
      Step s (.push r)
        { s with
          buffer := s.buffer.store r
          pushing := s.pushing ++ [⟨r, s.buffer.listeners.map (·.id)⟩] }
  | call {s : Following} {k id : Nat} {r : Record} {ids : List Nat}
      (hk : s.pushing[k]? = some ⟨r, id :: ids⟩) :
      Step s (.call id r)
        { s with buffer := s.buffer.reach id r, pushing := s.pushing.set k ⟨r, ids⟩ }
  | done {s : Following} {k : Nat} {r : Record} (hk : s.pushing[k]? = some ⟨r, []⟩) :
      Step s .done { s with pushing := s.pushing.eraseIdx k }
  /-- A listener comes or goes only while no push is under way. -/
  | move {s : Following} {i : Nat} {a : Follower.Act} {f g : Follower} {b : Buffer}
      (hi : s.followers[i]? = some f) (h : Follower.Step s.buffer f a b g)
      (hx : a.exclusive → s.pushing = []) :
      Step s (.move i a) { s with buffer := b, followers := s.followers.set i g }

inductive Trace (s : Following) : List Event → Following → Prop
  | refl : Trace s [] s
  | snoc {es e t u} (ht : Trace s es t) (h : Step t e u) : Trace s (es ++ [e]) u

end Following
end NodeConsole.Log
