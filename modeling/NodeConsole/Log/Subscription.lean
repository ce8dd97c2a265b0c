import NodeConsole.Log.Follower

/-! The subscription of a follower, which is released once. -/
namespace NodeConsole.Log

structure Subscription where
  listener : Nat
  active : Bool := true
  deriving DecidableEq, Repr

namespace Subscription

/-- The listener that the log is asked to take off, if any, and the subscription after that. -/
def release (s : Subscription) : Option Nat × Subscription :=
  (if s.active then some s.listener else none, { s with active := false })

end Subscription

/-- The dealings of a follower with the log. -/
structure Dealings where
  subscription : Option Subscription := none
  /-- The listeners that it was given, in order. -/
  given : List Nat := []
  /-- The listeners that the log was asked to take off for it, in order. -/
  removed : List Nat := []
  deriving DecidableEq, Repr

namespace Dealings

def release (d : Dealings) : Dealings :=
  match d.subscription with
  | none => d
  | some s =>
    { d with subscription := some s.release.2, removed := d.removed ++ s.release.1.toList }

/-- The subscription is released when the follower leaves the log, and when it ends or is
dropped. -/
def act (a : Follower.Act) (d : Dealings) : Dealings :=
  match a with
  | .subscribe id => { d with subscription := some ⟨id, true⟩, given := d.given ++ [id] }
  | .leave | .done | .drop => d.release
  | _ => d

def after (i : Nat) (d : Dealings) : Following.Event → Dealings
  | .move j a => if j = i then d.act a else d
  | _ => d

/-- The dealings of the follower at place `i`. -/
def of (i : Nat) (es : List Following.Event) : Dealings := es.foldl (after i) {}

end Dealings
end NodeConsole.Log
