import NodeConsole.Log.Event

/-! The log of a node: a ring of records, and listeners. -/
namespace NodeConsole.Log

structure Listener where
  id : Nat
  /-- Oldest first. -/
  inbox : List Record := []
  deriving DecidableEq, Repr

def Listener.receive (r : Record) (l : Listener) : Listener := { l with inbox := l.inbox ++ [r] }

/-- The listener after `g`, if it is the one meant. -/
def Listener.alter (id : Nat) (g : List Record → List Record) (l : Listener) : Listener :=
  if l.id = id then { l with inbox := g l.inbox } else l

theorem Listener.id_alter (id : Nat) (g : List Record → List Record) (l : Listener) :
    (Listener.alter id g l).id = l.id := by
  unfold Listener.alter
  split <;> rfl

/-- The first identifier, before any listener has come. -/
theorem ascending_first :
    (([] : List Listener).map Listener.id ++ [1]).Pairwise (fun i j => i < j) :=
  List.pairwise_singleton _ 1

structure Buffer where
  capacity : Nat
  /-- Oldest first. -/
  records : List Record := []
  /-- In the order of registration. -/
  listeners : List Listener := []
  nextId : Nat := 1
  /-- Every listener has an identifier of its own, and the next one is still free. -/
  ascending : (listeners.map (·.id) ++ [nextId]).Pairwise (· < ·) := by
    exact NodeConsole.Log.ascending_first
  deriving DecidableEq, Repr

namespace Buffer

/-- The ring after `r`: a full ring loses its oldest record. -/
def keep (capacity : Nat) (records : List Record) (r : Record) : List Record :=
  if capacity = 0 then records
  else if records.length = capacity then records.tail ++ [r]
  else records ++ [r]

theorem ascending_map {ls : List Listener} {n : Nat} {g : Listener → Listener}
    (hg : ∀ l, (g l).id = l.id) (h : (ls.map (·.id) ++ [n]).Pairwise (· < ·)) :
    ((ls.map g).map (·.id) ++ [n]).Pairwise (· < ·) := by
  have he : (ls.map g).map (·.id) = ls.map (·.id) := by simp [hg]
  rwa [he]

theorem ascending_listen {ls : List Listener} {n : Nat} {inbox : List Record}
    (h : (ls.map (·.id) ++ [n]).Pairwise (· < ·)) :
    ((ls ++ [(⟨n, inbox⟩ : Listener)]).map (·.id) ++ [n + 1]).Pairwise (· < ·) := by
  rw [List.map_append, List.pairwise_append]
  refine ⟨h, by simp, ?_⟩
  intro a ha b hb
  obtain rfl := List.mem_singleton.mp hb
  rcases List.mem_append.mp ha with ha | ha
  · exact Nat.lt_succ_of_lt ((List.pairwise_append.mp h).2.2 a ha n (by simp))
  · rw [List.mem_singleton.mp ha]
    exact Nat.lt_succ_self n

theorem ascending_filter {ls : List Listener} {n : Nat} {p : Listener → Bool}
    (h : (ls.map (·.id) ++ [n]).Pairwise (· < ·)) :
    ((ls.filter p).map (·.id) ++ [n]).Pairwise (· < ·) :=
  h.sublist ((List.filter_sublist.map _).append (List.Sublist.refl _))

/-- Changes the inbox of a listener and nothing else. -/
def alter (id : Nat) (g : List Record → List Record) (b : Buffer) : Buffer :=
  { b with
    listeners := b.listeners.map (Listener.alter id g)
    ascending := ascending_map (Listener.id_alter id g) b.ascending }

def push (r : Record) (b : Buffer) : Buffer :=
  { b with
    records := keep b.capacity b.records r
    listeners := b.listeners.map (Listener.receive r)
    ascending := ascending_map (fun _ => rfl) b.ascending }

def store (r : Record) (b : Buffer) : Buffer := { b with records := keep b.capacity b.records r }

def reach (id : Nat) (r : Record) (b : Buffer) : Buffer := b.alter id (· ++ [r])

/-- The latest `n` records, oldest first. -/
def recent (n : Nat) (b : Buffer) : List Record := b.records.drop (b.records.length - n)

/-- Registers a listener and says under which identifier. -/
def listen (b : Buffer) : Nat × Buffer :=
  (b.nextId,
    { b with
      listeners := b.listeners ++ [⟨b.nextId, []⟩]
      nextId := b.nextId + 1
      ascending := ascending_listen b.ascending })

def listener? (id : Nat) (b : Buffer) : Option Listener := b.listeners.find? (·.id = id)

/-- What waits for a listener, if there is such a listener. -/
def inbox? (id : Nat) (b : Buffer) : Option (List Record) := (b.listener? id).map (·.inbox)

/-- Takes a listener off the table; what was left in its inbox, if it was registered. -/
def unlisten (id : Nat) (b : Buffer) : Option (List Record) × Buffer :=
  (b.inbox? id,
    { b with
      listeners := b.listeners.filter (·.id ≠ id)
      ascending := ascending_filter b.ascending })

/-- Empties the inbox of a listener. -/
def take (id : Nat) (b : Buffer) : List Record × Buffer :=
  ((b.inbox? id).getD [], b.alter id fun _ => [])

end Buffer
end NodeConsole.Log
