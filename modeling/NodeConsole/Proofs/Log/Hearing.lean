import NodeConsole.Log.Follower
import NodeConsole.Proofs.Log.Inbox

/-! What reaches the listener of a follower, and where it is. -/
namespace NodeConsole.Log

structure Hearing where
  /-- The listener, from subscription to release. -/
  on : Option Nat := none
  /-- What the listener was called with, in the order of the calls. -/
  delivered : List Record := []
  /-- What was pushed while the listener was on the log, in the order of the pushes. -/
  pushed : List Record := []

namespace Hearing

def act (a : Follower.Act) (h : Hearing) : Hearing :=
  match a with
  | .subscribe id => { h with on := some id }
  | .leave | .drop => { h with on := none }
  | _ => h

def after (i : Nat) (h : Hearing) : Following.Event → Hearing
  | .push r => if h.on.isSome then { h with pushed := h.pushed ++ [r] } else h
  | .call id r => if h.on = some id then { h with delivered := h.delivered ++ [r] } else h
  | .done => h
  | .move j a => if j = i then h.act a else h

/-- What the events say of the follower at place `i`. -/
def of (i : Nat) (es : List Following.Event) : Hearing := es.foldl (after i) {}

variable {i j : Nat} {es : List Following.Event} {e : Following.Event} {a : Follower.Act}
  {h : Hearing}

theorem of_append (fs : List Following.Event) : of i (es ++ fs) = fs.foldl (after i) (of i es) :=
  List.foldl_append

theorem of_snoc : of i (es ++ [e]) = (of i es).after i e := of_append [e]

theorem after_self : h.after i (.move i a) = h.act a := if_pos rfl

theorem after_other (hj : j ≠ i) : h.after i (.move j a) = h := if_neg hj

theorem delivered_act : (h.act a).delivered = h.delivered := by
  cases a <;> rfl

theorem pushed_act : (h.act a).pushed = h.pushed := by
  cases a <;> rfl

theorem act_of_shared (ha : a.exclusive = false) : h.act a = h := by
  cases a with
  | subscribe | leave | drop => contradiction
  | refuse | ask | take | write | pause | wake | reply | drain | finish | done => rfl

end Hearing

variable {b c : Buffer} {f g : Follower} {a : Follower.Act} {h : Hearing} {r : Record}
  {q : List Record} {j : Nat}

/-- What waits for a follower: in its inbox as long as it has a listener. -/
def Follower.queued (b : Buffer) (f : Follower) : List Record :=
  if f.stage.listening then (b.inbox? f.listener).getD [] else f.queue

/-- All that was delivered to a follower is written, taken or queued, in this order. -/
structure Keeps (b : Buffer) (f : Follower) (h : Hearing) : Prop where
  on_eq : h.on = if f.stage.listening then some f.listener else none
  listed : f.stage.listening → ∃ q, b.inbox? f.listener = some q
  emptied : f.stage ≠ .draining → f.stage ≠ .dropped → f.queue = []
  kept : f.written.reverse ++ (f.stage.batch ++ f.queued b).filterMap f.format =
    h.delivered.filterMap f.format

namespace Follower

theorem listening_first (k : Kind) : k.first.listening := by
  cases k <;> rfl

theorem batch_first (k : Kind) : k.first.batch = [] := by
  cases k <;> rfl

theorem queued_of_listening (hl : f.stage.listening) (hq : b.inbox? f.listener = some q) :
    f.queued b = q := by
  simp [queued, hl, hq]

theorem queued_of_silent (hl : f.stage.listening = false) : f.queued b = f.queue := by
  simp [queued, hl]

theorem reverse_write :
    (f.write r).written.reverse = f.written.reverse ++ [r].filterMap f.format := by
  cases hf : f.format r <;> simp [write, hf]

/-- A follower leaves the inbox of anyone else alone. -/
theorem inbox_step (h : Step b f a c g) (hj : b.inbox? j = some q)
    (hne : f.stage.listening → j ≠ f.listener) : c.inbox? j = some q := by
  cases h with
  | subscribe => exact Buffer.inbox_listen_other hj
  | refuse | ask | write | pause | wake | reply | drain | finish | done => exact hj
  | take hs => exact (Buffer.inbox_take_other (hne (by simp [hs, Stage.listening]))).trans hj
  | leave hs => exact (Buffer.inbox_unlisten_other (hne (by simp [hs, Stage.listening]))).trans hj
  | drop hs =>
    have hl : f.stage.listening := by rcases hs with hs | hs <;> simp [hs, Stage.listening]
    exact (Buffer.inbox_unlisten_other (hne hl)).trans hj

/-- The identifier of a new listener is free, and otherwise a follower keeps its own. -/
theorem listener_step (h : Step b f a c g) (hg : g.stage.listening) :
    f.stage.listening ∧ g.listener = f.listener ∨ g.listener = b.nextId := by
  cases h with
  | subscribe => exact .inr rfl
  | refuse hs | ask _ hs | take hs | write hs | pause hs | wake hs | reply hs | finish hs
  | done hs =>
    first | contradiction | exact .inl ⟨by simp [hs, Stage.listening], rfl⟩
  | leave | drain | drop => contradiction

end Follower

namespace Keeps

/-- A follower that only goes somewhere else loses nothing on the way. -/
theorem goTo {s : Stage} (hk : Keeps b f h) (hl : s.listening = f.stage.listening)
    (hb : s.batch = f.stage.batch) (hd : f.stage ≠ .draining) (hr : f.stage ≠ .dropped) :
    Keeps b (f.goTo s) h where
  on_eq := by simpa [Follower.goTo, hl] using hk.on_eq
  listed := by simpa [Follower.goTo, hl] using hk.listed
  emptied := fun _ _ => hk.emptied hd hr
  kept := by simpa [Follower.goTo, Follower.queued, hl, hb] using hk.kept

/-- The first record of a batch is written, the others stay. -/
theorem write {s : Stage} {rs : List Record} (hk : Keeps b f h) (hb : f.stage.batch = r :: rs)
    (hl : s.listening = f.stage.listening) (hs : s.batch = rs) :
    Keeps b ((f.write r).goTo s) h where
  on_eq := by simpa [Follower.goTo, Follower.write, hl] using hk.on_eq
  listed := by simpa [Follower.goTo, Follower.write, hl] using hk.listed
  emptied := by
    intro _ _
    apply hk.emptied
    · intro he
      simp [he, Stage.batch] at hb
    · intro he
      simp [he, Stage.batch] at hb
  kept := by
    have hq : ((f.write r).goTo s).queued b = f.queued b := by
      simp [Follower.goTo, Follower.write, Follower.queued, hl]
    have hw : ((f.write r).goTo s).written.reverse = f.written.reverse ++ [r].filterMap f.format :=
      Follower.reverse_write
    refine Eq.trans ?_ hk.kept
    rw [hb, hq, hw, List.append_assoc]
    change f.written.reverse ++ ([r].filterMap f.format ++ (s.batch ++ _).filterMap f.format) = _
    rw [hs, ← List.filterMap_append]
    rfl

theorem subscribe (hk : Keeps b f h) (hs : f.stage = .outside) :
    Keeps (f.subscribe b).1 (f.subscribe b).2 (h.act (.subscribe b.listen.1)) where
  on_eq := by simp [Follower.subscribe, Follower.listening_first, Hearing.act]
  listed := fun _ => ⟨[], Buffer.inbox_listen_self⟩
  emptied := fun _ _ => hk.emptied (by simp [hs]) (by simp [hs])
  kept := by
    have hq : (f.subscribe b).2.queued (f.subscribe b).1 = [] :=
      Follower.queued_of_listening (Follower.listening_first _) Buffer.inbox_listen_self
    have he : f.queue = [] := hk.emptied (by simp [hs]) (by simp [hs])
    have hb : (f.subscribe b).2.stage.batch = [] := Follower.batch_first _
    refine Eq.trans ?_ hk.kept
    rw [hq, hb, Follower.queued_of_silent (by simp [hs, Stage.listening]), he, hs]
    rfl

theorem take (hk : Keeps b f h) (hs : f.stage = .taking) :
    Keeps (f.take b).1 (f.take b).2 h where
  on_eq := by simpa [Follower.take, Follower.goTo, hs, Stage.listening] using hk.on_eq
  listed := by
    intro _
    obtain ⟨q, hq⟩ := hk.listed (by simp [hs, Stage.listening])
    exact ⟨[], Buffer.inbox_take_self hq⟩
  emptied := fun _ _ => hk.emptied (by simp [hs]) (by simp [hs])
  kept := by
    obtain ⟨q, hq⟩ := hk.listed (by simp [hs, Stage.listening])
    have hn : (f.take b).2.queued (f.take b).1 = [] :=
      Follower.queued_of_listening rfl (Buffer.inbox_take_self hq)
    have hb : (f.take b).2.stage.batch = q := by
      simp [Follower.take, Follower.goTo, Stage.batch, Buffer.take, hq]
    refine Eq.trans ?_ hk.kept
    rw [hn, hb, Follower.queued_of_listening (by simp [hs, Stage.listening]) hq, hs,
      List.append_nil]
    rfl

/-- What was in the inbox when the listener left is still queued. -/
theorem unlisten {s : Stage} (hk : Keeps b f h) (hl : f.stage.listening)
    (hb : f.stage.batch = []) (hs : s = .draining ∨ s = .dropped) (ha : a = .leave ∨ a = .drop) :
    Keeps (f.leave b).1 ((f.leave b).2.goTo s) (h.act a) where
  on_eq := by
    rcases hs with rfl | rfl <;> rcases ha with rfl | rfl <;> rfl
  listed := by rcases hs with rfl | rfl <;> simp [Follower.goTo, Stage.listening]
  emptied := by
    intro hd hr
    rcases hs with rfl | rfl
    · exact absurd rfl hd
    · exact absurd rfl hr
  kept := by
    obtain ⟨q, hq⟩ := hk.listed hl
    have hn : ((f.leave b).2.goTo s).queued (f.leave b).1 = q := by
      rcases hs with rfl | rfl <;>
        simp [Follower.queued, Follower.goTo, Stage.listening, Follower.leave, Buffer.unlisten, hq]
    have he : ((f.leave b).2.goTo s).stage.batch = [] := by
      rcases hs with rfl | rfl <;> rfl
    rw [Hearing.delivered_act]
    refine Eq.trans ?_ hk.kept
    rw [hn, he, Follower.queued_of_listening hl hq, hb]
    rfl

theorem drain (hk : Keeps b f h) (hs : f.stage = .draining) : Keeps b f.drain h where
  on_eq := by
    rw [hk.on_eq, hs]
    rfl
  listed := fun hl => absurd hl Bool.false_ne_true
  emptied := fun _ _ => rfl
  kept := by
    have hq : f.queued b = f.queue := Follower.queued_of_silent (by simp [hs, Stage.listening])
    refine Eq.trans ?_ hk.kept
    rw [hq, hs]
    simp [Follower.drain, Follower.queued, Stage.listening, Stage.batch]

theorem step (hk : Keeps b f h) (hs : Follower.Step b f a c g) : Keeps c g (h.act a) := by
  cases hs with
  | subscribe hs => exact hk.subscribe hs
  | refuse hs | pause hs | wake hs | reply hs | done hs =>
    exact hk.goTo (by rw [hs]; rfl) (by rw [hs]; rfl) (by simp [hs]) (by simp [hs])
  | ask cancelled hs =>
    cases cancelled <;>
      exact hk.goTo (by rw [hs]; rfl) (by rw [hs]; rfl) (by simp [hs]) (by simp [hs])
  | write hs | finish hs =>
    exact hk.write (by rw [hs]; rfl) (by rw [hs]; rfl) rfl
  | take hs => exact hk.take hs
  | leave hs =>
    exact hk.unlisten (by simp [hs, Stage.listening]) (by simp [hs, Stage.batch]) (.inl rfl)
      (.inl rfl)
  | drain hs => exact hk.drain hs
  | drop hs =>
    refine hk.unlisten ?_ ?_ (.inr rfl) (.inr rfl)
    · rcases hs with hs | hs <;> simp [hs, Stage.listening]
    · rcases hs with hs | hs <;> simp [hs, Stage.batch]

/-- Nothing changes for a follower as long as its inbox stays as it is. -/
theorem congr (hk : Keeps b f h)
    (hj : ∀ q, f.stage.listening → b.inbox? f.listener = some q → c.inbox? f.listener = some q) :
    Keeps c f h where
  on_eq := hk.on_eq
  listed := by
    intro hl
    obtain ⟨q, hq⟩ := hk.listed hl
    exact ⟨q, hj q hl hq⟩
  emptied := hk.emptied
  kept := by
    have hq : f.queued c = f.queued b := by
      by_cases hl : f.stage.listening
      · obtain ⟨q, hq⟩ := hk.listed hl
        rw [Follower.queued_of_listening hl hq, Follower.queued_of_listening hl (hj q hl hq)]
      · have hl : f.stage.listening = false := by simpa using hl
        rw [Follower.queued_of_silent hl, Follower.queued_of_silent hl]
    rw [hq, hk.kept]

/-- A call puts the record behind all that waits for the one who is called. -/
theorem call (hk : Keeps b f h) (i : Nat) :
    Keeps (b.reach j r) f (h.after i (.call j r)) := by
  by_cases hj : h.on = some j
  · have hl : f.stage.listening ∧ f.listener = j := by
      simpa [hk.on_eq] using hj
    obtain ⟨hl, rfl⟩ := hl
    obtain ⟨q, hq⟩ := hk.listed hl
    have hd : h.after i (.call f.listener r) = { h with delivered := h.delivered ++ [r] } :=
      if_pos hj
    rw [hd]
    refine ⟨hk.on_eq, fun _ => ⟨_, Buffer.inbox_reach_self hq⟩, hk.emptied, ?_⟩
    have hw := hk.kept
    rw [Follower.queued_of_listening hl hq] at hw
    have hr : (h.delivered ++ [r]).filterMap f.format =
        h.delivered.filterMap f.format ++ [r].filterMap f.format := List.filterMap_append
    rw [Follower.queued_of_listening hl (Buffer.inbox_reach_self hq)]
    refine Eq.trans ?_ hr.symm
    rw [← hw, ← List.append_assoc, List.filterMap_append, List.append_assoc]
  · rw [show h.after i (.call j r) = h from if_neg hj]
    apply hk.congr
    intro q hl hq
    have hne : f.listener ≠ j := by
      rintro rfl
      exact hj (by simp [hk.on_eq, hl])
    rw [Buffer.inbox_reach_other hne, hq]

theorem push (hk : Keeps b f h) (i : Nat) : Keeps (b.store r) f (h.after i (.push r)) := by
  have hs : Keeps (b.store r) f h := hk.congr fun _ _ hq => hq
  simp only [Hearing.after]
  split
  · exact ⟨hs.on_eq, hs.listed, hs.emptied, hs.kept⟩
  · exact hs

end Keeps
end NodeConsole.Log
