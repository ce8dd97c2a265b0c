import NodeConsole.Console.Script
import NodeConsole.Proofs.Console.Handlers
import NodeConsole.Proofs.Log.Subscription

/-! What the turns of a command leave as it was. -/
namespace NodeConsole

/-- A node without its records. -/
structure Frame where
  channels : ChannelTable
  filters : FilterTable
  /-- Who is on the log. -/
  listeners : List Nat

namespace Frame

variable {f : Frame}

def join (o : Option Nat) (f : Frame) : Frame := { f with listeners := f.listeners ++ o.toList }

def part (o : Option Nat) (f : Frame) : Frame :=
  { f with listeners := o.elim f.listeners f.listeners.erase }

def ban (o : Option String) (f : Frame) : Frame :=
  { f with filters := o.elim f.filters fun target => (FilterTable.ban target f.filters).2 }

theorem join_none (f : Frame) : f.join none = f := by
  simp [join]

/-- Whoever joins and parts again was never there. -/
theorem part_join {o : Option Nat} (h : (f.join o).listeners.Nodup) : (f.join o).part o = f := by
  cases o with
  | none => exact join_none f
  | some id =>
    have hn : id ∉ f.listeners := by
      intro hm
      exact (List.nodup_append.mp h).2.2 id hm id (by simp) rfl
    simp [part, join, List.erase_append_right, hn]

end Frame

namespace Node

variable {n : Node}

def frame (n : Node) : Frame := ⟨n.channels, n.filters, n.log.ids⟩

theorem frame_push (r : Log.Record) (n : Node) : (n.push r).frame = n.frame := by
  simp [frame, push, Log.Buffer.push, Log.Buffer.ids, Log.Listener.receive]

theorem frame_pushAll (rs : List Log.Record) (n : Node) : (n.pushAll rs).frame = n.frame := by
  induction rs generalizing n with
  | nil => rfl
  | cons r rs ih => exact (ih (n.push r)).trans (frame_push r n)

theorem frame_note (x : Log.Notice) (n : Node) : (n.note x).frame = n.frame := by
  unfold note
  split
  · exact frame_push _ n
  · rfl

theorem frame_noteAll (xs : List Log.Notice) (n : Node) : (n.noteAll xs).frame = n.frame := by
  induction xs generalizing n with
  | nil => rfl
  | cons x xs ih => exact (ih (n.note x)).trans (frame_note x n)

theorem frame_listen (n : Node) : n.listen.2.frame = n.frame.join (some n.listen.1) :=
  congrArg (Frame.mk n.channels n.filters) n.log.ids_listen

theorem frame_unlisten (id : Nat) (n : Node) :
    (n.unlisten id).2.frame = n.frame.part (some id) := by
  simp [frame, unlisten, Frame.part, Log.Buffer.ids_unlisten]

theorem frame_take (id : Nat) (n : Node) : (n.take id).2.frame = n.frame := by
  simp [frame, take, Log.Buffer.take, Log.Buffer.ids_alter]

theorem nodup_listeners (n : Node) : n.frame.listeners.Nodup := n.log.nodup_ids

end Node

namespace Console

variable {Wait Call : Type}

/-- A failure is noted, and a success is not. -/
theorem frame_conclude (command : String) (k : Conclusion) :
    (conclude command k : Progress Wait Call).node.frame = k.node.frame := by
  unfold conclude
  split
  · rfl
  · exact Node.frame_note _ _

end Console

namespace Commands

variable {port : UInt16} {sv : Services} {line : String} {node : Node} {k : Call}

/-- The listener of a command that asks or calls, if it has one. -/
def listener? : Tail ⊕ Call → Option Nat
  | .inl t => some t.listener
  | .inr (.greet _ relay _) => some relay
  | .inr _ => none

/-- The listener that a turn leaves on the log. -/
def left? : Next Tail Call → Option Nat
  | .done _ => none
  | .asks t => listener? (.inl t)
  | .calls k => listener? (.inr k)

/-- What a line bans, if it is split into `filter`, `ban` and one word more. -/
def banned? : List String → Option String
  | ["filter", "ban", target] => some target
  | _ => none

theorem banned_of_ne {name : String} (h : name ≠ "filter") (args : List String) :
    banned? (name :: args) = none := by
  unfold banned?
  split
  · rename_i heq
    exact absurd (List.cons.inj heq).1 h
  · rfl

theorem frame_say (texts : List String) (node : Node) :
    (say texts node).node.frame = node.frame.join (left? (say texts node).next) :=
  (Frame.join_none _).symm

/-- A turn that only asks for something has no listener and changes nothing. -/
theorem frame_call (h : listener? (.inr k) = none) :
    node.frame = node.frame.join (left? (.calls k)) := by
  rw [left?, h, Frame.join_none]

theorem frame_filter (args : List String) (node : Node) :
    (filter args node).node.frame =
      (node.frame.ban (banned? ("filter" :: args))).join (left? (filter args node).next) := by
  unfold filter
  split
  · exact frame_say _ node
  · exact (Node.frame_note _ _).trans (Frame.join_none _).symm
  · rename_i sub rest hne
    have hb : banned? ("filter" :: sub :: rest) = none := by
      unfold banned?
      split
      · rename_i heq
        simp only [List.cons.injEq] at heq
        obtain ⟨-, rfl, rfl⟩ := heq
        exact absurd rfl (hne _ rfl)
      · rfl
    rw [hb]
    split
    · exact frame_say _ node
    · split <;> exact frame_say _ node

theorem frame_log (args : List String) (node : Node) :
    (log args node).node.frame = node.frame.join (left? (log args node).next) :=
  (Node.frame_note _ _).trans (Node.frame_listen node)

theorem frame_nslookup (args : List String) (node : Node) :
    (nslookup args node).node.frame = node.frame.join (left? (nslookup args node).next) := by
  unfold nslookup
  split
  · split <;> exact frame_call rfl
  · exact frame_say _ node

theorem frame_get (args : List String) (node : Node) :
    (get args node).node.frame = node.frame.join (left? (get args node).next) := by
  unfold get
  split
  · exact frame_call rfl
  · exact frame_say _ node

theorem frame_helo (port : UInt16) (args : List String) (node : Node) :
    (helo port args node).node.frame = node.frame.join (left? (helo port args node).next) := by
  simp only [helo]
  split
  · split
    · exact (Frame.join_none _).symm
    · exact Node.frame_listen node
  · exact frame_say _ node

theorem frame_echo (args : List String) (node : Node) :
    (echo args node).node.frame = node.frame.join (left? (echo args node).next) := by
  simp only [echo]
  split <;> exact frame_say _ node

/-- The first turn of a command changes the filters if it is a ban, and otherwise only who is on the
log. -/
theorem frame_first {name : String} {h : Handler Tail Call}
    (hh : (console port sv).handler? name = some h) (args : List String) (node : Node) :
    (h.start args node).node.frame =
      (node.frame.ban (banned? (name :: args))).join (left? (h.start args node).next) := by
  obtain ⟨hm, rfl⟩ := handler_iff.mp hh
  simp only [handlers, List.mem_cons, List.not_mem_nil, or_false] at hm
  rcases hm with rfl | rfl | rfl | rfl | rfl | rfl | rfl
  · exact frame_log args node
  · exact frame_nslookup args node
  · exact frame_helo port args node
  · exact frame_filter args node
  · exact frame_get args node
  · exact frame_say _ node
  · exact frame_echo args node

/-- What a line bans; nothing if it is no line or not a ban. -/
def target? (line : String) : Option String := (words line).toOption.bind banned?

/-- Whose listener a dispatch leaves on the log. -/
theorem frame_advance (command : String) (t : Turn Tail Call) :
    (Console.advance command t).node.frame = t.node.frame ∧
      ((Console.advance command t).running.bind fun r => listener? r.place) = left? t.next := by
  unfold Console.advance
  split
  · rename_i outcome hn
    refine ⟨Console.frame_conclude command _, ?_⟩
    rw [hn, Console.conclude]
    cases outcome <;> rfl
  · rename_i w hn
    exact ⟨rfl, congrArg left? hn.symm⟩
  · rename_i k hn
    exact ⟨rfl, congrArg left? hn.symm⟩

theorem frame_dispatch (port : UInt16) (sv : Services) (line : String) (node : Node) :
    ((console port sv).dispatch line node).node.frame =
      (node.frame.ban (target? line)).join
        (((console port sv).dispatch line node).running.bind fun r => listener? r.place) := by
  have hr (message : String) (hb : target? line = none) :
      (Console.refuse message node : Console.Progress Tail Call).node.frame =
        (node.frame.ban (target? line)).join none := by
    rw [hb, Frame.join_none]
    rfl
  unfold Console.dispatch
  split
  · rename_i e hw
    exact hr _ (by rw [target?, hw]; rfl)
  · rename_i hw
    exact hr _ (by rw [target?, hw]; rfl)
  · rename_i name args hw
    have ht : target? line = banned? (name :: args) := by
      rw [target?, hw]
      rfl
    split
    · rename_i hn
      apply hr
      rw [ht, banned_of_ne]
      rintro rfl
      rw [handler_filter] at hn
      contradiction
    · rename_i h hh
      obtain ⟨ha, hl⟩ := frame_advance h.name
        (h.start args (node.note (.event (Console.dispatchedEvent h.name args))))
      rw [Console.start, ha, hl, frame_first hh, Node.frame_note, ht]

theorem frame_finish (t : Tail) (node : Node) :
    (finish t node).node.frame = node.frame.part (listener? (.inl t)) :=
  (Node.frame_note _ _).trans (Node.frame_unlisten t.listener node)

theorem frame_shown {α : Type} (r : Except Failure α) (view : α → Except Failure (List Write))
    (node : Node) : (shown r view node).node.frame = node.frame := by
  unfold shown
  split <;> rfl

theorem frame_answer (sv : Services) (k : Call) (node : Node) :
    (answer sv k node).node.frame = node.frame.part (listener? (.inr k)) := by
  cases k with
  | lookup | reverse | fetch => exact frame_shown _ _ node
  | greet host relay verbose =>
    refine (Node.frame_unlisten relay _).trans ?_
    rw [Node.frame_noteAll]
    rfl

/-- What is left of a command that is dropped. -/
theorem frame_abandon (t : Tail) (node : Node) :
    (abandon t node).frame = node.frame.part (listener? (.inl t)) :=
  Node.frame_unlisten t.listener node

theorem frame_abandonCall (k : Call) (node : Node) :
    (abandonCall k node).frame = node.frame.part (listener? (.inr k)) := by
  cases k with
  | lookup | reverse | fetch => rfl
  | greet host relay verbose => exact Node.frame_unlisten relay node

/-- However often a tail asks, at its end its listener has left. -/
theorem frame_poll (port : UInt16) (sv : Services) (command : String) (ending : Ending)
    (qs : List Query) (t : Tail) (node : Node) :
    ((console port sv).poll command ending qs t node).node.frame =
      node.frame.part (listener? (.inl t)) := by
  induction qs generalizing node with
  | nil =>
    cases ending with
    | cancelled => exact (Console.frame_conclude command _).trans (frame_finish t node)
    | dropped => exact frame_abandon t node
  | cons q qs ih =>
    have hp := Node.frame_pushAll q.arrivals node
    unfold Console.poll
    by_cases hq : q.cancelled
    · simp only [if_pos hq]
      refine (Console.frame_conclude command _).trans ?_
      rw [← hp]
      exact frame_finish t _
    · simp only [if_neg hq]
      refine (ih _).trans ?_
      rw [← hp]
      exact congrArg (Frame.part _) (Node.frame_take t.listener _)

/-- Whoever joins with the first turn of a command and parts again leaves nothing but a ban. -/
theorem part_dispatch (port : UInt16) (sv : Services) (line : String) (node : Node) :
    ((console port sv).dispatch line node).node.frame.part
        (((console port sv).dispatch line node).running.bind fun r => listener? r.place) =
      node.frame.ban (target? line) := by
  have hn := ((console port sv).dispatch line node).node.nodup_listeners
  rw [frame_dispatch] at hn ⊢
  exact Frame.part_join hn

/-- One line, run to its end or dropped. -/
theorem frame_run (port : UInt16) (sv : Services) (s : Script) (line : String) (node : Node) :
    ((console port sv).run s line node).node.frame = node.frame.ban (target? line) := by
  have hd := part_dispatch port sv line node
  rw [Console.run]
  generalize (console port sv).dispatch line node = p at hd ⊢
  obtain ⟨writes, m, _ | ⟨command, t | k⟩⟩ := p
  · exact hd
  · exact (frame_poll port sv command _ _ t m).trans hd
  · dsimp only
    split
    · exact (frame_abandonCall k m).trans hd
    · exact ((Console.frame_conclude command _).trans (frame_answer sv k m)).trans hd

/-- A line, with what the services do meanwhile and the script of its command. -/
structure Order where
  services : Services
  script : Script
  line : String
  /-- What else reaches the log, before the line. -/
  arrivals : List Log.Record := []

def Order.run (port : UInt16) (o : Order) (node : Node) : Run Call :=
  (console port o.services).run o.script o.line (node.pushAll o.arrivals)

/-- Runs lines one after another, as `Console.runAll` does, but on services that may change, and
with other writers on the log. -/
def runEach (port : UInt16) : List Order → Node → List (Run Call) × Node
  | [], node => ([], node)
  | o :: os, node =>
    let r := o.run port node
    let (rs, node) := runEach port os r.node
    (r :: rs, node)

theorem runAll_eq_runEach (ks : List (Script × String)) (node : Node) :
    (console port sv).runAll ks node = runEach port (ks.map fun k => ⟨sv, k.1, k.2, []⟩) node := by
  induction ks generalizing node with
  | nil => rfl
  | cons k ks ih =>
    simp only [Console.runAll, List.map_cons, runEach, ih]
    rfl

/-- The filters after some bans. -/
def bans (fs : FilterTable) (targets : List String) : FilterTable :=
  targets.foldl (fun fs target => (fs.ban target).2) fs

/-- What some lines ban, in order. -/
def targets (os : List Order) : List String := os.filterMap fun o => target? o.line

theorem bans_cons (fs : FilterTable) (o : Order) (os : List Order) :
    bans fs (targets (o :: os)) = bans (bans fs (target? o.line).toList) (targets os) := by
  rw [targets, List.filterMap_cons]
  cases target? o.line <;> rfl

/-- A command leaves the channels as they were, and who is on the log, and bans what its line
says. -/
theorem run_keeps (port : UInt16) (o : Order) (node : Node) :
    (o.run port node).node.channels = node.channels ∧
      (o.run port node).node.filters = bans node.filters (target? o.line).toList ∧
      (o.run port node).node.log.ids = node.log.ids := by
  have hr := frame_run port o.services o.script o.line (node.pushAll o.arrivals)
  rw [Node.frame_pushAll] at hr
  refine ⟨congrArg Frame.channels hr, (congrArg Frame.filters hr).trans ?_,
    congrArg Frame.listeners hr⟩
  cases target? o.line <;> rfl

theorem after_each {os : List Order} {i : Nat} {r : Run Call}
    (hi : (runEach port os node).1[i]? = some r) :
    r.node.channels = node.channels ∧
      r.node.filters = bans node.filters (targets (os.take (i + 1))) ∧
      r.node.log.ids = node.log.ids := by
  induction os generalizing node i with
  | nil => simp [runEach] at hi
  | cons o os ih =>
    obtain ⟨hc, hf, hl⟩ := run_keeps port o node
    rw [List.take_succ_cons, bans_cons]
    cases i with
    | zero =>
      obtain rfl := Option.some.inj hi
      exact ⟨hc, hf, hl⟩
    | succ i =>
      have hr := ih hi
      rwa [hc, hf, hl] at hr

theorem after_all (port : UInt16) (os : List Order) (node : Node) :
    (runEach port os node).2.channels = node.channels ∧
      (runEach port os node).2.filters = bans node.filters (targets os) ∧
      (runEach port os node).2.log.ids = node.log.ids := by
  induction os generalizing node with
  | nil => exact ⟨rfl, rfl, rfl⟩
  | cons o os ih =>
    obtain ⟨hc, hf, hl⟩ := run_keeps port o node
    have hr := ih (o.run port node).node
    rwa [hc, hf, hl, ← bans_cons] at hr

theorem names_console (port : UInt16) (sv : Services) :
    (console port sv).names = ["chan", "echo", "filter", "get", "helo", "log", "nslookup"] := by
  cbv

theorem target_eq_some_iff {target : String} :
    target? line = some target ↔ words line = .ok ["filter", "ban", target] := by
  have hb (ws : List String) : banned? ws = some target ↔ ws = ["filter", "ban", target] := by
    unfold banned?
    split
    · simp
    · rename_i hne
      refine ⟨nofun, ?_⟩
      rintro rfl
      exact absurd rfl (hne target)
  unfold target?
  cases words line with
  | error f => simp [Except.toOption]
  | ok ws => simpa [Except.toOption] using hb ws

/-- However lines are run, channels, commands and listeners stay, and the filters change by `filter
ban TARGET` alone. -/
theorem lines_keep (port : UInt16) (os : List Order) (node : Node) :
    (∀ {i : Nat} {r : Run Call}, (runEach port os node).1[i]? = some r →
        r.node.channels = node.channels ∧
          r.node.filters = bans node.filters (targets (os.take (i + 1))) ∧
          r.node.log.ids = node.log.ids) ∧
      (runEach port os node).1.length = os.length ∧
      ((runEach port os node).2.channels = node.channels ∧
        (runEach port os node).2.filters = bans node.filters (targets os) ∧
        (runEach port os node).2.log.ids = node.log.ids) ∧
      (∀ line target, target? line = some target ↔ words line = .ok ["filter", "ban", target]) ∧
      (∀ sv, (console port sv).names =
          ["chan", "echo", "filter", "get", "helo", "log", "nslookup"] ∧
        ∀ sv', (console port sv').handlers = (console port sv).handlers) ∧
      ∀ sv ks, (console port sv).runAll ks node =
        runEach port (ks.map fun k => ⟨sv, k.1, k.2, []⟩) node := by
  refine ⟨after_each, ?_, after_all port os node, fun _ _ => target_eq_some_iff, ?_, ?_⟩
  · induction os generalizing node with
    | nil => rfl
    | cons o os ih => exact congrArg (· + 1) (ih _)
  · exact fun sv => ⟨names_console port sv, fun _ => rfl⟩
  · exact fun sv ks => runAll_eq_runEach ks node

/-- A ban, a tail that is dropped, a handshake that fails and a line that is none. -/
theorem lines_keep_ban :
    let os : List Order :=
      [⟨.silent, {}, "filter ban \"a b\"", []⟩,
        ⟨.silent, { ending := .dropped }, "log", [⟨.info, "a"⟩]⟩,
        ⟨.silent, {}, "helo peer", []⟩, ⟨.silent, {}, "filter ban \"a", []⟩]
    let node : Node := { filters := [⟨"c", .network⟩], log := { capacity := 0 } }
    ∃ r, (runEach 0 os node).1[3]? = some r ∧
      r.node.filters = [⟨"c", .network⟩, ⟨"a b", .ban⟩] ∧ r.node.log.ids = [] := by
  intro os node
  obtain ⟨-, hf, hl⟩ := (lines_keep 0 os node).1 (i := 3) rfl
  exact ⟨_, rfl, hf.trans (by decide), hl⟩

end Commands
end NodeConsole
