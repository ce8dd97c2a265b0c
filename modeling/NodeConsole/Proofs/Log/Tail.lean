import NodeConsole.Commands
import NodeConsole.Console.Script
import NodeConsole.Proofs.Console.Handlers
import NodeConsole.Proofs.Log.Trace

/-! The `log` command as a run of a tail. -/
namespace NodeConsole.Log

variable {s : Following} {b c : Buffer} {f g : Follower} {rs qs : List Record} {r : Record}
  {n : Node} {t : Commands.Tail}

/-- The only follower can have come to this, with `rs` delivered to it. -/
def Hears (s : Following) (b : Buffer) (f : Follower) (rs : List Record) : Prop :=
  ∃ es, Following.Trace s es ⟨b, [f], []⟩ ∧ (Hearing.of 0 es).delivered = rs

theorem hears_start (b : Buffer) (f : Follower) : Hears ⟨b, [f], []⟩ b f [] :=
  ⟨[], .refl, rfl⟩

theorem hears_move {a : Follower.Act} (h : Hears s b f rs) (hm : Follower.Step b f a c g) :
    Hears s c g rs := by
  obtain ⟨es, ht, rfl⟩ := h
  have hs : Following.Step ⟨b, [f], []⟩ (.move 0 a) ⟨c, [g], []⟩ := .move rfl hm fun _ => rfl
  refine ⟨es ++ [.move 0 a], ht.snoc hs, ?_⟩
  rw [Hearing.of_snoc, Hearing.after_self, Hearing.delivered_act]

theorem trace_calls {es : List Following.Event} (ids : List Nat)
    (h : Following.Trace s es ⟨b, [f], [⟨r, ids⟩]⟩) :
    Following.Trace s (es ++ ids.map (.call · r))
      ⟨ids.foldl (fun b id => b.reach id r) b, [f], [⟨r, []⟩]⟩ := by
  induction ids generalizing es b with
  | nil => simpa using h
  | cons id ids ih =>
    have hc : Following.Step ⟨b, [f], [⟨r, id :: ids⟩]⟩ (.call id r)
        ⟨b.reach id r, [f], [⟨r, ids⟩]⟩ := .call (k := 0) rfl
    simpa using ih (h.snoc hc)

/-- The events of a push that nothing comes between. -/
def pushEvents (b : Buffer) (r : Record) : List Following.Event :=
  .push r :: ((b.listeners.map (·.id)).map (.call · r) ++ [.done])

theorem trace_push {es : List Following.Event} (h : Following.Trace s es ⟨b, [f], []⟩)
    (r : Record) :
    Following.Trace s (es ++ pushEvents b r) ⟨b.push r, [f], []⟩ := by
  have hc := trace_calls _ (h.snoc (.push r))
  have hd := hc.snoc (.done (k := 0) rfl)
  simp only [Buffer.reachAll_store] at hd
  simpa [pushEvents] using hd

theorem delivered_calls {ids : List Nat} (hn : ids.Nodup) (h : Hearing) :
    ((ids.map (.call · r)).foldl (Hearing.after 0) h).delivered =
      if h.on.any (· ∈ ids) then h.delivered ++ [r] else h.delivered := by
  induction ids generalizing h with
  | nil => cases ho : h.on <;> simp
  | cons id ids ih =>
    obtain ⟨hi, hn⟩ := List.nodup_cons.mp hn
    rw [List.map_cons, List.foldl_cons, ih hn]
    by_cases ho : h.on = some id
    · simp [Hearing.after, ho, hi]
    · have ha : h.after 0 (.call id r) = h := if_neg ho
      rw [ha]
      cases hon : h.on with
      | none => rfl
      | some j =>
        have hj : j ≠ id := by
          rintro rfl
          exact ho hon
        simp [hj]

theorem delivered_push (h : Hearing) :
    ((pushEvents b r).foldl (Hearing.after 0) h).delivered =
      if h.on.any (· ∈ b.listeners.map (·.id)) then h.delivered ++ [r] else h.delivered := by
  have hp : (h.after 0 (.push r)).on = h.on ∧ (h.after 0 (.push r)).delivered = h.delivered := by
    simp only [Hearing.after]
    split <;> exact ⟨rfl, rfl⟩
  have hc := delivered_calls (r := r) b.nodup_ids (h.after 0 (.push r))
  rw [hp.1, hp.2] at hc
  rw [pushEvents, List.foldl_cons, List.foldl_append]
  exact hc

theorem hears_push (hs : s.Fresh) (h : Hears s b f rs) (r : Record) :
    Hears s (b.push r) f (if f.stage.listening then rs ++ [r] else rs) := by
  obtain ⟨es, ht, rfl⟩ := h
  have hk : Keeps b f (.of 0 es) := (Following.tracked_trace hs ht).keeps (i := 0) rfl
  refine ⟨_, trace_push ht r, ?_⟩
  rw [Hearing.of_append, delivered_push, hk.on_eq]
  by_cases hl : f.stage.listening
  · obtain ⟨q, hq⟩ := hk.listed hl
    have hi : f.listener ∈ b.listeners.map (·.id) := Buffer.mem_of_inbox hq
    rw [if_pos hl, if_pos hl, Option.any_some, if_pos (decide_eq_true hi)]
  · rw [if_neg hl, if_neg hl]
    rfl

theorem hears_pushAll (hs : s.Fresh) (hl : f.stage.listening) (h : Hears s n.log f rs) :
    Hears s (n.pushAll qs).log f (rs ++ qs) := by
  induction qs generalizing n rs with
  | nil => simpa [Node.pushAll] using h
  | cons r qs ih =>
    have hp := hears_push hs h r
    rw [if_pos hl] at hp
    have ha := ih (n := n.push r) hp
    rwa [List.append_assoc, List.singleton_append] at ha

theorem hears_note (hs : s.Fresh) (h : Hears s n.log f rs) (x : Notice) :
    Hears s (n.note x).log f
      (if f.stage.listening then rs ++ (x.record? n.threshold).toList else rs) := by
  unfold Node.note
  cases x.record? n.threshold with
  | none => simpa using h
  | some r => exact hears_push hs h r

/-- The follower after a batch. -/
def Follower.writeAll (rs : List Record) (f : Follower) : Follower :=
  rs.foldl (fun f r => f.write r) f

theorem hears_writing (h : Hears s b (f.goTo (.writing qs)) rs) :
    Hears s b ((f.writeAll qs).goTo (.writing [])) rs := by
  induction qs generalizing f with
  | nil => exact h
  | cons r qs ih => exact ih (hears_move h (.write rfl))

theorem hears_finishing (h : Hears s b (f.goTo (.finishing qs)) rs) :
    Hears s b ((f.writeAll qs).goTo (.finishing [])) rs := by
  induction qs generalizing f with
  | nil => exact h
  | cons r qs ih => exact ih (hears_move h (.finish rfl))

theorem written_writeAll (qs : List Record) (hf : f.format = Follower.tail.format) :
    (f.writeAll qs).format = Follower.tail.format ∧
      (f.writeAll qs).listener = f.listener ∧
      (f.writeAll qs).written.reverse = f.written.reverse ++ qs.map Record.chunk := by
  induction qs generalizing f with
  | nil => exact ⟨hf, rfl, by simp [Follower.writeAll]⟩
  | cons r qs ih =>
    have hw : (f.write r).written.reverse = f.written.reverse ++ [r.chunk] := by
      simp [Follower.write, hf, Follower.tail]
    obtain ⟨hg, hl, ha⟩ := ih (f := f.write r) hf
    rw [hw, List.append_assoc] at ha
    exact ⟨hg, hl, ha⟩

/-- What a follower has written, as the console passes it on. -/
def Follower.shown (f : Follower) : List Write := f.written.reverse.map .text

theorem shown_writeAll (hf : f.format = Follower.tail.format) :
    (f.writeAll qs).shown = f.shown ++ Commands.chunks qs := by
  simp [Follower.shown, (written_writeAll qs hf).2.2, Commands.chunks]

theorem inbox_of_hears (hs : s.Fresh) (h : Hears s b f rs) (hl : f.stage.listening) :
    ∃ q, b.inbox? f.listener = some q := by
  obtain ⟨es, ht, -⟩ := h
  exact ((Following.tracked_trace hs ht).keeps (i := 0) rfl).listed hl

theorem hears_proceed (hs : s.Fresh) (hf : f.format = Follower.tail.format)
    (hl : f.listener = t.listener) (h : Hears s n.log (f.goTo .asking) rs) :
    ∃ g : Follower, g.format = Follower.tail.format ∧ g.listener = t.listener ∧
      g.shown = f.shown ++ (Commands.proceed t n).1 ∧
      Hears s (Commands.proceed t n).2.1.log (g.goTo .sleeping) rs ∧
      (Commands.proceed t n).2.1.log.inbox? t.listener = some [] := by
  obtain ⟨q, hq⟩ := inbox_of_hears hs h rfl
  have hq : n.log.inbox? t.listener = some q := hl ▸ hq
  have ht := hears_move (hears_move h (.ask false rfl)) (.take rfl)
  have hw : Hears s (n.log.take f.listener).2 (f.goTo (.writing (n.log.take f.listener).1)) rs := ht
  have hp := hears_move (hears_writing hw) (.pause rfl)
  rw [hl] at hp
  have hfw := written_writeAll (n.log.take t.listener).1 hf
  exact ⟨_, hfw.1, hfw.2.1.trans hl, shown_writeAll hf, hp, Buffer.inbox_take_self hq⟩

theorem hears_finish (hs : s.Fresh) (hf : f.format = Follower.tail.format)
    (hl : f.listener = t.listener) (h : Hears s n.log (f.goTo .asking) rs) :
    ∃ g : Follower, g.stage = .ended ∧ g.format = Follower.tail.format ∧
      g.shown = f.shown ++ (Commands.finish t n).writes ∧
      Hears s (Commands.finish t n).node.log g rs := by
  have hv := hears_move (hears_move h (.ask true rfl)) (.leave rfl)
  have hd := hears_move hv (.drain rfl)
  let u : Follower :=
    { f with queue := [], removals := f.listener :: f.removals }
  have hw : Hears s (n.unlisten f.listener).2.log
      (u.goTo (.finishing (n.unlisten f.listener).1)) rs := hd
  have he := hears_note hs (hears_move (hears_finishing hw) (.done rfl))
    (.event (Commands.tailEvent "log tail stopped" t.listener))
  rw [hl] at he
  have hu : u.format = Follower.tail.format := hf
  refine ⟨(u.writeAll (n.unlisten t.listener).1).goTo .ended, rfl, (written_writeAll _ hu).1, ?_,
    he⟩
  exact shown_writeAll hu

theorem hears_abandon (hl : f.listener = t.listener) (h : Hears s n.log (f.goTo .sleeping) rs)
    (hq : n.log.inbox? t.listener = some []) :
    ∃ g : Follower, g.stage = .dropped ∧ g.queue = [] ∧ g.format = f.format ∧ g.shown = f.shown ∧
      Hears s (Commands.abandon t n).log g rs := by
  have hd := hears_move h (.drop (.inl rfl))
  have he : ((f.goTo .sleeping).drop n.log).2.queue = [] := by
    simp [Follower.drop, Follower.leave, Follower.goTo, Buffer.unlisten, hl, hq]
  have ha : (Commands.abandon t n).log = ((f.goTo .sleeping).drop n.log).1 := by
    simp [Commands.abandon, Node.unlisten, Follower.drop, Follower.leave, Follower.goTo, hl]
  exact ⟨_, rfl, he, rfl, rfl, ha ▸ hd⟩

/-- All that arrives at the questions up to the first that is answered with yes, and at that one. -/
def heard (queries : List Query) : List Record :=
  (queries.take (queries.findIdx (·.cancelled) + 1)).flatMap (·.arrivals)

theorem heard_cons (q : Query) (queries : List Query) :
    heard (q :: queries) = if q.cancelled then q.arrivals else q.arrivals ++ heard queries := by
  cases hc : q.cancelled <;> simp [heard, List.findIdx_cons, hc]

theorem hears_poll (hs : s.Fresh) (port : UInt16) (sv : Services) (ending : Ending)
    {queries : List Query} (hf : f.format = Follower.tail.format) (hl : f.listener = t.listener)
    (h : Hears s n.log (f.goTo .asking) rs)
    (hd : ending = .dropped → queries = [] →
      Hears s n.log (f.goTo .sleeping) rs ∧ n.log.inbox? t.listener = some []) :
    ∃ g : Follower,
      Hears s ((Commands.console port sv).poll "log" ending queries t n).node.log g
        (rs ++ heard queries) ∧
      g.format = Follower.tail.format ∧
      g.shown = f.shown ++ ((Commands.console port sv).poll "log" ending queries t n).writes ∧
      (g.stage = .ended ∨ g.stage = .dropped ∧ g.queue = []) := by
  induction queries generalizing f rs t n with
  | nil =>
    rw [show heard [] = [] from rfl, List.append_nil]
    cases ending with
    | cancelled =>
      obtain ⟨g, hg, hfg, hw, hh⟩ := hears_finish hs hf hl h
      exact ⟨g, hh, hfg, hw, .inl hg⟩
    | dropped =>
      obtain ⟨hh, hq⟩ := hd rfl rfl
      obtain ⟨g, hg, he, hfg, hw, hh⟩ := hears_abandon hl hh hq
      exact ⟨g, hh, hfg.trans hf, by simpa [Console.poll] using hw, .inr ⟨hg, he⟩⟩
  | cons q queries ih =>
    have hp : Hears s (n.pushAll q.arrivals).log (f.goTo .asking) (rs ++ q.arrivals) :=
      hears_pushAll hs rfl h
    cases hc : q.cancelled with
    | true =>
      obtain ⟨g, hg, hfg, hw, hh⟩ := hears_finish hs hf hl hp
      simp only [Console.poll, heard_cons, hc, if_true]
      exact ⟨g, hh, hfg, hw, .inl hg⟩
    | false =>
      obtain ⟨g, hfg, hlg, hw, hh, hq⟩ := hears_proceed hs hf hl hp
      obtain ⟨u, hu, hfu, hwu, he⟩ := ih hfg hlg (hears_move hh (.wake rfl)) fun _ _ => ⟨hh, hq⟩
      simp only [Console.poll, heard_cons, hc, Bool.false_eq_true, if_false]
      rw [hw, List.append_assoc] at hwu
      rw [List.append_assoc] at hu
      exact ⟨u, hu, hfu, hwu, he⟩

theorem completed_poll (port : UInt16) (sv : Services) (ending : Ending) (queries : List Query) :
    ((Commands.console port sv).poll "log" ending queries t n).completed =
      (decide (ending = .cancelled) || queries.any (·.cancelled)) := by
  induction queries generalizing t n with
  | nil => cases ending <;> rfl
  | cons q queries ih =>
    cases hc : q.cancelled with
    | true => simp [Console.poll, hc]
    | false => simp [Console.poll, hc, ih]

/-- The tail's own first event, if the log is to have it. It comes after the subscription. -/
def opening (n : Node) : List Record :=
  ((Notice.event (Commands.tailEvent "log tail started" n.log.nextId)).record? n.threshold).toList

/-- Before its first question the tail has heard of its own beginning at most. -/
theorem hears_log (node : Node) (args : List String) :
    ∃ f : Follower, f.format = Follower.tail.format ∧ f.shown = [] ∧
      f.listener = node.log.nextId ∧
      Hears ⟨node.log, [Follower.tail], []⟩ (Commands.log args node).node.log (f.goTo .asking)
        (opening node) := by
  have hs : Following.Fresh ⟨node.log, [Follower.tail], []⟩ := ⟨by simp [Follower.tail], rfl⟩
  have hm := hears_move (hears_start node.log Follower.tail) (.subscribe rfl)
  have hn := hears_note (n := node.listen.2) hs hm
    (.event (Commands.tailEvent "log tail started" node.log.nextId))
  exact ⟨(Follower.tail.subscribe node.log).2, rfl, rfl, rfl, hn⟩

/-- At every moment of a run a tail has written, taken or queued all that was delivered to it. -/
theorem tail_keeps {u : Following} {es : List Following.Event} {i : Nat} (hs : s.Fresh)
    (ht : Following.Trace s es u) (hi : u.followers[i]? = some f)
    (hf : f.format = Follower.tail.format) :
    f.written.reverse ++ (f.stage.batch ++ f.queued u.buffer).map Record.chunk =
      (Hearing.of i es).delivered.map Record.chunk := by
  have hm (rs : List Record) : rs.filterMap f.format = rs.map Record.chunk := by
    rw [hf]
    exact congrFun List.filterMap_eq_map rs
  have hk := ((Following.tracked_trace hs ht).keeps hi).kept
  rwa [hm, hm] at hk

theorem tail_ended {u : Following} {es : List Following.Event} {i : Nat} (hs : s.Fresh)
    (ht : Following.Trace s es u) (hi : u.followers[i]? = some f)
    (hf : f.format = Follower.tail.format)
    (he : f.stage = .ended ∨ f.stage = .dropped ∧ f.queue = []) :
    f.written.reverse = (Hearing.of i es).delivered.map Record.chunk := by
  have hq : f.stage.batch ++ f.queued u.buffer = [] := by
    rcases he with he | ⟨he, hq⟩
    · have hq := ((Following.tracked_trace hs ht).keeps hi).emptied (by simp [he]) (by simp [he])
      simp [he, hq, Follower.queued, Stage.batch, Stage.listening]
    · simp [he, hq, Follower.queued, Stage.batch, Stage.listening]
  have hk := tail_keeps hs ht hi hf
  rwa [hq, List.map_nil, List.append_nil] at hk

/-- Once the listener has left, every push that it was there for has called it. -/
theorem pushed_perm_delivered {u : Following} {es : List Following.Event} {i : Nat} (hs : s.Fresh)
    (ht : Following.Trace s es u) (hi : u.followers[i]? = some f)
    (hl : f.stage.listening = false) :
    (Hearing.of i es).pushed.Perm (Hearing.of i es).delivered := by
  have ht := Following.tracked_trace hs ht
  have hon : (Hearing.of i es).on = none := by rw [(ht.keeps hi).on_eq, hl]; rfl
  have hp := ht.settles hi
  rwa [Hearing.Settles, Hearing.owed_of_silent hon, List.append_nil] at hp

theorem run_log (port : UInt16) (sv : Services) {line : String} {args : List String} (node : Node)
    (k : Script) (hw : words line = .ok ("log" :: args)) :
    (Commands.console port sv).run k line node =
      (Commands.console port sv).poll "log" k.ending k.queries ⟨node.log.nextId⟩
        (Commands.log args (node.note (.event (Console.dispatchedEvent "log" args)))).node := by
  have hd : (Commands.console port sv).dispatch line node =
      ⟨[], (Commands.log args (node.note (.event (Console.dispatchedEvent "log" args)))).node,
        some ⟨"log", .inl ⟨node.log.nextId⟩⟩⟩ := by
    rw [Console.dispatch_eq_start node hw (Commands.handler_log port sv),
      ← node.nextId_note (.event (Console.dispatchedEvent "log" args))]
    rfl
  rw [Console.run, hd]
  rfl

theorem log_writes (port : UInt16) (sv : Services) {line : String} {args : List String}
    (node : Node) (k : Script) (hw : words line = .ok ("log" :: args))
    (hk : k.ending = .cancelled ∨ k.queries ≠ []) :
    ((Commands.console port sv).run k line node).writes =
      Commands.chunks (opening node ++ heard k.queries) := by
  let m := node.note (.event (Console.dispatchedEvent "log" args))
  have hm : m.log.nextId = node.log.nextId ∧ m.threshold = node.threshold :=
    ⟨node.nextId_note _, node.threshold_note _⟩
  have hs : Following.Fresh ⟨m.log, [Follower.tail], []⟩ := ⟨by simp [Follower.tail], rfl⟩
  obtain ⟨f, hf, hw', hl, hh⟩ := hears_log m args
  have hd : k.ending = .dropped → k.queries = [] →
      Hears ⟨m.log, [Follower.tail], []⟩ (Commands.log args m).node.log (f.goTo .sleeping)
          (opening m) ∧
        (Commands.log args m).node.log.inbox? node.log.nextId = some [] := by
    intro he hq
    rcases hk with hk | hk
    · rw [he] at hk
      contradiction
    · exact absurd hq hk
  obtain ⟨g, ⟨es, ht, hr⟩, hg, hgw, he⟩ :=
    hears_poll (t := ⟨node.log.nextId⟩) hs port sv k.ending hf (hl.trans hm.1) hh hd
  have hk := tail_ended hs ht (i := 0) rfl hg he
  have ho : opening m = opening node := by rw [opening, opening, hm.1, hm.2]
  rw [run_log port sv node k hw]
  rw [hw', List.nil_append] at hgw
  rw [← hgw, Follower.shown, hk, hr, ho, List.map_map]
  rfl

/-- A tail writes what is delivered to its listener, from subscription to release, once and in
order, however the pushes come between its moves. -/
theorem tail_delivers :
    (∀ {s t : Following} {es : List Following.Event} {i : Nat} {f : Follower},
      s.Fresh → Following.Trace s es t → t.followers[i]? = some f →
      f.format = Follower.tail.format →
        f.written.reverse ++ (f.stage.batch ++ f.queued t.buffer).map Record.chunk =
            (Hearing.of i es).delivered.map Record.chunk ∧
          (f.stage = .ended →
            f.written.reverse = (Hearing.of i es).delivered.map Record.chunk ∧
              (Hearing.of i es).pushed.Perm (Hearing.of i es).delivered)) ∧
      ∀ (port : UInt16) (sv : Services) (line : String) (args : List String) (node : Node)
        (k : Script), words line = .ok ("log" :: args) → k.ending = .cancelled ∨ k.queries ≠ [] →
        ((Commands.console port sv).run k line node).writes =
            Commands.chunks (opening node ++ heard k.queries) ∧
          (node.threshold = none → opening node = []) ∧
          ((Commands.console port sv).run k line node).completed =
            (decide (k.ending = .cancelled) || k.queries.any (·.cancelled)) := by
  constructor
  · intro s t es i f hs ht hi hf
    refine ⟨tail_keeps hs ht hi hf, ?_⟩
    intro he
    have hl : f.stage.listening = false := by rw [he]; rfl
    exact ⟨tail_ended hs ht hi hf (.inl he), pushed_perm_delivered hs ht hi hl⟩
  · intro port sv line args node k hw hk
    refine ⟨log_writes port sv node k hw hk, ?_, ?_⟩
    · intro ht
      simp [opening, ht, Notice.record?, Threshold.admits]
    · rw [run_log port sv node k hw, completed_poll]

/-- A record that comes between the answer and the release, and records spread over two questions
of which the second is answered with yes. -/
theorem tail_delivers_late :
    (∃ (t : Following) (f : Follower),
      Following.Trace ⟨{ capacity := 0 }, [Follower.tail], []⟩
        [.move 0 (.subscribe 1), .push ⟨.info, "a"⟩, .move 0 (.ask true), .call 1 ⟨.info, "a"⟩,
          .done, .move 0 .leave, .move 0 .drain, .move 0 .finish, .move 0 .done] t ∧
      t.followers[0]? = some f ∧ f.stage = .ended ∧ f.written.reverse = ["[INFO] a\n"]) ∧
    ((Commands.console 0 .silent).run
      ⟨[⟨[⟨.info, "a"⟩], false⟩, ⟨[⟨.warn, "b"⟩], true⟩, ⟨[⟨.warn, "c"⟩], true⟩], .cancelled, false⟩
      "log" { log := { capacity := 0 } }).writes = [.text "[INFO] a\n", .text "[WARN] b\n"] := by
  refine ⟨?_, ?_⟩
  · have h₁ := Following.Trace.refl (s := ⟨{ capacity := 0 }, [Follower.tail], []⟩)
    have h₂ := h₁.snoc (.move (i := 0) rfl (.subscribe rfl) fun _ => rfl)
    have h₃ := h₂.snoc (.push ⟨.info, "a"⟩)
    have h₄ := h₃.snoc (.move (i := 0) rfl (.ask true rfl) fun h => absurd h Bool.false_ne_true)
    have h₅ := h₄.snoc (.call (k := 0) rfl)
    have h₆ := h₅.snoc (.done (k := 0) rfl)
    have h₇ := h₆.snoc (.move (i := 0) rfl (.leave rfl) fun _ => rfl)
    have h₈ := h₇.snoc (.move (i := 0) rfl (.drain rfl) fun _ => rfl)
    have h₉ := h₈.snoc (.move (i := 0) rfl (.finish rfl) fun _ => rfl)
    have ht := h₉.snoc (.move (i := 0) rfl (.done rfl) fun _ => rfl)
    have hd := (tail_delivers.1 ⟨by simp [Follower.tail], rfl⟩ ht (i := 0) rfl rfl).2 rfl
    exact ⟨_, _, ht, rfl, rfl, hd.1⟩
  · exact (tail_delivers.2 0 _ "log" [] _ _ rfl (.inl rfl)).1

end NodeConsole.Log
