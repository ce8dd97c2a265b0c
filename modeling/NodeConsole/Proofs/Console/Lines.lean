import NodeConsole.Network
import NodeConsole.Proofs.Console.Greeting
import NodeConsole.Proofs.Handshake.Lines
import NodeConsole.Proofs.Words.Modes

/-! How many lines a console writes. -/
namespace NodeConsole
open Text (Bytes OneLine bytes)

namespace Console

variable {ts : List String}

theorem count_told_cons (t : String) (ts : List String) :
    (told (t :: ts)).count 10 = t.toList.count '\n' + 1 + (told ts).count 10 := by
  have ht : told (t :: ts) = bytes t ++ newline ++ told ts := List.flatMap_cons
  have hn : newline.count 10 = 1 := rfl
  rw [ht, List.count_append, List.count_append, hn, bytes, Text.count_encode]

/-- Texts that are each in one line are as many lines as they are. -/
theorem count_told (h : ∀ t ∈ ts, OneLine t) : (told ts).count 10 = ts.length := by
  induction ts with
  | nil => rfl
  | cons t ts ih =>
    obtain ⟨ht, hts⟩ := List.forall_mem_cons.mp h
    rw [count_told_cons, ht.count, ih hts, List.length_cons]
    omega

end Console

namespace Commands
open Console (output told count_told count_told_cons)

variable {g : Greeter} {host : Host} {reply : Bytes} {ends : Bool} {h : Hello} {f : Failure}
  {threshold : Log.Threshold} {target : String}

/-- The lines that are passed on of what is noted during a handshake. -/
def passedOn (threshold : Log.Threshold) (xs : List Log.Notice) : List String :=
  (xs.filterMap (·.record? threshold)).filterMap passed?

theorem record_of_event {e : Log.Event} {r : Log.Record}
    (hr : Log.Notice.record? threshold (.event e) = some r) : r = e.record := by
  rw [Log.Notice.record?] at hr
  split at hr
  · exact (Option.some.inj hr).symm
  · contradiction

theorem passedOn_connected (threshold : Log.Threshold) (host : Host) (xs : List Log.Notice) :
    passedOn threshold (.event (Greeter.connectedEvent host) :: xs) = passedOn threshold xs := by
  unfold passedOn
  cases hr : Log.Notice.record? threshold (.event (Greeter.connectedEvent host)) with
  | none => rw [List.filterMap_cons_none hr]
  | some r =>
    have hs : passed? r = none := by
      rw [record_of_event hr]
      rfl
    rw [List.filterMap_cons_some hr, List.filterMap_cons_none hs]

theorem oneLine_rejected (hh : OneLine host.text) (hf : OneLine f.message) {t : String}
    (ht : t ∈ passedOn threshold [.event (Greeter.rejectedEvent host f)]) : OneLine t := by
  obtain ⟨r, hr, hp⟩ := List.mem_filterMap.mp ht
  obtain ⟨x, hx, hr⟩ := List.mem_filterMap.mp hr
  obtain rfl := List.mem_singleton.mp hx
  obtain rfl := record_of_event hr
  have hm : (Greeter.rejectedEvent host f).text =
      "peer rejected handshake" ++ " " ++
        ("host" ++ "=" ++ host.text ++ " " ++ ("error" ++ "=" ++ f.message)) := rfl
  have hl : OneLine (Greeter.rejectedEvent host f).text := by
    rw [hm]
    exact .append (by decide) (.append (.append (.append (by decide) hh) (by decide))
      (.append (by decide) hf))
  obtain rfl := Option.some.inj hp
  exact .append (by decide) hl

/-- A peer that is welcome leaves nothing to warn of. -/
theorem passedOn_ok (threshold : Log.Threshold)
    (ho : (g.converse host reply ends).outcome = .ok h) :
    passedOn threshold (g.converse host reply ends).notices = [] := by
  unfold Greeter.converse at ho ⊢
  cases hr : (Atom.read reply).outcome with
  | error fault => simp [hr] at ho
  | ok a =>
    simp only [hr] at ho
    simp only [hr, ho, passedOn_connected, Greeter.rejection]
    rfl

/-- Nor does one whose reply is no whole atom. -/
theorem passedOn_fault {fault : Atom.ReadFault} (threshold : Log.Threshold)
    (hr : (Atom.read reply).outcome = .error fault) :
    passedOn threshold (g.converse host reply ends).notices = [] := by
  unfold Greeter.converse
  simp only [hr, passedOn_connected]
  rfl

theorem oneLine_passedOn (hh : OneLine host.text) {t : String}
    (ht : t ∈ passedOn threshold (g.converse host reply ends).notices) : OneLine t := by
  cases hr : (Atom.read reply).outcome with
  | error fault =>
    rw [passedOn_fault threshold hr] at ht
    contradiction
  | ok a =>
    unfold Greeter.converse at ht
    simp only [hr, passedOn_connected] at ht
    cases hi : Greeter.interpret a with
    | ok h =>
      rw [hi] at ht
      contradiction
    | error f =>
      rw [hi] at ht
      exact oneLine_rejected hh (Greeter.interpret_error_iff.mp hi).oneLine_message ht

theorem report_ok (threshold : Log.Threshold)
    (ho : (g.converse host reply ends).outcome = .ok h) :
    let r := g.converse host reply ends
    report host (r.notices.filterMap (·.record? threshold)) r false =
      [s!"HELO {host.text}", s!"Remote ID: {h.remote.text}",
        s!"Remote agent: {h.agent}", "OK"] := by
  intro r
  have hp : (r.notices.filterMap (·.record? threshold)).filterMap passed? = [] :=
    passedOn_ok threshold ho
  rw [report, hp, ho]
  rfl

theorem report_error (threshold : Log.Threshold)
    (ho : (g.converse host reply ends).outcome = .error f) :
    let r := g.converse host reply ends
    report host (r.notices.filterMap (·.record? threshold)) r false =
      [s!"HELO {host.text}"] ++ passedOn threshold r.notices ++ [s!"Error: {f.message}"] := by
  intro r
  rw [report, ho, if_neg Bool.false_ne_true, List.append_nil]
  exact congrArg (· ++ _) (List.append_nil _)

theorem Asks.mem {target : String} {args : List String} {verbose : Bool}
    (ha : Asks args target verbose) : target ∈ args := by
  have hm : target ∈ (Options.before args).filter (· ≠ "-v") ++ Options.behind args := by
    rw [ha.positionals]
    exact List.mem_singleton_self target
  rcases List.mem_append.mp hm with hm | hm
  · exact Options.mem_of_mem_before (List.mem_filter.mp hm).1
  · exact Options.mem_of_mem_behind hm

theorem oneLine_word {line u : String} {us : List String} (hl : OneLine line)
    (hw : words line = .ok us) (hu : u ∈ us) : OneLine u := by
  intro hm
  exact hl ((Words.words_sublist hw).subset (List.mem_flatMap.mpr ⟨u, hu, hm⟩))

theorem run_connected {n : Network} (c : Config) (session : PeerId) {s : Script} (node : Node)
    {line target : String} {args : List String} {verbose : Bool} (hs : s.dropsCalls = false)
    (hw : words line = .ok ("helo" :: args)) (ha : Asks args target verbose)
    (hh : Host.ofText? c.effectivePeerPort target = some host)
    (hr : n.reach host = .connected reply ends) :
    let g := (Network.greeter c session).converse host reply ends
    output ((n.console c session).run s line node).writes =
      told (report host (g.notices.filterMap (·.record? node.threshold)) g verbose) := by
  intro g
  let services := n.services (Network.greeter c session) c.effectiveHttpTimeout
  have hg : services.greet host = g := by
    simp only [services, Network.services, hr]
    rfl
  have ho : output ((console c.effectivePeerPort services).run s line node).writes =
      told (report host ((services.greet host).notices.filterMap (·.record? node.threshold))
        (services.greet host) verbose) := (run_asks hs hh node hw ha).2
  rwa [hg] at ho

/-- On this network every peer sends `reply` and then ends its side. -/
def answering (reply : Bytes) : Network :=
  { Network.offline with contact := fun _ _ => .connected reply true }

theorem greets_answering (reply : Bytes) :
    words "helo 127.0.0.1" = .ok ["helo", "127.0.0.1"] ∧
      Asks ["127.0.0.1"] "127.0.0.1" false ∧
      Host.ofText? 7144 "127.0.0.1" = some ⟨"127.0.0.1", 7144⟩ ∧
      (answering reply).reach ⟨"127.0.0.1", 7144⟩ = .connected reply true := by
  have ha : Address.ofText? "127.0.0.1" = some (.v4 #v[127, 0, 0, 1]) := by decide +kernel
  refine ⟨by rfl, ⟨by decide, by decide⟩, by decide +kernel, ?_⟩
  simp only [Network.reach, Network.resolve, ha]
  rfl

/-- A welcome that gives an agent. -/
def welcome (agent : String) : Atom :=
  .parent .oleh [.leaf .session (List.replicate 16 1), .text .agent agent]

/-- A handshake that ends well has four lines and those that the agent adds; any other has two and
one for each warning. -/
theorem helo_newlines (n : Network) (c : Config) (session : PeerId) {s : Script} (node : Node)
    {line target : String} {args : List String} (hs : s.dropsCalls = false) (hl : OneLine line)
    (hw : words line = .ok ("helo" :: args)) (ha : Asks args target false)
    (hh : Host.ofText? c.effectivePeerPort target = some host)
    (hr : n.reach host = .connected reply ends) :
    let out := output ((n.console c session).run s line node).writes
    let g := (Network.greeter c session).converse host reply ends
    let warnings := passedOn node.threshold g.notices
    (∀ h, g.outcome = .ok h →
      out = told [s!"HELO {host.text}", s!"Remote ID: {h.remote.text}",
        s!"Remote agent: {h.agent}", "OK"] ∧
      out.count 10 = 4 + h.agent.toList.count '\n') ∧
    ∀ f, g.outcome = .error f →
      out = told ([s!"HELO {host.text}"] ++ warnings ++ [s!"Error: {f.message}"]) ∧
      out.count 10 = 2 + warnings.length := by
  intro out g warnings
  have hout : out = told (report host (g.notices.filterMap (·.record? node.threshold)) g false) :=
    run_connected c session node hs hw ha hh hr
  have hhost : OneLine host.text :=
    Host.oneLine_of_read (oneLine_word hl hw (List.mem_cons_of_mem _ ha.mem)) hh
  have hhelo : OneLine s!"HELO {host.text}" := .append (by decide) hhost
  constructor
  · intro h ho
    have ht := hout.trans (congrArg told (report_ok node.threshold ho))
    refine ⟨ht, ?_⟩
    have hid : OneLine s!"Remote ID: {h.remote.text}" := .append (by decide) h.remote.oneLine_text
    have hagent : (s!"Remote agent: {h.agent}").toList.count '\n' = h.agent.toList.count '\n' := by
      rw [String.toList_append, List.count_append]
      exact Nat.zero_add _
    have hok : (told ["OK"]).count 10 = 1 := count_told (by decide)
    rw [ht, count_told_cons, count_told_cons, count_told_cons, hhelo.count, hid.count, hagent, hok]
    omega
  · intro f ho
    have ht : out = told ([s!"HELO {host.text}"] ++ warnings ++ [s!"Error: {f.message}"]) :=
      hout.trans (congrArg told (report_error node.threshold ho))
    refine ⟨ht, ?_⟩
    rw [ht, count_told]
    · simp only [List.length_append, List.length_singleton]
      omega
    · intro t hm
      rcases List.mem_append.mp hm with hm | hm
      · rcases List.mem_append.mp hm with hm | hm
        · exact List.mem_singleton.mp hm ▸ hhelo
        · exact oneLine_passedOn hhost hm
      · rw [List.mem_singleton.mp hm]
        exact .append (by decide) (Greeter.oneLine_failure hhost ho)

/-- A peer that gives an agent in one line, and one that says nothing. -/
theorem helo_newlines_plain :
    let node : Node := { log := { capacity := 4 } }
    let out (reply : Bytes) : Bytes := output ((answering reply).console {} PeerId.zero |>.run {}
      "helo 127.0.0.1" node).writes
    (out (welcome "plain").encode).count 10 = 4 ∧
      out [] = told ["HELO 127.0.0.1:7144", "Error: early eof"] := by
  intro node out
  have h (reply : Bytes) := by
    obtain ⟨hw, ha, hh, hr⟩ := greets_answering reply
    exact helo_newlines (answering reply) {} PeerId.zero (s := {}) node rfl (by decide) hw ha hh hr
  constructor
  · have ho := (h (welcome "plain").encode).1 ⟨⟨List.replicate 16 1, rfl⟩, "plain"⟩
      ((Greeter.converse_of_accepted ⟨by decide, List.prefix_rfl⟩).1.trans (by rfl))
    exact ho.2
  · have hf : (Atom.read []).outcome = .error .early := by
      rw [Atom.read, Atom.Reader.run_eq]
      rfl
    have ho := ((h []).2 (.io "early eof") (Greeter.converse_of_fault hf).1).1
    rw [passedOn_fault _ hf] at ho
    exact ho

/-- A peer that gives an agent of two lines has five lines shown, the fourth as it likes. -/
theorem helo_forged :
    let node : Node := { log := { capacity := 4 } }
    let out := output ((answering (welcome "x\nOK").encode).console {} PeerId.zero |>.run {}
      "helo 127.0.0.1" node).writes
    out = told ["HELO 127.0.0.1:7144", "Remote ID: 01010101010101010101010101010101",
      "Remote agent: x", "OK", "OK"] ∧
    ¬ ∀ (n : Network) (c : Config) (session : PeerId) (s : Script) (node : Node)
        (line target : String) (args : List String) (host : Host) (reply : Bytes) (ends : Bool),
        let g := (Network.greeter c session).converse host reply ends
        s.dropsCalls = false → OneLine line → words line = .ok ("helo" :: args) →
        Asks args target false → Host.ofText? c.effectivePeerPort target = some host →
        n.reach host = .connected reply ends → passedOn node.threshold g.notices = [] →
        ∀ h, g.outcome = .ok h →
          (output ((n.console c session).run s line node).writes).count 10 = 4 := by
  intro node out
  let host : Host := ⟨"127.0.0.1", 7144⟩
  let hello : Hello := ⟨⟨List.replicate 16 1, rfl⟩, "x\nOK"⟩
  obtain ⟨hw, ha, hh, hr⟩ := greets_answering (welcome "x\nOK").encode
  have ho : ((Network.greeter {} PeerId.zero).converse host
      (welcome "x\nOK").encode true).outcome = .ok hello :=
    (Greeter.converse_of_accepted ⟨by decide, List.prefix_rfl⟩).1.trans (by rfl)
  have ht : out = told [s!"HELO {host.text}", s!"Remote ID: {hello.remote.text}",
      s!"Remote agent: {hello.agent}", "OK"] :=
    (run_connected {} PeerId.zero node rfl hw ha hh hr).trans (congrArg told (report_ok none ho))
  have hl : told [s!"HELO {host.text}", s!"Remote ID: {hello.remote.text}",
        s!"Remote agent: {hello.agent}", "OK"] =
      told ["HELO 127.0.0.1:7144", "Remote ID: 01010101010101010101010101010101",
        "Remote agent: x", "OK", "OK"] := by
    decide +kernel
  refine ⟨ht.trans hl, ?_⟩
  intro hall
  have hc : out.count 10 = 4 := hall _ {} PeerId.zero {} node _ _ _ host _ _ rfl (by decide) hw ha
    hh hr (passedOn_ok none ho) hello ho
  rw [ht, hl] at hc
  exact absurd hc (by decide +kernel)

end Commands
end NodeConsole
