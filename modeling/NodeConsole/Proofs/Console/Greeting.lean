import NodeConsole.Proofs.Console.Dispatch
import NodeConsole.Proofs.Options

/-! What `helo` says, whatever the handshake comes to. -/
namespace NodeConsole
open Text (Bytes)

namespace Node

variable (n : Node)

/-- A listener gets what the threshold lets through. -/
theorem inbox_noteAll (id : Nat) (xs : List Log.Notice) :
    (n.noteAll xs).log.inbox? id =
      (n.log.inbox? id).map (· ++ xs.filterMap (·.record? n.threshold)) := by
  induction xs generalizing n with
  | nil => cases hq : n.log.inbox? id <;> simp [noteAll, hq]
  | cons x xs ih =>
    have hn : n.noteAll (x :: xs) = (n.note x).noteAll xs := rfl
    rw [hn, ih, threshold_note]
    cases hx : x.record? n.threshold with
    | none =>
      have he : n.note x = n := by simp [note, hx]
      rw [he, List.filterMap_cons_none hx]
    | some r =>
      have he : (n.note x).log = n.log.push r := by simp [note, hx, push]
      rw [he, List.filterMap_cons_some hx, Log.Buffer.inbox_push, Option.map_map]
      simp [Function.comp_def]

/-- Whoever listens from the first notice to the last has all of them. -/
theorem unlisten_noteAll (xs : List Log.Notice) :
    ((n.listen.2.noteAll xs).unlisten n.listen.1).1 =
      xs.filterMap (·.record? n.threshold) := by
  have hq : n.listen.2.log.inbox? n.listen.1 = some [] := Log.Buffer.inbox_listen_self
  have ht : n.listen.2.threshold = n.threshold := rfl
  have hu : ((n.listen.2.noteAll xs).log.unlisten n.listen.1).1 =
      (n.listen.2.noteAll xs).log.inbox? n.listen.1 := rfl
  rw [unlisten, hu, inbox_noteAll, hq, ht]
  rfl

end Node

theorem Performance.calls_close {Call : Type} (command : String) (p : Performance Call) :
    (p.close command).calls = p.calls := by
  unfold Performance.close
  split <;> rfl

namespace Console

/-- Texts, each in a line of its own. -/
def told (ts : List String) : Bytes := ts.flatMap fun t => Text.bytes t ++ newline

theorem told_append (ts us : List String) : told (ts ++ us) = told ts ++ told us :=
  List.flatMap_append

theorem told_singleton (t : String) : told [t] = Text.bytes (t ++ "\n") := by
  rw [Text.bytes_append, told, List.flatMap_singleton]
  rfl

theorem output_text (s : String) : output [.text s] = Text.bytes s := by
  simp [output, Write.allChunks, Write.chunks]

theorem output_lines (ts : List String) : output (Commands.lines ts) = told ts := by
  induction ts with
  | nil => rfl
  | cons t ts ih =>
    have hw : Commands.lines (t :: ts) = [.line t] ++ Commands.lines ts := rfl
    have hl : output [.line t] = told [t] := by simp [output, told, Write.allChunks, Write.chunks]
    rw [hw, output_append, ih, hl]
    exact (told_append [t] ts).symm

end Console

namespace Commands
open Console (output output_append told told_append told_singleton output_text output_lines)

/-- The line of a warning or an error. -/
def passed? (r : Log.Record) : Option String :=
  match r.severity with
  | .error => some s!"Error: {r.message}"
  | .warn => some s!"Warning: {r.message}"
  | .info | .debug => none

/-- A peer that answered as it should. -/
def introduced : Except Failure Hello → List String
  | .ok h => [s!"Remote ID: {h.remote.text}", s!"Remote agent: {h.agent}", "OK"]
  | .error _ => []

def dumped (direction : String) (bs : Bytes) : List String :=
  s!"--- {bs.length} bytes {direction}"
    :: if bs = [] then []
      else [String.ofList (Dump.ascii bs), String.ofList (Dump.hexdump bs)]

/-- What was written, and then what was read. -/
def dumps (t : Transcript) : List String := dumped "written" t.written ++ dumped "read" t.read

def blamed {α : Type} : Except Failure α → List String
  | .ok _ => []
  | .error f => [s!"Error: {f.message}"]

/-- All that is said of a handshake during which `rs` came up. -/
def report (host : Host) (rs : List Log.Record) (g : Greeting) (verbose : Bool) : List String :=
  [s!"HELO {host.text}"] ++ rs.filterMap passed? ++ introduced g.outcome
    ++ (if verbose then dumps g.transcript else []) ++ blamed g.outcome

theorem output_relayed (rs : List Log.Record) :
    output (rs.filterMap relayed?) = told (rs.filterMap passed?) := by
  have hr (r : Log.Record) : output (relayed? r).toList = told (passed? r).toList := by
    unfold relayed? passed?
    cases r.severity with
    | error => exact (output_text _).trans (told_singleton _).symm
    | warn => exact (output_text _).trans (told_singleton _).symm
    | info => rfl
    | debug => rfl
  induction rs with
  | nil => rfl
  | cons r rs ih =>
    have hw : (r :: rs).filterMap relayed? = (relayed? r).toList ++ rs.filterMap relayed? := by
      cases h : relayed? r <;> simp [h]
    have hp : (r :: rs).filterMap passed? = (passed? r).toList ++ rs.filterMap passed? := by
      cases h : passed? r <;> simp [h]
    rw [hw, hp, output_append, told_append, hr, ih]

theorem output_dump (direction : String) (bs : Bytes) :
    output (dump direction bs) = told (dumped direction bs) := by
  rw [← output_lines]
  cases bs with
  | nil => rfl
  | cons b bs => rfl

theorem output_greeted (g : Greeting) (verbose : Bool) (n : Node) :
    output (greeted g n.listen.1 verbose n.listen.2).writes =
      told ((g.notices.filterMap (·.record? n.threshold)).filterMap passed? ++ introduced g.outcome
        ++ if verbose then dumps g.transcript else []) := by
  have hi : output (match g.outcome with | .ok h => helloLines h | .error _ => []) =
      told (introduced g.outcome) := by
    cases g.outcome with
    | ok h => exact output_lines _
    | error f => rfl
  have hd : output (if verbose then
      dump "written" g.transcript.written ++ dump "read" g.transcript.read else []) =
      told (if verbose then dumps g.transcript else []) := by
    cases verbose with
    | true =>
      rw [if_pos rfl, if_pos rfl, output_append, output_dump, output_dump, dumps, told_append]
    | false => rfl
  have hw : (greeted g n.listen.1 verbose n.listen.2).writes =
      ((n.listen.2.noteAll g.notices).unlisten n.listen.1).1.filterMap relayed?
        ++ (match g.outcome with | .ok h => helloLines h | .error _ => [])
        ++ (if verbose then dump "written" g.transcript.written ++ dump "read" g.transcript.read
          else []) := rfl
  rw [hw, Node.unlisten_noteAll, output_append, output_append, output_relayed, hi, hd,
    told_append, told_append]

/-- Arguments with one positional; `verbose` says whether the flag is among those before the first
`--`. -/
structure Asks (args : List String) (target : String) (verbose : Bool) : Prop where
  positionals : (Options.before args).filter (· ≠ "-v") ++ Options.behind args = [target]
  flag : verbose = true ↔ "-v" ∈ Options.before args

variable {args : List String} {target : String} {verbose : Bool}

theorem Asks.split (h : Asks args target verbose) :
    (Options.split ["-v"] args).positionals = [target] ∧
      (Options.split ["-v"] args).has "-v" = verbose := by
  constructor
  · rw [Options.positionals_split, ← h.positionals]
    simp
  · rw [Bool.eq_iff_iff, Options.has_split, h.flag]
    simp

/-- The flag may stand anywhere before the first `--`, and there any number of times. -/
theorem Asks.insert {a b : List String} (ha : "--" ∉ a) (h : Asks (a ++ b) target verbose) :
    Asks (a ++ "-v" :: b) target true := by
  have hv : "-v" ≠ "--" := by decide
  obtain ⟨hp, -⟩ := h
  rw [Options.before_append ha, Options.behind_append ha] at hp
  constructor
  · rw [Options.before_append ha, Options.behind_append ha, Options.before_cons hv,
      Options.behind_cons hv, ← hp]
    simp
  · rw [Options.before_append ha, Options.before_cons hv]
    simp

variable {port : UInt16} {host : Host}

theorem helo_asks (h : Asks args target verbose) (hh : Host.ofText? port target = some host)
    (n : Node) :
    helo port args n =
      { writes := lines [s!"HELO {host.text}"]
        node := n.listen.2
        next := .calls (.greet host n.listen.1 verbose) } := by
  obtain ⟨hp, hv⟩ := h.split
  simp only [helo, hp, hh, hv]

/-- What a console adds to the output of a command is the line of its failure. -/
theorem output_close (command : String) (p : Performance Call) {o : Except Failure Hello}
    (hp : p.outcome = some (o.map fun _ => ())) :
    output (p.close command).writes = output p.writes ++ told (blamed o) := by
  unfold Performance.close
  rw [hp]
  cases o with
  | ok h => exact (List.append_nil _).symm
  | error f => exact (output_append _ _).trans (congrArg _ (output_lines [_]))

/-- A handshake with its lines before it. -/
def greeting (host : Host) (g : Greeting) (verbose : Bool) (n : Node) : Performance Call :=
  (Performance.ended [Call.greet host n.listen.1 verbose] 0
    (greeted g n.listen.1 verbose n.listen.2)).behind (lines [s!"HELO {host.text}"]) 0

theorem output_greeting (host : Host) (g : Greeting) (verbose : Bool) (n : Node) :
    output ((greeting host g verbose n).close "helo").writes =
      told (report host (g.notices.filterMap (·.record? n.threshold)) g verbose) := by
  have hw : (greeting host g verbose n).writes =
      lines [s!"HELO {host.text}"] ++ (greeted g n.listen.1 verbose n.listen.2).writes := rfl
  rw [output_close "helo" (greeting host g verbose n) rfl, hw, output_append, output_lines,
    output_greeted, ← told_append, ← told_append, report]
  simp only [List.append_assoc]

theorem perform_helo {sv : Services} {s : Script} (hs : s.dropsCalls = false)
    (hh : Host.ofText? port target = some host) (h : Asks args target verbose) (n : Node) :
    (console port sv).perform s ⟨"helo", helo port⟩ args n =
      greeting host (sv.greet host) verbose n := by
  simp only [Console.perform, helo_asks h hh, hs]
  rfl

theorem run_asks {sv : Services} {s : Script} (hs : s.dropsCalls = false)
    (hh : Host.ofText? port target = some host) {line : String} (node : Node)
    (hw : words line = .ok ("helo" :: args)) (h : Asks args target verbose) :
    (∃ relay, ((console port sv).run s line node).calls = [.greet host relay verbose]) ∧
      output ((console port sv).run s line node).writes =
        told (report host ((sv.greet host).notices.filterMap (·.record? node.threshold))
          (sv.greet host) verbose) := by
  let dispatched : Log.Notice := .event (Console.dispatchedEvent "helo" args)
  have hd : (console port sv).dispatch line node =
      Console.start ⟨"helo", helo port⟩ args node :=
    Console.dispatch_eq_start node hw (handler_helo port sv)
  rw [Console.run_eq_close s hd, perform_helo hs hh h, ← node.threshold_note dispatched]
  exact ⟨⟨_, Performance.calls_close _ _⟩, output_greeting host (sv.greet host) verbose _⟩

/-- `helo` greets once and says, in this order, the host, the notes, the peer, the bytes if asked
for, and the failure. -/
theorem helo_reports (sv : Services) {s : Script} (node : Node) (hs : s.dropsCalls = false)
    (hh : Host.ofText? port target = some host) :
    let run (line : String) : Run Call := (console port sv).run s line node
    let g := sv.greet host
    let records := g.notices.filterMap (·.record? node.threshold)
    (∀ line args verbose, words line = .ok ("helo" :: args) → Asks args target verbose →
        (∃ relay, (run line).calls = [.greet host relay verbose]) ∧
          output (run line).writes =
            told ([s!"HELO {host.text}"] ++ records.filterMap passed? ++ introduced g.outcome
              ++ (if verbose then dumped "written" g.transcript.written
                  ++ dumped "read" g.transcript.read else [])
              ++ blamed g.outcome)) ∧
      (∀ plain args loud args', words plain = .ok ("helo" :: args) → Asks args target false →
        words loud = .ok ("helo" :: args') → Asks args' target true →
        ∃ head, output (run plain).writes = head ++ told (blamed g.outcome) ∧
          output (run loud).writes =
            head ++ told (dumped "written" g.transcript.written
              ++ dumped "read" g.transcript.read) ++ told (blamed g.outcome)) ∧
      ∀ a b verbose, "--" ∉ a → Asks (a ++ b) target verbose →
        Asks (a ++ "-v" :: b) target true := by
  intro run g records
  refine ⟨?_, ?_, fun a b verbose ha => Asks.insert ha⟩
  · intro line args verbose hw h
    exact run_asks hs hh node hw h
  · intro plain args loud args' hp ha hl ha'
    refine ⟨told ([s!"HELO {host.text}"] ++ records.filterMap passed? ++ introduced g.outcome),
      ?_, ?_⟩
    · rw [(run_asks hs hh node hp ha).2, report, ← told_append, if_neg Bool.false_ne_true,
        List.append_nil]
    · rw [(run_asks hs hh node hl ha').2, report, ← told_append, ← told_append, if_pos rfl, dumps]

/-- A peer that refuses, and a warning on the way. -/
theorem helo_reports_refusal :
    let g : Greeting :=
      { notices := [.record ⟨.info, "up"⟩, .record ⟨.warn, "slow"⟩]
        transcript := ⟨[0x70], []⟩
        outcome := .error (.protocol "remote quit (1003)") }
    let node : Node := { log := { capacity := 4 } }
    let run (line : String) : Run Call :=
      (console 7144 { Services.silent with greet := fun _ => g }).run {} line node
    output (run "helo peer").writes =
        told ["HELO peer:7144", "Warning: slow", "Error: protocol error: remote quit (1003)"] ∧
      output (run "helo -v -- peer").writes =
        told ["HELO peer:7144", "Warning: slow", "--- 1 bytes written", "p",
          "00000000  70                                               |p|",
          "--- 0 bytes read", "Error: protocol error: remote quit (1003)"] := by
  intro g node run
  have hh : Host.ofText? 7144 "peer" = some ⟨"peer", 7144⟩ := by rfl
  have h := (helo_reports { Services.silent with greet := fun _ => g } (s := {}) node rfl hh).1
  have hp : Asks ["peer"] "peer" false := ⟨by decide, by decide⟩
  have hl : Asks ["-v", "--", "peer"] "peer" true := ⟨by decide, by decide⟩
  have hd : dumped "written" g.transcript.written = ["--- 1 bytes written", "p",
      "00000000  70                                               |p|"] := by
    have hr : Dump.rows [0x70] = [[0x70]] := by simp [Dump.rows, Dump.perRow]
    have hx : Dump.hexdump [0x70] = ['\n'].intercalate [Dump.row 0 [0x70]] := by
      rw [Dump.hexdump, Dump.lines, hr]
      rfl
    simp only [g, dumped, hx]
    decide +kernel
  constructor
  · rw [(h "helo peer" _ _ (by rfl) hp).2]
    exact congrArg told (by decide +kernel)
  · rw [(h "helo -v -- peer" _ _ (by rfl) hl).2, hd]
    exact congrArg told (by decide +kernel)

end Commands
end NodeConsole
