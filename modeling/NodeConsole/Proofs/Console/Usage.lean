import NodeConsole.Proofs.Console.Frame
import NodeConsole.Proofs.Console.Greeting

/-! How many arguments a command takes. -/
namespace NodeConsole

namespace Console

variable {Wait Call : Type} {c : Console Wait Call}

/-- The call that is out after a turn. -/
def call? : Next Wait Call → Option Call
  | .calls k => some k
  | .done _ | .asks _ => none

theorem calls_poll (command : String) (ending : Ending) (qs : List Query) (w : Wait)
    (node : Node) : (c.poll command ending qs w node).calls = [] := by
  induction qs generalizing w node with
  | nil => cases ending <;> rfl
  | cons q qs ih =>
    unfold poll
    by_cases hq : q.cancelled
    · simp only [if_pos hq]
    · simp only [if_neg hq]
      exact ih _ _

/-- Nothing is asked of a service but at the end of the first turn, whatever becomes of the command
then. -/
theorem calls_run (s : Script) {line name : String} {args : List String} {h : Handler Wait Call}
    {node : Node} (hw : words line = .ok (name :: args)) (hh : c.handler? name = some h) :
    (c.run s line node).calls =
      (call? (h.start args (node.note (.event (dispatchedEvent h.name args)))).next).toList := by
  rw [run, dispatch_eq_start node hw hh, start]
  generalize h.start args (node.note (.event (dispatchedEvent h.name args))) = t
  obtain ⟨writes, m, outcome | w | k⟩ := t
  · cases outcome <;> rfl
  · exact calls_poll ..
  · by_cases hs : s.dropsCalls
    · simp only [advance, if_pos hs]
      rfl
    · simp only [advance, if_neg hs]
      rfl

end Console

namespace Commands
open Console (output told)

/-- The words of a line with too few or too many arguments, and what is said of it. -/
inductive Misused : List String → String → Prop
  | nslookup {args : List String} (h : args.length ≠ 1) :
      Misused ("nslookup" :: args) "Usage: nslookup NAME"
  | get {args : List String} (h : args.length ≠ 1) : Misused ("get" :: args) "Usage: get URL"
  | helo {args : List String}
      (h : ((Options.before args).filter (· ≠ "-v") ++ Options.behind args).length ≠ 1) :
      Misused ("helo" :: args) "Usage: helo [-v] HOST"
  | ban {targets : List String} (h : targets.length ≠ 1) :
      Misused ("filter" :: "ban" :: targets) "Usage: filter ban TARGET"

variable {port : UInt16} {sv : Services} {s : Script} {node : Node} {line name usage : String}
  {args : List String}

theorem nslookup_misused (h : args.length ≠ 1) (n : Node) :
    nslookup args n = say ["Usage: nslookup NAME"] n := by
  unfold nslookup
  split
  · exact absurd rfl h
  · rfl

theorem get_misused (h : args.length ≠ 1) (n : Node) : get args n = say ["Usage: get URL"] n := by
  unfold get
  split
  · exact absurd rfl h
  · rfl

theorem helo_misused
    (h : ((Options.before args).filter (· ≠ "-v") ++ Options.behind args).length ≠ 1) (n : Node) :
    helo port args n = say ["Usage: helo [-v] HOST"] n := by
  have hp : (Options.split ["-v"] args).positionals.length ≠ 1 := by
    rw [Options.positionals_split]
    simpa using h
  simp only [helo]
  split
  · rename_i target ht
    rw [ht] at hp
    exact absurd rfl hp
  · rfl

theorem ban_misused (h : args.length ≠ 1) (n : Node) :
    filter ("ban" :: args) n = say ["Usage: filter ban TARGET"] n := by
  unfold filter
  split
  · contradiction
  · rename_i target he
    cases he
    exact absurd rfl h
  · rename_i sub rest _ he
    cases he
    rfl

theorem Misused.start (h : Misused (name :: args) usage) (port : UInt16) (sv : Services) :
    ∃ start, (console port sv).handler? name = some ⟨name, start⟩ ∧
      ∀ n, start args n = say [usage] n := by
  cases h with
  | nslookup h => exact ⟨_, handler_nslookup port sv, nslookup_misused h⟩
  | get h => exact ⟨_, handler_get port sv, get_misused h⟩
  | helo h => exact ⟨_, handler_helo port sv, helo_misused h⟩
  | ban h => exact ⟨_, handler_filter port sv, ban_misused h⟩

theorem run_misused (hw : words line = .ok (name :: args)) (h : Misused (name :: args) usage) :
    (console port sv).run s line node =
      { writes := [.line usage]
        node := node.note (.event (Console.dispatchedEvent name args)) } := by
  obtain ⟨start, hh, hs⟩ := h.start port sv
  rw [Console.run, Console.dispatch_eq_start node hw hh, Console.start]
  simp only [hs]
  rfl

theorem output_line (t : String) : output [.line t] = Text.bytes (t ++ "\n") :=
  (Console.output_lines [t]).trans (Console.told_singleton t)

theorem call_nslookup (target : String) (n : Node) :
    Console.call? (nslookup [target] n).next =
      some ((Address.ofText? target).elim (.lookup target) fun a => .reverse a target) := by
  cases ha : Address.ofText? target with
  | some a =>
    simp only [nslookup, ha]
    rfl
  | none =>
    simp only [nslookup, ha]
    rfl

theorem asks_of_single {target : String}
    (h : (Options.before args).filter (· ≠ "-v") ++ Options.behind args = [target]) :
    Asks args target (decide ("-v" ∈ Options.before args)) :=
  ⟨h, decide_eq_true_iff⟩

theorem call_helo {target : String} {verbose : Bool} (h : Asks args target verbose) (n : Node) :
    Console.call? (helo port args n).next =
      (Host.ofText? port target).map fun host => .greet host n.listen.1 verbose := by
  cases hh : Host.ofText? port target with
  | some host =>
    rw [helo_asks h hh]
    rfl
  | none =>
    obtain ⟨hp, -⟩ := h.split
    simp only [helo, hp, hh]
    rfl

/-- With too few or too many arguments a command says its usage and does nothing else; otherwise it
asks its service once. -/
theorem arguments_counted (port : UInt16) (sv : Services) (s : Script) (line : String)
    (node : Node) :
    let r := (console port sv).run s line node
    (∀ name args usage, words line = .ok (name :: args) → Misused (name :: args) usage →
        r = { writes := [.line usage]
              node := node.note (.event (Console.dispatchedEvent name args)) } ∧
          output r.writes = Text.bytes (usage ++ "\n") ∧
          r.calls = [] ∧
          r.node.frame = node.frame ∧
          r.node.log.nextId = node.log.nextId) ∧
      (∀ target, words line = .ok ["nslookup", target] →
        (∀ a, Address.ofText? target = some a → r.calls = [.reverse a target]) ∧
          (Address.ofText? target = none → r.calls = [.lookup target])) ∧
      (∀ url, words line = .ok ["get", url] → r.calls = [.fetch url]) ∧
      ∀ args target, words line = .ok ("helo" :: args) →
        (Options.before args).filter (· ≠ "-v") ++ Options.behind args = [target] →
        (∀ host, Host.ofText? port target = some host →
            ∃ relay, r.calls = [.greet host relay (decide ("-v" ∈ Options.before args))]) ∧
          (Host.ofText? port target = none → r.calls = []) := by
  intro r
  refine ⟨?_, ?_, ?_, ?_⟩
  · intro name args usage hw h
    have hr : r = _ := run_misused hw h
    rw [hr]
    exact ⟨rfl, output_line usage, rfl, Node.frame_note _ node, node.nextId_note _⟩
  · intro target hw
    have hc : r.calls = _ := Console.calls_run s hw (handler_nslookup port sv)
    rw [call_nslookup] at hc
    constructor
    · intro a ha
      rw [ha] at hc
      exact hc
    · intro ha
      rw [ha] at hc
      exact hc
  · intro url hw
    exact Console.calls_run s hw (handler_get port sv)
  · intro args target hw hp
    have hc : r.calls = _ := Console.calls_run s hw (handler_helo port sv)
    rw [call_helo (asks_of_single hp)] at hc
    constructor
    · intro host hh
      rw [hh] at hc
      exact ⟨_, hc⟩
    · intro hh
      rw [hh] at hc
      exact hc

/-- Behind `--` a flag is an argument like any other; and two quotes are one with nothing in it. -/
theorem arguments_counted_flags :
    let node : Node := { filters := [⟨"a", .ban⟩], log := { capacity := 2 } }
    let run (line : String) : Run Call := (console 7144 .silent).run {} line node
    output (run "helo -v -- -v peer").writes = Text.bytes "Usage: helo [-v] HOST\n" ∧
      (∃ relay, (run "helo -v -- -v").calls = [.greet ⟨"-v", 7144⟩ relay true]) ∧
      (run "helo \"a b\"").calls = [] ∧
      (run "nslookup \"\"").calls = [.lookup ""] ∧
      (run "get \"\"").calls = [.fetch ""] ∧
      output (run "filter ban \"\" \"\"").writes = Text.bytes "Usage: filter ban TARGET\n" := by
  intro node run
  have h (line : String) := arguments_counted 7144 .silent {} line node
  refine ⟨?_, ?_, ?_, ?_, ?_, ?_⟩
  · exact ((h "helo -v -- -v peer").1 _ _ _ (by rfl) (.helo (by decide))).2.1
  · exact ((h "helo -v -- -v").2.2.2 ["-v", "--", "-v"] "-v" (by rfl) (by decide)).1 _ (by rfl)
  · exact ((h "helo \"a b\"").2.2.2 ["a b"] "a b" (by rfl) (by decide)).2 (by rfl)
  · exact ((h "nslookup \"\"").2.1 "" (by rfl)).2 (by decide +kernel)
  · exact (h "get \"\"").2.2.1 "" (by rfl)
  · exact ((h "filter ban \"\" \"\"").1 _ _ _ (by rfl) (.ban (by decide))).2.1

end Commands
end NodeConsole
