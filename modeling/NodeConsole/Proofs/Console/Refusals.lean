import NodeConsole.Proofs.Console.Lines

/-! Lines that no command answers to. -/
namespace NodeConsole.Console
open Text (OneLine)

variable {Wait Call : Type} {c : Console Wait Call} {s : Script} {line m : String} {node : Node}

/-- A line whose words cannot be told, that has none, or whose first word is no name; and what is
said of it. -/
inductive Unanswered (c : Console Wait Call) (line : String) : String → Prop
  | fault {f : LineFault} (hw : words line = .error f) : Unanswered c line f.message
  | empty (hw : words line = .ok []) : Unanswered c line "Empty command line"
  | unknown {name : String} {args : List String} (hw : words line = .ok (name :: args))
      (hn : c.handler? name = none) : Unanswered c line s!"No such command '{name}'"

/-- On any other line a command runs. -/
theorem unanswered_or_answered (c : Console Wait Call) (line : String) :
    (∃ m, Unanswered c line m) ∨
      ∃ name args h, words line = .ok (name :: args) ∧ c.handler? name = some h := by
  cases hw : words line with
  | error f => exact .inl ⟨_, .fault hw⟩
  | ok ws =>
    cases ws with
    | nil => exact .inl ⟨_, .empty hw⟩
    | cons name args =>
      cases hh : c.handler? name with
      | none => exact .inl ⟨_, .unknown hw hh⟩
      | some h => exact .inr ⟨name, args, h, rfl, hh⟩

theorem run_unanswered (h : Unanswered c line m) :
    c.run s line node = { writes := [errorLine m], node } := by
  have hd : c.dispatch line node = refuse m node := by
    cases h with
    | fault hw => rw [dispatch, hw]
    | empty hw => rw [dispatch, hw, emptyLine]
    | unknown hw hn =>
      rw [dispatch, hw]
      simp only [hn]
      rfl
  rw [run, hd]
  rfl

/-- The line ends of what is said are those of the first word. -/
theorem Unanswered.count_newlines (h : Unanswered c line m) :
    m.toList.count '\n' =
      match words line with
      | .ok (name :: _) => name.toList.count '\n'
      | _ => 0 := by
  cases h with
  | @fault f hw =>
    rw [hw]
    cases f <;> rfl
  | empty hw =>
    rw [hw]
    rfl
  | @unknown name args hw hn =>
    rw [hw, String.toList_append, String.toList_append, List.count_append, List.count_append]
    exact Nat.zero_add (name.toList.count '\n')

theorem Unanswered.oneLine_iff (h : Unanswered c line m) :
    OneLine m ↔ ∀ name args, words line = .ok (name :: args) → OneLine name := by
  rw [OneLine, ← List.count_eq_zero, h.count_newlines]
  split
  · rename_i name args hw
    rw [List.count_eq_zero]
    constructor
    · intro hn name' args' hw'
      cases hw.symm.trans hw'
      exact hn
    · intro hall
      exact hall name args hw
  · rename_i hne
    constructor
    · intro _ name args hw
      exact absurd hw (hne name args)
    · intro _
      rfl

theorem count_output_errorLine (m : String) :
    (output [errorLine m]).count 10 = m.toList.count '\n' + 1 := by
  have ht : output [errorLine m] = told ["Error: " ++ m] := output_lines ["Error: " ++ m]
  rw [ht, count_told_cons, String.toList_append, List.count_append]
  have hp : ("Error: ").toList.count '\n' = 0 := rfl
  rw [hp, Nat.zero_add]
  rfl

/-- A refused line is answered with one error, which has as many further line ends as the first word
has. -/
theorem refusal_newlines (c : Console Wait Call) (s : Script) (line : String) (node : Node) :
    let out := output (c.run s line node).writes
    (∀ m, Unanswered c line m →
      c.run s line node = { writes := [errorLine m], node } ∧
        out = Text.bytes ("Error: " ++ m ++ "\n") ∧
        out.count 10 = (match words line with
          | .ok (name :: _) => name.toList.count '\n'
          | _ => 0) + 1 ∧
        (OneLine m ↔ ∀ name args, words line = .ok (name :: args) → OneLine name) ∧
        (OneLine line → OneLine m ∧ out.count 10 = 1)) ∧
      ((∃ m, Unanswered c line m) ∨
        ∃ name args h, words line = .ok (name :: args) ∧ c.handler? name = some h) := by
  intro out
  refine ⟨?_, unanswered_or_answered c line⟩
  intro m h
  have hr : c.run s line node = _ := run_unanswered h
  have hout : out = output [errorLine m] := congrArg (fun r => output r.writes) hr
  have hc : out.count 10 = m.toList.count '\n' + 1 := by
    rw [hout, count_output_errorLine]
  refine ⟨hr, ?_, ?_, h.oneLine_iff, ?_⟩
  · rw [hout, output_errorLine]
    rfl
  · rw [hc, h.count_newlines]
  · intro hl
    have hm : OneLine m := by
      apply h.oneLine_iff.mpr
      intro name args hw
      exact Commands.oneLine_word hl hw (List.mem_cons_self ..)
    exact ⟨hm, by rw [hc, hm.count]⟩

/-- A line that is cut short, and a first word that is no name. -/
theorem refusal_newlines_plain :
    let node : Node := { log := { capacity := 0 } }
    let out (line : String) := output ((Commands.console 7144 .silent).run {} line node).writes
    out "get \"http:" = Text.bytes "Error: Premature end of quoted string\n" ∧
      (out "Get\t1 2").count 10 = 1 := by
  intro node out
  have h (line : String) := (refusal_newlines (Commands.console 7144 .silent) {} line node).1
  constructor
  · have hw : words "get \"http:" = .error .quoteOpen := by rfl
    obtain ⟨-, ho, -⟩ := h "get \"http:" _ (.fault hw)
    have hb : Text.bytes ("Error: " ++ LineFault.quoteOpen.message ++ "\n") =
      Text.bytes "Error: Premature end of quoted string\n" := by rfl
    exact ho.trans hb
  · have hw : words "Get\t1 2" = .ok ["Get\t1", "2"] := by rfl
    have hn : (Commands.console 7144 .silent).handler? "Get\t1" = none := by rfl
    obtain ⟨-, -, -, -, hl⟩ := h "Get\t1 2" _ (.unknown hw hn)
    exact (hl (by decide)).2

/-- A first word that goes on in another line makes two lines of the answer. -/
theorem refusal_broken :
    let node : Node := { log := { capacity := 0 } }
    let c := Commands.console 7144 .silent
    output (c.run {} "a\nb" node).writes = told ["Error: No such command 'a", "b'"] ∧
      ¬ ∀ line m, Unanswered c line m →
        OneLine m ∧ (output (c.run {} line node).writes).count 10 = 1 := by
  intro node c
  have hw : words "a\nb" = .ok ["a\nb"] := by rfl
  have hu : Unanswered c "a\nb" "No such command 'a\nb'" := .unknown hw (by rfl)
  have ho : output (c.run {} "a\nb" node).writes = told ["Error: No such command 'a", "b'"] := by
    rw [run_unanswered hu]
    decide +kernel
  refine ⟨ho, ?_⟩
  intro hall
  exact absurd (hall "a\nb" _ hu).1 (by decide)

end NodeConsole.Console
