import NodeConsole.Proofs.Words.Rendering
import NodeConsole.Words.Machine

/-! The scan of a line against the machine. -/
namespace NodeConsole.Words

variable {m : Machine} {c : Char}

/-- Quotes open and close a region; inside it, a backslash takes one character of any kind. -/
def Mode.next (m : Mode) (c : Char) : Mode :=
  match m with
  | .outside => if c = '"' then .quoted else .outside
  | .quoted => if c = '"' then .outside else if c = '\\' then .escaped else .quoted
  | .escaped => .quoted

/-- What of a character is put into a word: nothing of separating spaces, of quotes around regions
and of escaping backslashes. -/
def Mode.kept (m : Mode) (c : Char) : List Char :=
  match m with
  | .outside => if c = ' ' ∨ c = '"' then [] else [c]
  | .quoted => if c = '"' ∨ c = '\\' then [] else [c]
  | .escaped => [c]

theorem Mode.kept_sublist (m : Mode) (c : Char) : (m.kept c).Sublist [c] := by
  cases m with
  | outside => by_cases hc : c = ' ' ∨ c = '"' <;> simp [kept, hc]
  | quoted => by_cases hc : c = '"' ∨ c = '\\' <;> simp [kept, hc]
  | escaped => exact .refl _

/-- What of a text is put into words. -/
def Mode.text : Mode → List Char → List Char
  | _, [] => []
  | m, c :: s => m.kept c ++ (m.next c).text s

theorem Mode.text_sublist (m : Mode) (s : List Char) : (m.text s).Sublist s := by
  induction s generalizing m with
  | nil => exact .refl _
  | cons c s ih => exact (m.kept_sublist c).append (ih (m.next c))

/-- The mode at the end of a line. -/
def Mode.after (line : List Char) : Mode := line.foldl Mode.next .outside

namespace Machine

/-- The scan of the rest of a line from a state of the machine. -/
def resume (m : Machine) (s : List Char) : Except LineFault (List String) :=
  match m.mode with
  | .outside => scan m.words m.word s
  | .quoted => scanQuoted m.words m.word s
  | .escaped => scanQuoted m.words m.word ('\\' :: s)

/-- The words and the beginning of the next, one behind the other. -/
def held (m : Machine) : List Char := m.words.reverse.flatMap String.toList ++ m.word.reverse

@[simp] theorem separate_mode (m : Machine) : m.separate.mode = m.mode := rfl

@[simp] theorem separate_word (m : Machine) : m.separate.word = [] := rfl

/-- The machine ends its words as the scan does. -/
@[simp] theorem separate_words (m : Machine) : m.separate.words = flush m.words m.word := by
  obtain ⟨mode, word, words⟩ := m
  cases word with
  | nil => rfl
  | cons c w => rfl

/-- What the machine makes of a character. -/
inductive Move (m : Machine) (c : Char) : Machine → Prop
  | separate (hm : m.mode = .outside) (hc : c = ' ') : Move m c m.separate
  | opens (hm : m.mode = .outside) (hc : c = '"') : Move m c { m with mode := .quoted }
  | keeps (hm : m.mode = .outside) (hs : c ≠ ' ') (hq : c ≠ '"') : Move m c (m.keep c)
  | closes (hm : m.mode = .quoted) (hc : c = '"') : Move m c m.close
  | escapes (hm : m.mode = .quoted) (hc : c = '\\') : Move m c { m with mode := .escaped }
  | keepsQuoted (hm : m.mode = .quoted) (hq : c ≠ '"') (hb : c ≠ '\\') : Move m c (m.keep c)
  | keepsEscaped (hm : m.mode = .escaped) : Move m c { m.keep c with mode := .quoted }

theorem move_step (m : Machine) (c : Char) : Move m c (m.step c) := by
  unfold step
  split
  · rename_i hm
    split
    · exact .separate hm ‹_›
    · split
      · exact .opens hm ‹_›
      · exact .keeps hm ‹_› ‹_›
  · rename_i hm
    split
    · exact .closes hm ‹_›
    · split
      · exact .escapes hm ‹_›
      · exact .keepsQuoted hm ‹_› ‹_›
  · exact .keepsEscaped ‹_›

theorem mode_step (m : Machine) (c : Char) : (m.step c).mode = m.mode.next c := by
  have h := m.move_step c
  generalize m.step c = n at h ⊢
  cases h <;> simp_all [Mode.next, keep, close]

theorem resume_nil (m : Machine) : m.resume [] = m.finish := by
  unfold resume finish
  cases m.mode with
  | outside => exact separate_words m ▸ rfl
  | quoted => rfl
  | escaped => rfl

theorem resume_cons (m : Machine) (c : Char) (s : List Char) :
    m.resume (c :: s) = (m.step c).resume s := by
  have h := m.move_step c
  generalize m.step c = n at h ⊢
  cases h with
  | separate hm hc =>
    rw [resume, resume, separate_mode, separate_word, separate_words, hm, hc]
    rfl
  | opens hm hc | closes hm hc | escapes hm hc =>
    rw [resume, hm, hc]
    rfl
  | keeps hm hs hq =>
    rw [resume, resume, keep, hm]
    exact scan_keep hs hq
  | keepsQuoted hm hq hb =>
    rw [resume, resume, keep, hm]
    exact scanQuoted_keep hq hb
  | keepsEscaped hm =>
    rw [resume, hm]
    rfl

theorem held_separate (m : Machine) : m.separate.held = m.held := by
  rw [held, held, separate_words, separate_word, flush]
  cases m.word with
  | nil => rfl
  | cons c w => simp [Words.word]

theorem held_step (m : Machine) (c : Char) : (m.step c).held = m.held ++ m.mode.kept c := by
  have hs := m.held_separate
  have h := m.move_step c
  generalize m.step c = n at h ⊢
  cases h <;> simp_all [held, Mode.kept, keep, close, emitted]

theorem mode_foldl (m : Machine) (s : List Char) :
    (s.foldl step m).mode = s.foldl Mode.next m.mode := by
  induction s generalizing m with
  | nil => rfl
  | cons c s ih => rw [List.foldl_cons, ih, mode_step, List.foldl_cons]

theorem resume_eq (m : Machine) (s : List Char) : m.resume s = (s.foldl step m).finish := by
  induction s generalizing m with
  | nil => exact resume_nil m
  | cons c s ih => rw [resume_cons, ih, List.foldl_cons]

theorem held_foldl (m : Machine) (s : List Char) :
    (s.foldl step m).held = m.held ++ m.mode.text s := by
  induction s generalizing m with
  | nil => simp [Mode.text]
  | cons c s ih => rw [List.foldl_cons, ih, held_step, mode_step, Mode.text, List.append_assoc]

theorem finish_ok_iff {us : List String} :
    m.finish = .ok us ↔ m.mode = .outside ∧ m.separate.words = us.reverse := by
  rw [finish, ← List.reverse_eq_iff]
  cases m.mode <;> simp

theorem finish_quoteOpen_iff : m.finish = .error .quoteOpen ↔ m.mode = .quoted := by
  rw [finish]
  cases m.mode <;> simp

theorem finish_escapeOpen_iff : m.finish = .error .escapeOpen ↔ m.mode = .escaped := by
  rw [finish]
  cases m.mode <;> simp

theorem mode_run (line : List Char) : (run line).mode = Mode.after line := mode_foldl {} line

end Machine

theorem words_eq_finish (line : String) : words line = (Machine.run line.toList).finish :=
  Machine.resume_eq {} line.toList

theorem flatMap_words {line : String} {us : List String} (h : words line = .ok us) :
    us.flatMap String.toList = Mode.outside.text line.toList := by
  rw [words_eq_finish, Machine.finish_ok_iff] at h
  have hh := Machine.held_foldl {} line.toList
  rw [← Machine.held_separate, Machine.held, ← Machine.run, h.2] at hh
  simpa [Machine.held] using hh

/-- In the words are characters of the line, in its order. -/
theorem words_sublist {line : String} {us : List String} (h : words line = .ok us) :
    (us.flatMap String.toList).Sublist line.toList := by
  rw [flatMap_words h]
  exact Mode.text_sublist _ _

/-- A line has the words of the machine if it ends outside quotes, and otherwise a fault that says
where it ends. -/
theorem words_by_mode (line : String) :
    words line = (Machine.run line.toList).finish ∧
      ((∃ us, words line = .ok us) ↔ Mode.after line.toList = .outside) ∧
      (words line = .error .quoteOpen ↔ Mode.after line.toList = .quoted) ∧
      (words line = .error .escapeOpen ↔ Mode.after line.toList = .escaped) := by
  have hw := words_eq_finish line
  refine ⟨hw, ?_⟩
  rw [hw, ← Machine.mode_run, Machine.finish]
  cases (Machine.run line.toList).mode with
  | outside => simp
  | quoted => simp
  | escaped => simp

end NodeConsole.Words
