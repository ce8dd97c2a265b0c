import NodeConsole.Proofs.Words.Modes

/-! Lines put together. -/
namespace NodeConsole.Words

variable {m : Machine} {a p : List Char} {c : Char} {line : String} {ws us : List String}

/-- No word has begun at the end: the text is empty, or ends with a closing quote or a space between
words. -/
def Parted (a : List Char) : Prop :=
  a = [] ∨ (∃ p, a = p ++ ['"'] ∧ Mode.after p = .quoted) ∨
    ∃ p, a = p ++ [' '] ∧ Mode.after p = .outside

theorem parted_snoc : Parted (p ++ [c]) ↔
    (c = '"' ∧ Mode.after p = .quoted) ∨ (c = ' ' ∧ Mode.after p = .outside) := by
  constructor
  · rintro (h | ⟨q, h, hm⟩ | ⟨q, h, hm⟩)
    · simp at h
    · obtain ⟨rfl, rfl⟩ := List.append_singleton_inj.mp h
      exact .inl ⟨rfl, hm⟩
    · obtain ⟨rfl, rfl⟩ := List.append_singleton_inj.mp h
      exact .inr ⟨rfl, hm⟩
  · rintro (⟨rfl, hm⟩ | ⟨rfl, hm⟩)
    · exact .inr (.inl ⟨p, rfl, hm⟩)
    · exact .inr (.inr ⟨p, rfl, hm⟩)

namespace Machine

theorem run_append (a b : List Char) : run (a ++ b) = b.foldl step (run a) := List.foldl_append ..

theorem run_snoc (p : List Char) (c : Char) : run (p ++ [c]) = (run p).step c :=
  List.foldl_append ..

/-- A word ends with a quote that closes a region and with a space between words, and with nothing
else. -/
theorem ended_step : (m.step c).mode = .outside ∧ (m.step c).word = [] ↔
    (c = '"' ∧ m.mode = .quoted) ∨ (c = ' ' ∧ m.mode = .outside) := by
  have h := m.move_step c
  generalize m.step c = n at h ⊢
  cases h <;> simp_all [keep, close]

theorem parted_iff : Parted a ↔ (run a).mode = .outside ∧ (run a).word = [] := by
  rcases a.eq_nil_or_concat with rfl | ⟨p, c, rfl⟩
  · simp [Parted, run]
  · rw [List.concat_eq_append, parted_snoc, run_snoc, ended_step, mode_run]

/-- The machine with words in front of those that it has read. -/
def behind (us : List String) (m : Machine) : Machine := { m with words := m.words ++ us.reverse }

theorem separate_behind (us : List String) (m : Machine) :
    (m.behind us).separate = m.separate.behind us := by
  obtain ⟨mode, word, words⟩ := m
  cases word <;> simp [separate, emitted, behind]

theorem step_behind (us : List String) (m : Machine) (c : Char) :
    (m.behind us).step c = (m.step c).behind us := by
  have hs := separate_behind us m
  have h := m.move_step c
  generalize hn : m.step c = n at h ⊢
  cases h <;> simp_all [step, behind, keep, close, emitted]

theorem foldl_behind (us : List String) (m : Machine) (s : List Char) :
    s.foldl step (m.behind us) = (s.foldl step m).behind us := by
  induction s generalizing m with
  | nil => rfl
  | cons c s ih => rw [List.foldl_cons, step_behind, ih, List.foldl_cons]

theorem finish_behind (us : List String) (m : Machine) :
    (m.behind us).finish = m.finish.map (us ++ ·) := by
  have hs : (m.behind us).separate.words.reverse = us ++ m.separate.words.reverse := by
    rw [separate_behind, behind, List.reverse_append, List.reverse_reverse]
  have hm : (m.behind us).mode = m.mode := rfl
  rw [finish, finish, hm, hs]
  cases m.mode <;> rfl

end Machine

/-- Where no word has begun, all that the machine has are the words of the line. -/
theorem run_of_parted (hp : Parted line.toList) (hw : words line = .ok ws) :
    Machine.run line.toList = ({} : Machine).behind ws := by
  rw [words_eq_finish, Machine.finish_ok_iff] at hw
  obtain ⟨hm, hn⟩ := Machine.parted_iff.mp hp
  generalize Machine.run line.toList = m at hw hm hn
  obtain ⟨mode, word, words⟩ := m
  simp_all [flush, Machine.behind]

theorem words_of_parted (hp : Parted line.toList) (hw : words line = .ok ws) (b : String) :
    words (line ++ b) = (words b).map (ws ++ ·) := by
  rw [words_eq_finish, String.toList_append, Machine.run_append, run_of_parted hp hw,
    Machine.foldl_behind, Machine.finish_behind, words_eq_finish]
  rfl

theorem after_of_words (hw : words line = .ok ws) : Mode.after line.toList = .outside := by
  rw [words_eq_finish, Machine.finish_ok_iff, Machine.mode_run] at hw
  exact hw.1

/-- A space ends the last word as the end of the line does. -/
theorem parted_space (hw : words line = .ok ws) :
    Parted (line ++ " ").toList ∧ words (line ++ " ") = .ok ws := by
  have ht : (line ++ " ").toList = line.toList ++ [' '] := String.toList_append
  rw [words_eq_finish, ht, parted_snoc, Machine.run_snoc]
  refine ⟨.inr ⟨rfl, after_of_words hw⟩, ?_⟩
  rw [words_eq_finish, Machine.finish_ok_iff] at hw
  generalize Machine.run line.toList = m at hw
  obtain ⟨mode, word, words⟩ := m
  obtain ⟨rfl, hw⟩ := hw
  exact Machine.finish_ok_iff.mpr ⟨rfl, hw⟩

/-- A word that has begun is longer by a character put behind it. -/
theorem parted_of_append (hw : words line = .ok ws)
    (hx : words (line ++ "x") = (words "x").map (ws ++ ·)) : Parted line.toList := by
  have ht : (line ++ "x").toList = line.toList ++ ['x'] := String.toList_append
  have hone : words "x" = .ok ["x"] := by rfl
  rw [words_eq_finish, ht, Machine.run_snoc, hone] at hx
  rw [words_eq_finish, Machine.finish_ok_iff] at hw
  rw [Machine.parted_iff]
  generalize Machine.run line.toList = m at hw hx ⊢
  obtain ⟨mode, word, words⟩ := m
  obtain ⟨rfl, hw⟩ := hw
  refine ⟨rfl, ?_⟩
  cases word with
  | nil => rfl
  | cons d w =>
    -- The same words would be there with the character and without it, and one more behind them.
    exfalso
    have hk : Machine.step ⟨.outside, d :: w, words⟩ 'x' = ⟨.outside, 'x' :: d :: w, words⟩ := rfl
    obtain ⟨-, hx⟩ := Machine.finish_ok_iff.mp (hk ▸ hx)
    have hl := congrArg List.length hw
    have hr := congrArg List.length hx
    simp [flush] at hl hr
    omega

/-- A line behind another adds its words, or has its fault, just when a space parts them or no word
has begun. -/
theorem words_append (a : String) :
    (∀ ws, words a = .ok ws →
      (∀ b, words (a ++ " " ++ b) = (words b).map (ws ++ ·)) ∧
        (Parted a.toList ↔ ∀ b, words (a ++ b) = (words b).map (ws ++ ·))) ∧
      (words a = .error .quoteOpen →
        (∀ b, words (a ++ b) =
          scanQuoted (Machine.run a.toList).words (Machine.run a.toList).word b.toList) ∧
        words (a ++ "\"") =
          .ok ((Machine.run a.toList).words.reverse ++ [word (Machine.run a.toList).word])) ∧
      (words a = .error .escapeOpen →
        (∀ b, words (a ++ b) =
          scanQuoted (Machine.run a.toList).words (Machine.run a.toList).word ('\\' :: b.toList)) ∧
        words (a ++ "\"") = .error .quoteOpen) := by
  have hr (b : String) : words (a ++ b) = (Machine.run a.toList).resume b.toList := by
    rw [words_eq_finish, String.toList_append, Machine.run_append, Machine.resume_eq]
  have hf := words_eq_finish a
  generalize Machine.run a.toList = m at hr hf ⊢
  refine ⟨?_, ?_, ?_⟩
  · intro ws hw
    obtain ⟨hp, hs⟩ := parted_space hw
    refine ⟨words_of_parted hp hs, fun h => words_of_parted h hw, fun h => ?_⟩
    exact parted_of_append hw (h "x")
  · intro hw
    rw [hf, Machine.finish_quoteOpen_iff] at hw
    have hq (b : String) : words (a ++ b) = scanQuoted m.words m.word b.toList := by
      rw [hr, Machine.resume, hw]
    refine ⟨hq, (hq "\"").trans ?_⟩
    exact congrArg Except.ok List.reverse_cons
  · intro hw
    rw [hf, Machine.finish_escapeOpen_iff] at hw
    have hq (b : String) : words (a ++ b) = scanQuoted m.words m.word ('\\' :: b.toList) := by
      rw [hr, Machine.resume, hw]
    exact ⟨hq, hq "\""⟩

/-- A word that has begun and goes on in the next line, and two lines that end inside quotes. -/
theorem words_append_open :
    (words "a\"b\" c" = .ok ["ab", "c"] ∧
      words ("a\"b\" c" ++ " " ++ "d \"e") = .error .quoteOpen ∧ ¬ Parted "a\"b\" c".toList) ∧
      (words "a \"b c" = .error .quoteOpen ∧ words ("a \"b c" ++ "\"") = .ok ["a", "b c"]) ∧
      words "a \"b\\" = .error .escapeOpen ∧ words ("a \"b\\" ++ "\"") = .error .quoteOpen := by
  have h₁ : words "a\"b\" c" = .ok ["ab", "c"] := by rfl
  have h₂ : words "a \"b c" = .error .quoteOpen := by rfl
  have h₃ : words "a \"b\\" = .error .escapeOpen := by rfl
  obtain ⟨hs, hp⟩ := (words_append "a\"b\" c").1 _ h₁
  refine ⟨⟨h₁, hs _, fun h => ?_⟩, ⟨h₂, ((words_append _).2.1 h₂).2⟩, h₃,
    ((words_append _).2.2 h₃).2⟩
  have hd : Except.ok ["ab", "cd"] = words ("a\"b\" c" ++ "d") := by rfl
  have hj : (words "d").map (["ab", "c"] ++ ·) = .ok ["ab", "c", "d"] := by rfl
  exact absurd (Except.ok.inj ((hd.trans (hp.mp h "d")).trans hj)) (by decide)

end NodeConsole.Words
