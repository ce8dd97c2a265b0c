import Mathlib.Data.List.Infix
import Mathlib.Data.List.Induction
import NodeConsole.Proofs.Words.Composition

/-! What becomes of the characters of a line. -/
namespace NodeConsole.Words

variable {m : Machine} {p q s : List Char} {c : Char} {line : String} {us xs ys : List String}

/-- Ends with a region that has nothing in it and in front of which no word has begun. -/
def EndsEmpty (p : List Char) : Prop := ['"', '"'] <:+ p ∧ Parted p.dropLast.dropLast

instance : DecidablePred Parted := fun _ => decidable_of_iff _ Machine.parted_iff.symm

instance : DecidablePred EndsEmpty := fun p =>
  inferInstanceAs (Decidable (['"', '"'] <:+ p ∧ Parted p.dropLast.dropLast))

theorem snoc_quotes_iff : p ++ [c] = q ++ ['"', '"'] ↔ p = q ++ ['"'] ∧ c = '"' := by
  have hq : q ++ ['"', '"'] = q ++ ['"'] ++ ['"'] := by simp
  rw [hq, List.append_singleton_inj]

theorem endsEmpty_iff : EndsEmpty p ↔ ∃ q, p = q ++ ['"', '"'] ∧ Parted q := by
  constructor
  · rintro ⟨⟨q, rfl⟩, hq⟩
    exact ⟨q, rfl, by simpa using hq⟩
  · rintro ⟨q, rfl, hq⟩
    exact ⟨List.suffix_append .., by simpa using hq⟩

theorem Mode.kept_eq (m : Mode) (c : Char) : m.kept c = [] ∨ m.kept c = [c] := by
  cases m with
  | outside => by_cases hc : c = ' ' ∨ c = '"' <;> simp [kept, hc]
  | quoted => by_cases hc : c = '"' ∨ c = '\\' <;> simp [kept, hc]
  | escaped => exact .inr rfl

/-- Each character in the words of a text comes from its own place. -/
theorem Mode.text_split {m : Mode} {x y : List Char} (h : m.text s = x ++ c :: y) :
    ∃ p r, s = p ++ c :: r ∧ m.text p = x ∧ (p.foldl Mode.next m).kept c = [c] := by
  induction s generalizing m x with
  | nil => simp [text] at h
  | cons d s ih =>
    have hd (hx : (m.next d).text s = x ++ c :: y) (hk : m.kept d = []) :
        ∃ p r, d :: s = p ++ c :: r ∧ m.text p = x ∧ (p.foldl Mode.next m).kept c = [c] := by
      obtain ⟨p, r, rfl, hp, hc⟩ := ih hx
      exact ⟨d :: p, r, rfl, by simp [text, hk, hp], hc⟩
    rw [text] at h
    rcases m.kept_eq d with hk | hk
    · rw [hk] at h
      exact hd h hk
    · rw [hk] at h
      cases x with
      | nil =>
        obtain ⟨rfl, -⟩ := List.cons.inj h
        exact ⟨[], s, rfl, rfl, hk⟩
      | cons e x =>
        obtain ⟨rfl, hx⟩ := List.cons.inj h
        obtain ⟨p, r, rfl, hp, hc⟩ := ih hx
        exact ⟨d :: p, r, rfl, by simp [text, hk, hp], hc⟩

theorem Mode.ne_outside_of_kept {m : Mode} (hk : m.kept c = [c]) (hc : c = ' ' ∨ c = '"') :
    m ≠ .outside := by
  rintro rfl
  simp [kept, hc] at hk

theorem word_eq_empty_iff {w : List Char} : word w = "" ↔ w = [] := by
  simp [word, String.ext_iff]

namespace Machine

/-- A region opens in front of which no word has begun. -/
theorem opened_step : (m.step c).mode = .quoted ∧ (m.step c).word = [] ↔
    c = '"' ∧ m.mode = .outside ∧ m.word = [] := by
  have h := m.move_step c
  generalize m.step c = n at h ⊢
  cases h <;> simp_all [keep, close]

theorem opened_iff :
    (run p).mode = .quoted ∧ (run p).word = [] ↔ ∃ q, p = q ++ ['"'] ∧ Parted q := by
  rcases p.eq_nil_or_concat with rfl | ⟨q, c, rfl⟩
  · simp [run]
  · rw [List.concat_eq_append, run_snoc, opened_step]
    constructor
    · rintro ⟨rfl, hq⟩
      exact ⟨q, rfl, parted_iff.mpr hq⟩
    · rintro ⟨r, hr, hp⟩
      obtain ⟨rfl, rfl⟩ := List.append_singleton_inj.mp hr
      exact ⟨rfl, parted_iff.mp hp⟩

theorem endsEmpty_snoc : EndsEmpty (p ++ [c]) ↔
    c = '"' ∧ (run p).mode = .quoted ∧ (run p).word = [] := by
  rw [endsEmpty_iff, opened_iff]
  constructor
  · rintro ⟨q, hq, hp⟩
    obtain ⟨hr, hc⟩ := snoc_quotes_iff.mp hq
    exact ⟨hc, q, hr, hp⟩
  · rintro ⟨hc, q, hr, hp⟩
    exact ⟨q, snoc_quotes_iff.mpr ⟨hr, hc⟩, hp⟩

/-- A character ends one word or none, and an empty one just if it closes an empty region that
begins the word. -/
theorem words_snoc (p : List Char) (c : Char) :
    ((run (p ++ [c])).words = (run p).words ∧ ¬ EndsEmpty (p ++ [c])) ∨
      ∃ u, (run (p ++ [c])).words = u :: (run p).words ∧ (u = "" ↔ EndsEmpty (p ++ [c])) := by
  rw [endsEmpty_snoc, run_snoc]
  generalize run p = m
  have h := m.move_step c
  generalize m.step c = n at h ⊢
  cases h with
  | separate hm hc =>
    cases hw : m.word with
    | nil => simp [flush, hw, hm]
    | cons d w => simp [flush, hw, hm, word_eq_empty_iff]
  | closes hm hc => simp [close, emitted, hm, hc]
  | _ => simp_all [keep]

theorem count_run (p : List Char) :
    (run p).words.count "" = p.inits.countP fun q => EndsEmpty q := by
  induction p using List.reverseRecOn with
  | nil => simp [run, EndsEmpty]
  | append_singleton p c ih =>
    rw [List.inits_append, List.countP_append, ← ih]
    rcases words_snoc p c with ⟨hw, he⟩ | ⟨u, hw, he⟩
    · simp [hw, he]
    · by_cases hu : u = ""
      · simp [hw, hu, he.mp hu]
      · simp [hw, hu, ← he]

theorem words_opens (hq : Parted q) :
    (run (q ++ ['"'])).words = (run q).words ∧
      NodeConsole.words (String.ofList q) = .ok (run q).words.reverse := by
  obtain ⟨hm, hw⟩ := parted_iff.mp hq
  rw [run_snoc, words_eq_finish, String.toList_ofList, finish_ok_iff]
  simp [step, flush, hm, hw]

/-- Where an empty word comes from. -/
theorem exists_region (h : (run p).words.reverse = xs ++ "" :: ys) :
    ∃ q, q ++ ['"', '"'] <+: p ∧ Parted q ∧ NodeConsole.words (String.ofList q) = .ok xs := by
  induction p using List.reverseRecOn generalizing ys with
  | nil => simp [run] at h
  | append_singleton p c ih =>
    have hp {ys : List String} (h : (run p).words.reverse = xs ++ "" :: ys) :
        ∃ q, q ++ ['"', '"'] <+: p ++ [c] ∧ Parted q ∧
          NodeConsole.words (String.ofList q) = .ok xs := by
      obtain ⟨q, hq, hpq⟩ := ih h
      exact ⟨q, hq.trans (List.prefix_append ..), hpq⟩
    rcases words_snoc p c with ⟨hw, -⟩ | ⟨u, hw, he⟩
    · exact hp (hw ▸ h)
    · -- Either the character has ended the empty word, or that word is among those before.
      rw [hw, List.reverse_cons] at h
      rcases ys.eq_nil_or_concat with rfl | ⟨ys, y, rfl⟩
      · obtain ⟨rfl, hu⟩ := List.append_singleton_inj.mp h
        obtain ⟨q, hq, hpq⟩ := endsEmpty_iff.mp (he.mp hu)
        obtain ⟨rfl, -⟩ := snoc_quotes_iff.mp hq
        obtain ⟨ho, hx⟩ := words_opens hpq
        exact ⟨q, hq ▸ List.prefix_refl _, hpq, ho ▸ hx⟩
      · rw [List.concat_eq_append, ← List.cons_append, ← List.append_assoc] at h
        exact hp (List.append_singleton_inj.mp h).1

/-- Without words and without the beginning of one, there have been spaces only. -/
theorem blank_of_parted (hp : Parted p) (hw : (run p).words = []) : ∀ c ∈ p, c = ' ' := by
  induction p using List.reverseRecOn with
  | nil => simp
  | append_singleton p c ih =>
    rw [run_snoc] at hw
    rw [parted_snoc, ← mode_run] at hp
    rcases hp with ⟨rfl, hm⟩ | ⟨rfl, hm⟩
    · simp [step, hm, close, emitted] at hw
    · by_cases hn : (run p).word = []
      · have hc := ih (parted_iff.mpr ⟨hm, hn⟩) (by simpa [step, hm, flush, hn] using hw)
        simpa [or_imp, forall_and] using hc
      · simp [step, hm, flush, hn] at hw

end Machine

/-- All words are there once the line has got a space more. -/
theorem run_space (h : words line = .ok us) :
    (Machine.run (line.toList ++ [' '])).words.reverse = us := by
  obtain ⟨hp, hs⟩ := parted_space h
  have ht : (line ++ " ").toList = line.toList ++ [' '] := String.toList_append
  rw [← ht, run_of_parted hp hs]
  simp [Machine.behind]

theorem words_region (hq : Parted q) (hx : words (String.ofList q) = .ok xs) (s : List Char) :
    words (String.ofList (q ++ '"' :: '"' :: s)) =
      (words (String.ofList s)).map fun ys => xs ++ "" :: ys := by
  have hr : words ("\"\"" ++ String.ofList s) = (words (String.ofList s)).map ([""] ++ ·) :=
    words_of_parted (.inr (.inl ⟨['"'], rfl, rfl⟩)) rfl _
  have ha : String.ofList (q ++ '"' :: '"' :: s) =
      String.ofList q ++ ("\"\"" ++ String.ofList s) := by
    simp [String.ext_iff]
  rw [ha, words_of_parted (by simpa using hq) hx, hr]
  cases words (String.ofList s) <;> rfl

theorem empty_word_iff (h : words line = .ok us) (xs ys : List String) :
    us = xs ++ "" :: ys ↔ ∃ q s, line.toList = q ++ '"' :: '"' :: s ∧ Parted q ∧
      words (String.ofList q) = .ok xs ∧ words (String.ofList s) = .ok ys := by
  constructor
  · intro hu
    obtain ⟨q, hq, hp, hx⟩ := Machine.exists_region ((run_space h).trans hu)
    rcases List.prefix_concat_iff.mp hq with he | ⟨s, hs⟩
    · exact absurd (snoc_quotes_iff.mp he.symm).2 (by decide)
    · have hl : line.toList = q ++ '"' :: '"' :: s := by simp [← hs]
      have hr := words_region hp hx s
      rw [← hl, String.ofList_toList, h] at hr
      cases hw : words (String.ofList s) with
      | error f => simp [hw, Except.map] at hr
      | ok vs =>
        rw [hw] at hr
        have hv := List.append_cancel_left (hu.symm.trans (Except.ok.inj hr))
        obtain rfl := (List.cons.inj hv).2
        exact ⟨q, s, hl, hp, hx, hw⟩
  · rintro ⟨q, s, hl, hp, hx, hy⟩
    have hr := words_region hp hx s
    rw [← hl, String.ofList_toList, h, hy] at hr
    exact Except.ok.inj hr

theorem count_empty (h : words line = .ok us) :
    us.count "" = line.toList.inits.countP fun q => EndsEmpty q := by
  have he : ¬ EndsEmpty (line.toList ++ [' ']) := by simp [Machine.endsEmpty_snoc]
  rw [← run_space h, List.count_reverse, Machine.count_run, List.inits_append]
  simp [he]

theorem nil_iff (h : words line = .ok us) : us = [] ↔ ∀ c ∈ line.toList, c = ' ' := by
  constructor
  · rintro rfl
    -- A line that ends inside its only word has no words yet. Behind the space that word is there.
    have hw := List.reverse_eq_nil_iff.mp (run_space h)
    have hb := Machine.blank_of_parted (.inr (.inr ⟨_, rfl, after_of_words h⟩)) hw
    exact fun c hc => hb c (List.mem_append_left _ hc)
  · intro hb
    have hs : line.toList = spaces line.toList.length ++ [] := by
      simpa [spaces] using List.eq_replicate_of_mem hb
    rw [words, hs, scan_spaces] at h
    exact (Except.ok.inj h).symm

/-- The words of a line hold its characters, but for spaces between words, quotes around regions and
the backslashes in them. -/
theorem words_conserve (h : words line = .ok us) :
    us.flatMap String.toList = Mode.outside.text line.toList ∧
      (∀ xs ys, us = xs ++ "" :: ys ↔ ∃ q s, line.toList = q ++ '"' :: '"' :: s ∧ Parted q ∧
        words (String.ofList q) = .ok xs ∧ words (String.ofList s) = .ok ys) ∧
      (us.count "" = line.toList.inits.countP fun q => EndsEmpty q) ∧
      (∀ xs u ys x c y, us = xs ++ u :: ys → u.toList = x ++ c :: y → c = ' ' ∨ c = '"' →
        ∃ p s, line.toList = p ++ c :: s ∧ Mode.outside.text p = xs.flatMap String.toList ++ x ∧
          (Mode.after p).kept c = [c] ∧ Mode.after p ≠ .outside) ∧
      (us = [] ↔ ∀ c ∈ line.toList, c = ' ') := by
  have hf := flatMap_words h
  refine ⟨hf, empty_word_iff h, count_empty h, ?_, nil_iff h⟩
  rintro xs u ys x c y rfl hu hc
  have ht : Mode.outside.text line.toList =
      (xs.flatMap String.toList ++ x) ++ c :: (y ++ ys.flatMap String.toList) := by
    simp [← hf, hu]
  obtain ⟨p, s, hs, hp, hk⟩ := Mode.text_split ht
  exact ⟨p, s, hs, hp, hk, Mode.ne_outside_of_kept hk hc⟩

/-- Two empty words, a region without characters that does not make one, and quoted spaces. -/
theorem words_conserve_empty :
    words " \"\"a\"\"\"\" \"b \\\" c\"" = .ok ["", "a", "", "b \" c"] ∧
      Mode.outside.text " \"\"a\"\"\"\" \"b \\\" c\"".toList = "ab \" c".toList ∧
      (" \"\"a\"\"\"\" \"b \\\" c\"".toList.inits.countP fun q => EndsEmpty q) = 2 := by
  have h : words " \"\"a\"\"\"\" \"b \\\" c\"" = .ok ["", "a", "", "b \" c"] := by rfl
  obtain ⟨ht, -, hc, -⟩ := words_conserve h
  exact ⟨h, ht.symm, hc.symm⟩

end NodeConsole.Words
