import Mathlib.Data.List.TakeWhile
import NodeConsole.Text.Blank

/-! Trimming takes off the blanks at both ends alone. -/
namespace NodeConsole.Text

variable {a b s : List Char} {c : Char}

/-- There is something, and no blank at either end of it. -/
structure Tight (s : List Char) : Prop where
  ne_nil : s ≠ []
  head : ∀ c ∈ s.head?, isBlank c = false
  last : ∀ c ∈ s.getLast?, isBlank c = false

theorem Tight.of_blankless (hn : s ≠ []) (h : ∀ c ∈ s, isBlank c = false) : Tight s :=
  ⟨hn, fun c hc => h c (List.mem_of_mem_head? hc), fun c hc => h c (List.mem_of_getLast? hc)⟩

theorem Tight.reverse (h : Tight s) : Tight s.reverse where
  ne_nil := List.reverse_ne_nil_iff.mpr h.ne_nil
  head := fun c hc => h.last c (List.head?_reverse ▸ hc)
  last := fun c hc => h.head c (List.getLast?_reverse ▸ hc)

theorem Tight.behind (h : Tight s) (hc : isBlank c = false) (a : List Char) :
    Tight (c :: (a ++ s)) where
  ne_nil := by simp
  head := by
    rintro d ⟨⟩
    exact hc
  last := by
    have hl : (c :: (a ++ s)).getLast? = s.getLast? := by
      rw [← List.cons_append, List.getLast?_append, List.getLast?_eq_some_getLast h.ne_nil]
      rfl
    rw [hl]
    exact h.last

theorem Tight.dropWhile_append (h : Tight s) (b : List Char) :
    (s ++ b).dropWhile isBlank = s ++ b := by
  obtain ⟨c, s, rfl⟩ := List.exists_cons_of_ne_nil h.ne_nil
  exact List.dropWhile_cons_of_neg (by simp [h.head c rfl])

theorem Tight.dropWhile_behind (h : Tight s) (a : List Char) :
    (a ++ s).dropWhile isBlank = a.dropWhile isBlank ++ s := by
  induction a with
  | nil => simpa using h.dropWhile_append []
  | cons c a ih =>
    by_cases hc : isBlank c
    · rw [List.cons_append, List.dropWhile_cons_of_pos hc, List.dropWhile_cons_of_pos hc, ih]
    · rw [List.cons_append, List.dropWhile_cons_of_neg hc, List.dropWhile_cons_of_neg hc,
        List.cons_append]

/-- In front of a tight text, only the blanks at the very beginning are taken off. -/
theorem Tight.trim_behind (h : Tight s) (a : List Char) :
    trim (a ++ s) = a.dropWhile isBlank ++ s := by
  rw [trim, h.dropWhile_behind, trimEnd, List.reverse_append, h.reverse.dropWhile_append,
    List.reverse_append, List.reverse_reverse, List.reverse_reverse]

/-- Whatever blanks a tight text is put between. -/
theorem Tight.trim_padded (h : Tight s) (ha : ∀ c ∈ a, isBlank c) (hb : ∀ c ∈ b, isBlank c) :
    trim (a ++ (s ++ b)) = s := by
  have hb : ∀ c ∈ b.reverse, isBlank c = true := fun c hc => hb c (List.mem_reverse.mp hc)
  have hs : s.reverse.dropWhile isBlank = s.reverse := by
    simpa using h.reverse.dropWhile_append []
  rw [trim, List.dropWhile_append_of_pos ha, h.dropWhile_append, trimEnd, List.reverse_append,
    List.dropWhile_append_of_pos hb, hs, List.reverse_reverse]

theorem Tight.trim_eq (h : Tight s) : trim s = s := by
  simpa using h.trim_padded (a := []) (b := []) (by simp) (by simp)

theorem trim_eq_self (h : ∀ c ∈ s, isBlank c = false) : trim s = s := by
  by_cases hn : s = []
  · rw [hn]
    rfl
  · exact (Tight.of_blankless hn h).trim_eq

theorem mem_of_mem_trim (h : c ∈ trim s) : c ∈ s := by
  rw [trim, trimEnd, List.mem_reverse] at h
  exact (List.dropWhile_suffix _).subset
    (List.mem_reverse.mp ((List.dropWhile_suffix _).subset h))

end NodeConsole.Text
