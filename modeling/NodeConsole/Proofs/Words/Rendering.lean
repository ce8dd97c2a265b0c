import NodeConsole.Words

/-! Words written into a line. -/
namespace NodeConsole.Words

variable {c : Char} {w s cs : List Char} {ws us : List String} {u : String} {n : Nat}

def spaces (n : Nat) : List Char := List.replicate n ' '

/-- Inside quotes, a backslash goes before each quote and each backslash. -/
def escape (cs : List Char) : List Char :=
  cs.flatMap fun c => if c = '"' ∨ c = '\\' then ['\\', c] else [c]

def quote (u : String) : List Char := '"' :: (escape u.toList ++ ['"'])

/-- Can stand without quotes. -/
def Bare (u : String) : Prop := u ≠ "" ∧ ∀ c ∈ u.toList, c ≠ ' ' ∧ c ≠ '"'

instance : DecidablePred Bare := fun u =>
  have := List.decidableBAll (fun c => c ≠ ' ' ∧ c ≠ '"') u.toList
  inferInstanceAs (Decidable (u ≠ "" ∧ ∀ c ∈ u.toList, c ≠ ' ' ∧ c ≠ '"'))

/-- The lines for a list of words that begin with the first of them. A word without quotes is kept
apart from the next. -/
inductive Renders : List String → List Char → Prop
  | nil : Renders [] []
  | quoted {us : List String} {s : List Char} (u : String) (gap : Nat) (h : Renders us s) :
      Renders (u :: us) (quote u ++ (spaces gap ++ s))
  | bare {us : List String} {s : List Char} (u : String) (gap : Nat) (hu : Bare u)
      (hg : us ≠ [] → 0 < gap) (h : Renders us s) :
      Renders (u :: us) (u.toList ++ (spaces gap ++ s))

theorem scan_keep (hs : c ≠ ' ') (hq : c ≠ '"') : scan ws w (c :: s) = scan ws (c :: w) s := by
  rw [scan]
  · exact hs
  · exact hq

theorem scanQuoted_keep (hq : c ≠ '"') (hb : c ≠ '\\') :
    scanQuoted ws w (c :: s) = scanQuoted ws (c :: w) s := by
  rw [scanQuoted]
  · exact fun h _ => hb h
  · exact fun _ _ h _ => hb h
  · exact hq

theorem scan_spaces (n : Nat) : scan ws [] (spaces n ++ s) = scan ws [] s := by
  induction n with
  | zero => rfl
  | succ n ih => exact ih

theorem scan_bare (hc : ∀ c ∈ cs, c ≠ ' ' ∧ c ≠ '"') :
    scan ws w (cs ++ s) = scan ws (cs.reverse ++ w) s := by
  induction cs generalizing w with
  | nil => rfl
  | cons c cs ih =>
    obtain ⟨⟨hs, hq⟩, hcs⟩ := List.forall_mem_cons.mp hc
    rw [List.cons_append, scan_keep hs hq, ih hcs, List.reverse_cons, List.append_assoc]
    rfl

theorem scanQuoted_escape (cs : List Char) :
    scanQuoted ws w (escape cs ++ '"' :: s) = scan (word (cs.reverse ++ w) :: ws) [] s := by
  induction cs generalizing w with
  | nil => rfl
  | cons c cs ih =>
    have hi := ih (w := c :: w)
    rw [List.reverse_cons, List.append_assoc]
    by_cases h : c = '"' ∨ c = '\\'
    · have he : escape (c :: cs) = '\\' :: c :: escape cs := by simp [escape, h]
      rw [he]
      exact hi
    · have he : escape (c :: cs) = c :: escape cs := by simp [escape, h]
      rw [he, List.cons_append, scanQuoted_keep (fun hq => h (.inl hq)) (fun hb => h (.inr hb))]
      exact hi

theorem scan_quote (u : String) : scan ws [] (quote u ++ s) = scan (u :: ws) [] s := by
  have h : scanQuoted ws [] (escape u.toList ++ '"' :: s) =
    scan (word (u.toList.reverse ++ []) :: ws) [] s := scanQuoted_escape u.toList
  have hu : word (u.toList.reverse ++ []) = u := by simp [word]
  rw [hu] at h
  simpa [quote, scan] using h

theorem flush_bare (hu : Bare u) : flush ws u.toList.reverse = u :: ws := by
  have hn : u.toList ≠ [] := fun h => hu.1 (by simpa using h)
  simp [flush, word, hn]

theorem scan_gap (hu : Bare u) (n : Nat) :
    scan ws u.toList.reverse (spaces (n + 1) ++ s) = scan (u :: ws) [] s := by
  have h : scan ws u.toList.reverse (spaces (n + 1) ++ s) =
    scan (flush ws u.toList.reverse) [] (spaces n ++ s) := rfl
  rw [h, flush_bare hu, scan_spaces]

theorem scan_rendered (h : Renders us s) (ws : List String) :
    scan ws [] s = .ok (ws.reverse ++ us) := by
  induction h generalizing ws with
  | nil => simp [scan, flush]
  | quoted u gap _ ih =>
    rw [scan_quote, scan_spaces, ih]
    simp
  | bare u gap hu hg h ih =>
    rw [scan_bare hu.2, List.append_nil]
    cases gap with
    | zero =>
      -- Only the last word may have no space after it.
      cases h with
      | nil => simp [spaces, scan, flush_bare hu]
      | quoted | bare => exact absurd (hg nofun) (Nat.lt_irrefl 0)
    | succ n =>
      rw [scan_gap hu, ih]
      simp

/-- A line of words in quotes. -/
def quoted (us : List String) : String := String.ofList (us.flatMap fun u => quote u ++ spaces 1)

/-- Whatever words are written, in quotes or without, with spaces before, between and after them,
they are the words of the line. -/
theorem words_rendered (h : Renders us s) (lead : Nat) :
    words (String.ofList (spaces lead ++ s)) = .ok us := by
  rw [words, String.toList_ofList, scan_spaces, scan_rendered h]
  rfl

/-- A backslash that stands as it is, an empty word, and one in quotes right behind it. -/
theorem words_rendered_mixed :
    Renders ["a\\b", "", "x \"y\\"] "a\\b  \"\"\"x \\\"y\\\\\" ".toList ∧
      words "  a\\b  \"\"\"x \\\"y\\\\\" " = .ok ["a\\b", "", "x \"y\\"] := by
  have h : Renders ["a\\b", "", "x \"y\\"] "a\\b  \"\"\"x \\\"y\\\\\" ".toList :=
    .bare "a\\b" 2 (by decide) (by decide) (.quoted "" 0 (.quoted "x \"y\\" 1 .nil))
  exact ⟨h, words_rendered h 2⟩

end NodeConsole.Words
