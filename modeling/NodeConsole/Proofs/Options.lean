import Mathlib.Data.List.Sort
import NodeConsole.Options

/-! Splitting the arguments before and behind the first `--`. -/
namespace NodeConsole.Options

variable {known args args' a b : List String} {flag : String}

/-- The arguments before the first `--`. -/
def before (args : List String) : List String := args.takeWhile (· ≠ "--")

/-- The arguments behind the first `--`. -/
def behind (args : List String) : List String := (args.dropWhile (· ≠ "--")).tail

theorem mem_insertFlag {f : String} {fs : List String} :
    flag ∈ insertFlag f fs ↔ flag = f ∨ flag ∈ fs := by
  induction fs with
  | nil => simp [insertFlag]
  | cons g gs ih =>
    unfold insertFlag
    by_cases hlt : f < g
    · rw [if_pos hlt, List.mem_cons]
    · rw [if_neg hlt]
      by_cases heq : f = g
      · rw [if_pos heq, List.mem_cons, heq, or_self_left]
      · rw [if_neg heq, List.mem_cons, List.mem_cons, ih, or_left_comm]

@[simp] theorem before_end (args : List String) : before ("--" :: args) = [] := by
  simp [before]

@[simp] theorem behind_end (args : List String) : behind ("--" :: args) = args := by
  simp [behind]

theorem before_cons {arg : String} (h : arg ≠ "--") :
    before (arg :: args) = arg :: before args := by
  simp [before, h]

theorem behind_cons {arg : String} (h : arg ≠ "--") : behind (arg :: args) = behind args := by
  simp [behind, h]

theorem before_append (h : "--" ∉ a) : before (a ++ b) = a ++ before b := by
  apply List.takeWhile_append_of_pos
  intro arg ha
  exact decide_eq_true fun he => h (he ▸ ha)

theorem behind_append (h : "--" ∉ a) : behind (a ++ b) = behind b := by
  rw [behind, List.dropWhile_append_of_pos]
  · rfl
  · intro arg ha
    exact decide_eq_true fun he => h (he ▸ ha)

theorem mem_of_mem_before {arg : String} (h : arg ∈ before args) : arg ∈ args :=
  (List.takeWhile_prefix _).subset h

theorem mem_of_mem_behind {arg : String} (h : arg ∈ behind args) : arg ∈ args :=
  (List.dropWhile_suffix _).subset (List.mem_of_mem_tail h)

/-- Every argument is on one of the two sides, in its place. -/
theorem before_behind (args : List String) :
    ("--" ∉ args ∧ before args = args ∧ behind args = []) ∨
      ("--" ∉ before args ∧ args = before args ++ "--" :: behind args) := by
  induction args with
  | nil => exact .inl ⟨List.not_mem_nil, rfl, rfl⟩
  | cons arg args ih =>
    by_cases he : arg = "--"
    · subst he
      rw [before_end, behind_end]
      exact .inr ⟨List.not_mem_nil, rfl⟩
    · rw [before_cons he, behind_cons he]
      rcases ih with ⟨hn, hb, hr⟩ | ⟨hn, hs⟩
      · refine .inl ⟨?_, by rw [hb], hr⟩
        exact List.not_mem_cons_of_ne_of_not_mem (Ne.symm he) hn
      · refine .inr ⟨List.not_mem_cons_of_ne_of_not_mem (Ne.symm he) hn, ?_⟩
        exact congrArg (arg :: ·) hs

theorem positionals_split (known args : List String) :
    (split known args).positionals =
      (before args).filter (· ∉ known) ++ behind args := by
  induction args with
  | nil => rfl
  | cons arg args ih =>
    unfold split
    by_cases he : arg = "--"
    · rw [if_pos he, he, before_end, behind_end]
      rfl
    · rw [if_neg he, before_cons he, behind_cons he]
      by_cases hk : arg ∈ known
      · simpa [hk] using ih
      · simpa [hk] using ih

theorem has_split : (split known args).has flag ↔ flag ∈ known ∧ flag ∈ before args := by
  induction args with
  | nil => simp [split, has, before]
  | cons arg args ih =>
    rw [has, List.contains_iff_mem] at ih ⊢
    unfold split
    by_cases he : arg = "--"
    · simp [he]
    · rw [if_neg he, before_cons he, List.mem_cons]
      by_cases hk : arg ∈ known
      · simp only [List.contains_iff_mem, hk, if_true, mem_insertFlag, ih]
        constructor
        · rintro (rfl | ⟨hf, hb⟩)
          · exact ⟨hk, .inl rfl⟩
          · exact ⟨hf, .inr hb⟩
        · rintro ⟨hf, rfl | hb⟩
          · exact .inl rfl
          · exact .inr ⟨hf, hb⟩
      · simp only [List.contains_iff_mem, hk, if_false, ih]
        constructor
        · rintro ⟨hf, hb⟩
          exact ⟨hf, .inr hb⟩
        · rintro ⟨hf, rfl | hb⟩
          · exact absurd hf hk
          · exact ⟨hf, hb⟩

theorem mem_flags_split :
    flag ∈ (split known args).flags ↔ flag ∈ known ∧ flag ∈ before args := by
  rw [← has_split, has, List.contains_iff_mem]

theorem ascending_insertFlag {fs : List String} (h : fs.Pairwise (· < ·)) :
    (insertFlag flag fs).Pairwise (· < ·) := by
  induction fs with
  | nil => exact List.pairwise_singleton _ _
  | cons f fs ih =>
    obtain ⟨hfirst, hrest⟩ := List.pairwise_cons.mp h
    unfold insertFlag
    by_cases hlt : flag < f
    · rw [if_pos hlt]
      refine List.pairwise_cons.mpr ⟨?_, h⟩
      intro g hg
      rcases List.mem_cons.mp hg with rfl | hg
      · exact hlt
      · exact String.lt_trans hlt (hfirst g hg)
    · rw [if_neg hlt]
      by_cases heq : flag = f
      · rw [if_pos heq]
        exact h
      · rw [if_neg heq]
        refine List.pairwise_cons.mpr ⟨?_, ih hrest⟩
        intro g hg
        rcases mem_insertFlag.mp hg with rfl | hg
        · apply String.not_le.mp
          intro hle
          exact heq (String.le_antisymm hle (String.not_lt.mp hlt))
        · exact hfirst g hg

theorem ascending_flags (known args : List String) :
    (split known args).flags.Pairwise (· < ·) := by
  induction args with
  | nil => exact .nil
  | cons arg args ih =>
    unfold split
    by_cases he : arg = "--"
    · rw [if_pos he]
      exact .nil
    · rw [if_neg he]
      by_cases hk : known.contains arg
      · rw [if_pos hk]
        exact ascending_insertFlag ih
      · rw [if_neg hk]
        exact ih

/-- A split is known by its flags as a set and its positionals as a list. -/
theorem ext_split {known' : List String}
    (hf : ∀ flag, (flag ∈ known' ∧ flag ∈ before args') ↔ (flag ∈ known ∧ flag ∈ before args))
    (hp : (split known' args').positionals = (split known args).positionals) :
    split known' args' = split known args := by
  have hflags : (split known' args').flags = (split known args).flags := by
    apply (ascending_flags known' args').eq_of_mem_iff (ascending_flags known args)
    intro flag
    rw [mem_flags_split, mem_flags_split, hf]
  generalize split known' args' = o' at hflags hp
  generalize split known args = o at hflags hp
  cases o'
  cases o
  cases hflags
  cases hp
  rfl

/-- Arguments that differ only in where, in what order and how often flags stand before the first
`--`. -/
structure Alike (known args args' : List String) : Prop where
  others : (before args').filter (· ∉ known) = (before args).filter (· ∉ known)
  flags : ∀ flag ∈ known, flag ∈ before args' ↔ flag ∈ before args
  behind : behind args' = behind args

theorem Alike.split_eq (h : Alike known args args') : split known args' = split known args := by
  apply ext_split
  · intro flag
    exact and_congr_right (h.flags flag)
  · rw [positionals_split, positionals_split, h.others, h.behind]

/-- What is put behind some arguments: of a `--` among it the first is dropped, if they have none
themselves. -/
theorem split_append_end (known args ps : List String) :
    split known (args ++ "--" :: ps) =
      ⟨(split known args).flags,
        (split known args).positionals ++ if "--" ∈ args then "--" :: ps else ps⟩ := by
  induction args with
  | nil => simp [split]
  | cons arg args ih =>
    rw [List.cons_append, split, split]
    by_cases he : arg = "--"
    · simp [he]
    · have hm : "--" ∈ arg :: args ↔ "--" ∈ args := by
        simp [Ne.symm he]
      rw [if_neg he, if_neg he, ih]
      simp only [hm]
      by_cases hk : known.contains arg
      · rw [if_pos hk, if_pos hk]
      · rw [if_neg hk, if_neg hk]
        rfl

/-- Before the first `--` the known flags are flags and all else is positional; behind it everything
is positional. -/
theorem split_lossless (known args : List String) :
    (("--" ∉ args ∧ before args = args ∧ behind args = []) ∨
        ("--" ∉ before args ∧ args = before args ++ "--" :: behind args)) ∧
      (split known args).positionals =
        (before args).filter (· ∉ known) ++ behind args ∧
      ((split known args).flags.Pairwise (· < ·) ∧
        ∀ flag, flag ∈ (split known args).flags ↔ flag ∈ known ∧ flag ∈ before args) ∧
      (∀ args', Alike known args args' → split known args' = split known args) ∧
      ∀ ps, ps <:+ (split known (args ++ "--" :: ps)).positionals ∧
        split known (args ++ "--" :: ps) =
          ⟨(split known args).flags,
            (split known args).positionals ++ if "--" ∈ args then "--" :: ps else ps⟩ := by
  refine ⟨before_behind args, positionals_split known args,
    ⟨ascending_flags known args, fun _ => mem_flags_split⟩, fun args' h => h.split_eq, ?_⟩
  intro ps
  have hs := split_append_end known args ps
  refine ⟨?_, hs⟩
  rw [hs]
  apply List.IsSuffix.trans _ (List.suffix_append _ _)
  by_cases hm : "--" ∈ args
  · rw [if_pos hm]
    exact List.suffix_cons "--" ps
  · simp only [if_neg hm, List.suffix_refl]

/-- A flag that is given twice, and once in another place; what looks like it behind `--` stays. -/
theorem split_lossless_repeated :
    let known := ["--", "-x", "-v"]
    let args := ["-v", "a", "-x", "-v", "b", "--", "-v", "--"]
    let args' := ["a", "b", "-v", "-x", "--", "-v", "--"]
    Alike known args args' ∧ split known args' = split known args ∧
      split known args = ⟨["-v", "-x"], ["a", "b", "-v", "--"]⟩ := by
  intro known args args'
  have h : Alike known args args' := ⟨by decide, by decide, by decide⟩
  exact ⟨h, (split_lossless known args).2.2.2.1 args' h, by decide⟩

end NodeConsole.Options
