import Mathlib.Data.List.Induction
import NodeConsole.Proofs.Config.Settings

/-! The priority of a file whose path comes up twice. -/
namespace NodeConsole.Config

variable {files : String → Found} {configDir : Option String} {named p q : String} {c d : Config}
  {ps qs : List String}

/-- The paths behind the place where `p` is searched. -/
def after (p : String) (paths : List String) : List String :=
  (paths.dropWhile fun q => !Path.same p q).tail

/-- Two ways to write a path lead to one file. -/
def OneFile (files : String → Found) (paths : List String) : Prop :=
  ∀ p ∈ paths, ∀ q ∈ paths, Path.same p q → files p = files q

theorem dedup_snoc (ps : List String) (p : String) :
    dedup (ps ++ [p]) =
      if (dedup ps).any (Path.same p) then dedup ps else dedup ps ++ [p] := by
  rw [dedup, List.foldl_append]
  rfl

theorem mem_of_mem_dedup (h : p ∈ dedup ps) : p ∈ ps := by
  induction ps using List.reverseRecOn with
  | nil => exact h
  | append_singleton ps q ih =>
    rw [dedup_snoc] at h
    split at h
    · exact List.mem_append_left _ (ih h)
    · rcases List.mem_append.mp h with h | h
      · exact List.mem_append_left _ (ih h)
      · exact List.mem_append_right _ h

theorem exists_same_mem_dedup (h : p ∈ ps) : ∃ q ∈ dedup ps, Path.same p q := by
  induction ps using List.reverseRecOn with
  | nil => contradiction
  | append_singleton ps r ih =>
    rw [dedup_snoc]
    rcases List.mem_append.mp h with h | h
    · obtain ⟨q, hq, hs⟩ := ih h
      refine ⟨q, ?_, hs⟩
      split
      · exact hq
      · exact List.mem_append_left _ hq
    · obtain rfl := List.mem_singleton.mp h
      split
      · rename_i ha
        exact List.any_eq_true.mp ha
      · exact ⟨p, List.mem_append_right _ h, by simp [Path.same]⟩

theorem split_after {p : String} (ps : List String) (h : ∃ q ∈ ps, Path.same p q) :
    ∃ before q, Path.same p q ∧ ps = before ++ q :: after p ps := by
  induction ps with
  | nil =>
    obtain ⟨q, hq, -⟩ := h
    contradiction
  | cons r ps ih =>
    by_cases hr : Path.same p r
    · exact ⟨[], r, hr, by simp [after, hr]⟩
    · have hn : ∃ q ∈ ps, Path.same p q := by
        obtain ⟨q, hq, hs⟩ := h
        rcases List.mem_cons.mp hq with rfl | hq
        · contradiction
        · exact ⟨q, hq, hs⟩
      obtain ⟨before, q, hs, hp⟩ := ih hn
      have ha : after p (r :: ps) = after p ps := by simp [after, hr]
      exact ⟨r :: before, q, hs, by rw [ha, List.cons_append, ← hp]⟩

theorem after_append (h : ∀ q ∈ ps, Path.same p q = false) (qs : List String) :
    after p (ps ++ qs) = after p qs := by
  rw [after, List.dropWhile_append_of_pos, after]
  intro q hq
  simp [h q hq]

theorem after_singleton (p q : String) : after p [q] = [] := by
  rw [after, List.dropWhile_cons]
  split <;> rfl

theorem layerPaths_some (configDir : Option String) (named : String) :
    layerPaths configDir (some named) = layerPaths configDir none ++ [named] := by
  simp [layerPaths]

/-- Only a file that is also the system's or the user's keeps a place before others. -/
theorem after_searchPaths (hs : Path.same named systemPath = false)
    (hu : ∀ dir ∈ configDir, Path.same named (userPath dir) = false) :
    after named (searchPaths configDir (some named)) = [] := by
  let low := systemPath :: (configDir.map userPath).toList
  have hl : layerPaths configDir none = low ++ [projectPath] := by simp [layerPaths, low]
  have hn : ∀ q ∈ dedup low, Path.same named q = false := by
    intro q hq
    rcases List.mem_cons.mp (mem_of_mem_dedup hq) with rfl | hq
    · exact hs
    · obtain ⟨dir, hd, rfl⟩ := Option.map_eq_some_iff.mp (Option.mem_toList.mp hq)
      exact hu dir hd
  rw [searchPaths, layerPaths_some, hl, dedup_snoc, dedup_snoc]
  by_cases hp : (dedup low).any (Path.same projectPath)
  · rw [if_pos hp]
    split
    · rw [← List.append_nil (dedup low), after_append hn]
      rfl
    · rw [after_append hn, after_singleton]
  · rw [if_neg hp]
    split
    · rw [after_append hn, after_singleton]
    · rename_i ha
      have hj : ∀ q ∈ dedup low ++ [projectPath], Path.same named q = false := by
        intro q hq
        exact Bool.eq_false_iff.mpr fun h => ha (List.any_eq_true.mpr ⟨q, hq, h⟩)
      rw [after_append hj, after_singleton]

theorem overlay_eq_of_within (h : c.Within d) : c.overlay d = d := by
  apply ext_get
  intro s
  rw [get_overlay]
  cases hv : c.get s with
  | none => rw [Option.none_or]
  | some v => rw [h s v hv, Option.some_or]

/-- Without a file that is named, a path can come up twice only in a row. -/
theorem merged_dedup_layerPaths (h : OneFile files (layerPaths configDir none)) :
    merged files (dedup (layerPaths configDir none)) =
      merged files (layerPaths configDir none) := by
  have hj : Path.same projectPath systemPath = false := by decide
  cases configDir with
  | none => simp [layerPaths, dedup, hj]
  | some dir =>
    have hl : layerPaths (some dir) none = [systemPath, userPath dir, projectPath] := rfl
    rw [hl] at h ⊢
    by_cases hu : Path.same (userPath dir) systemPath
    · have hf : files systemPath = files (userPath dir) :=
        (h (userPath dir) (by simp) systemPath (by simp) hu).symm
      have hd : dedup [systemPath, userPath dir, projectPath] = [systemPath, projectPath] := by
        simp [dedup, hu, hj]
      rw [hd, merged_repeat (found_congr hf)]
      simp only [merged, List.filterMap_cons, found_congr hf]
    · by_cases hp : Path.same projectPath (userPath dir)
      · have hf : files (userPath dir) = files projectPath :=
          (h projectPath (by simp) (userPath dir) (by simp) hp).symm
        have hd : dedup [systemPath, userPath dir, projectPath] = [systemPath, userPath dir] := by
          simp [dedup, hu, hj, hp]
        have hr : merged files [userPath dir, projectPath] = merged files [projectPath] :=
          merged_repeat (found_congr hf)
        have hc : ∀ ps, merged files (systemPath :: ps) =
            (merged files ps).overlay (merged files [systemPath]) := merged_append [systemPath]
        rw [hd, hc, hc [userPath dir, projectPath], hr]
        simp only [merged, List.filterMap_cons, found_congr hf]
      · simp [dedup, hu, hj, hp]

/-- A named file is either dropped or laid over the others. -/
theorem merged_searchPaths (named : String) (h : OneFile files (layerPaths configDir none)) :
    merged files (searchPaths configDir (some named)) =
        merged files (layerPaths configDir none) ∨
      merged files (searchPaths configDir (some named)) =
        merged files (layerPaths configDir (some named)) := by
  rw [searchPaths, layerPaths_some, dedup_snoc]
  split
  · exact .inl (merged_dedup_layerPaths h)
  · rw [merged_append, merged_append, merged_dedup_layerPaths h]
    exact .inr rfl

theorem merged_split (hq : found files q = some c) :
    merged files (ps ++ q :: qs) =
      (merged files qs).overlay (c.overlay (merged files ps)) := by
  rw [← List.singleton_append, ← List.append_assoc, merged_append, merged_append,
    merged_singleton hq]

/-- All settings of a named file count if and only if what is searched after it agrees with them. -/
theorem named_prevails_iff
    (hv : ∀ p ∈ layerPaths configDir (some named), ∃ o, layer p (files p) = .ok o)
    (ho : OneFile files (layerPaths configDir (some named)))
    (hn : layer named (files named) = .ok (some c)) :
    ∃ l m upper, load files (searchPaths configDir (some named)) = .ok l ∧
      load files (layerPaths configDir (some named)) = .ok m ∧
      load files (after named (searchPaths configDir (some named))) = .ok upper ∧
      (c.Within l.config ↔ c.Agrees upper.config) ∧
      (l.config = m.config ↔ c.Agrees upper.config) ∧
      (Path.same named systemPath = false →
        (∀ dir ∈ configDir, Path.same named (userPath dir) = false) →
        c.Within l.config ∧ l.config = m.config) := by
  have hmem : named ∈ layerPaths configDir (some named) := by simp [layerPaths]
  obtain ⟨before, q, hsame, hsplit⟩ :=
    split_after (searchPaths configDir (some named)) (exists_same_mem_dedup hmem)
  have hsub : ∀ p ∈ before ++ q :: after named (searchPaths configDir (some named)),
      p ∈ layerPaths configDir (some named) := by
    rw [← hsplit]
    exact fun p => mem_of_mem_dedup
  have hq : found files q = some c := by
    rw [← found_congr (ho named hmem q (hsub q (by simp)) hsame)]
    exact found_of_layer hn
  have hm : merged files (layerPaths configDir (some named)) =
      c.overlay (merged files (layerPaths configDir none)) := by
    rw [layerPaths_some, merged_append, merged_singleton (found_of_layer hn)]
  have hw : c.Within (merged files (searchPaths configDir (some named))) ↔
      c.Agrees (merged files (after named (searchPaths configDir (some named)))) := by
    conv => lhs; rw [hsplit, merged_split hq]
    exact within_overlay_overlay_iff
  have he : merged files (searchPaths configDir (some named)) =
      merged files (layerPaths configDir (some named)) ↔
      c.Agrees (merged files (after named (searchPaths configDir (some named)))) := by
    rw [← hw]
    constructor
    · intro h
      rw [h, hm]
      exact within_overlay c _
    · intro h
      have hstd : OneFile files (layerPaths configDir none) := by
        rw [layerPaths_some] at ho
        exact fun p hp r hr => ho p (List.mem_append_left _ hp) r (List.mem_append_left _ hr)
      rcases merged_searchPaths named hstd with hd | hd
      · rw [hd] at h ⊢
        rw [hm, overlay_eq_of_within h]
      · exact hd
  refine ⟨_, _, _, load_eq fun p hp => hv p (mem_of_mem_dedup hp), load_eq hv,
    load_eq fun p hp => hv p (hsub p (by simp [hp])), hw, he, ?_⟩
  intro hsys huser
  have ha : c.Agrees (merged files (after named (searchPaths configDir (some named)))) := by
    rw [after_searchPaths hsys huser]
    exact agrees_empty c
  exact ⟨hw.mpr ha, he.mpr ha⟩

/-- Files of a user and of a project that disagree about a setting. -/
def disputed (path : String) : Found :=
  if Path.same path (userPath "/root/.config") then
    .file (Text.bytes "\x7b\"peer\": \x7b\"default_port\": 1\x7d\x7d")
  else if Path.same path projectPath then
    .file (Text.bytes "\x7b\"peer\": \x7b\"default_port\": 2\x7d\x7d")
  else .missing

theorem oneFile_disputed (paths : List String) : OneFile disputed paths := by
  intro p _ q _ h
  have hs : ∀ r, Path.same p r = Path.same q r := by
    intro r
    have hp : Path.ofText p = Path.ofText q := by simpa [Path.same] using h
    rw [Path.same, Path.same, hp]
  rw [disputed, disputed, hs, hs]

theorem layer_disputed (path : String) : ∃ o, layer path (disputed path) = .ok o := by
  unfold disputed
  split
  · exact ⟨some { peerPort := some 1 }, rfl⟩
  · split
    · exact ⟨some { peerPort := some 2 }, rfl⟩
    · exact ⟨none, rfl⟩

/-- The project's file is named, in another way than it is searched, and prevails over the user's. -/
theorem named_prevails_project :
    layer ".ctlshell//config.json" (disputed ".ctlshell//config.json") =
        .ok (some { peerPort := some 2 }) ∧
      ∃ l m, load disputed (searchPaths (some "/root/.config") (some ".ctlshell//config.json")) =
          .ok l ∧
        load disputed (layerPaths (some "/root/.config") (some ".ctlshell//config.json")) = .ok m ∧
        l.config.peerPort = some 2 ∧ l.config = m.config := by
  have hn : layer ".ctlshell//config.json" (disputed ".ctlshell//config.json") =
      .ok (some { peerPort := some 2 }) := rfl
  have hv : ∀ p ∈ layerPaths (some "/root/.config") (some ".ctlshell//config.json"),
      ∃ o, layer p (disputed p) = .ok o := fun p _ => layer_disputed p
  obtain ⟨l, m, upper, hl, hm, -, -, -, h⟩ := named_prevails_iff hv (oneFile_disputed _) hn
  obtain ⟨hw, he⟩ := h (by decide) (by simp only [Option.mem_some_iff, forall_eq']; decide)
  exact ⟨hn, l, m, hl, hm, hw .peerPort (2 : UInt16) rfl, he⟩

/-- The user's file is named, and still the project's is laid over it. -/
theorem named_user_file_overruled :
    ¬ ∀ (files : String → Found) (configDir : Option String) (named : String) (c : Config)
      (l m : Loaded),
      (∀ p ∈ layerPaths configDir (some named), ∃ o, layer p (files p) = .ok o) →
      OneFile files (layerPaths configDir (some named)) →
      layer named (files named) = .ok (some c) →
      load files (searchPaths configDir (some named)) = .ok l →
      load files (layerPaths configDir (some named)) = .ok m →
      c.Within l.config ∧ l.config = m.config := by
  intro h
  have hp : searchPaths (some "/root/.config") (some (userPath "/root/.config")) =
      [systemPath, userPath "/root/.config", projectPath] := by decide +kernel
  have hl : load disputed [systemPath, userPath "/root/.config", projectPath] = .ok {
      config := { peerPort := some 2 }
      searched := [systemPath, userPath "/root/.config", projectPath]
      loaded := [userPath "/root/.config", projectPath] } := rfl
  have hm : load disputed
      [systemPath, userPath "/root/.config", projectPath, userPath "/root/.config"] = .ok {
      config := { peerPort := some 1 }
      searched := [systemPath, userPath "/root/.config", projectPath, userPath "/root/.config"]
      loaded := [userPath "/root/.config", projectPath, userPath "/root/.config"] } := rfl
  have hc := h disputed (some "/root/.config") (userPath "/root/.config") { peerPort := some 1 } _ _
    (fun p _ => layer_disputed p) (oneFile_disputed _) rfl (hp ▸ hl) hm
  exact absurd hc.2 (by decide)

end NodeConsole.Config
