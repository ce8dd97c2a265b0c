import NodeConsole.Proofs.Console.Frame
import NodeConsole.Proofs.Tables.Updates

/-! The filters of a node after any bans. -/
namespace NodeConsole

namespace Filter

/-- The filter with its ban flag. -/
def banned (f : Filter) : Filter := { f with flags := f.flags.union .ban }

theorem banned_banned (f : Filter) : f.banned.banned = f.banned := by
  simp [banned, FilterFlags.union, UInt32.or_assoc]

theorem contains_banned (f : Filter) : f.banned.flags.contains f.flags := by
  refine beq_iff_eq.mpr (UInt32.toBitVec_inj.mp ?_)
  ext i hi
  simp only [banned, FilterFlags.union, UInt32.toBitVec_and, UInt32.toBitVec_or,
    BitVec.getElem_and, BitVec.getElem_or]
  cases f.flags.bits.toBitVec[i] <;> simp

end Filter

namespace FilterTable
open Table Commands

variable {t : FilterTable} {ps qs : List String} {p : String} {f : Filter} {i : Nat}

/-- A ban of a pattern. -/
def banning (p : String) : Update Filter.pattern where
  target := p
  entry o := o.elim ⟨p, .ban⟩ Filter.banned
  key_entry o h := by
    cases o with
    | none => rfl
    | some f => exact h f rfl

theorem entry_entry (p : String) (o : Option Filter) :
    (banning p).entry (some ((banning p).entry o)) = (banning p).entry o := by
  cases o with
  | none =>
    have hb : FilterFlags.ban.union .ban = .ban := by decide
    exact congrArg (Filter.mk p) hb
  | some f => exact f.banned_banned

theorem ban_eq (p : String) (t : FilterTable) :
    t.ban p = ((banning p).entry (t.find? (·.pattern = p)), (banning p).put t) := by
  induction t with
  | nil => rfl
  | cons f t ih =>
    rw [ban]
    by_cases hf : f.pattern = p
    · rw [if_pos hf, Update.put_here hf]
      simp [hf, banning, Filter.banned]
    · rw [if_neg hf, ih, Update.put_there hf]
      simp [hf]

theorem bans_eq (t : FilterTable) (ps : List String) : bans t ps = puts (ps.map banning) t := by
  simp [bans, puts, ban_eq, List.foldl_map]

theorem bans_snoc (t : FilterTable) (ps : List String) (p : String) :
    bans t (ps ++ [p]) = ((bans t ps).ban p).2 := by
  simp [bans]

theorem entryAt_banning (ps : List String) (p : String) (o : Option Filter) :
    entryAt (ps.map banning) p o = if p ∈ ps then some ((banning p).entry o) else o := by
  induction ps generalizing o with
  | nil => rfl
  | cons q ps ih =>
    rw [List.map_cons, entryAt_cons, ih]
    by_cases hq : q = p
    · subst hq
      rw [if_pos (show (banning q).target = q from rfl)]
      simp [entry_entry]
    · rw [if_neg (show (banning q).target ≠ p from hq)]
      simp [Ne.symm hq]

theorem getElem?_bans (ps : List String) (h : t[i]? = some f) :
    (bans t ps)[i]? =
      some (if f.pattern ∈ ps ∧ f.pattern ∉ (t.take i).map (·.pattern) then f.banned else f) := by
  rw [bans_eq, getElem?_puts _ h, entryAt_banning]
  by_cases hl : f.pattern ∈ (t.take i).map (·.pattern)
  · rw [if_pos hl, if_neg fun hf => hf.2 hl]
  · by_cases hp : f.pattern ∈ ps
    · rw [if_neg hl, if_pos hp, if_pos ⟨hp, hl⟩]
      rfl
    · rw [if_neg hl, if_neg hp, if_neg fun hf => hp hf.1]

theorem added_bans (t : FilterTable) (ps : List String) :
    (bans t ps).drop t.length =
      (ps.filter (· ∉ t.map (·.pattern))).eraseDups.map (⟨·, .ban⟩) := by
  refine List.map_injective_iff.mpr (fun _ _ => Option.some.inj) ?_
  have ht : (ps.map banning).map (·.target) = ps := by
    rw [List.map_map]
    exact List.map_id ps
  rw [bans_eq, added_puts, ht, List.map_map]
  refine List.map_congr_left fun p hp => ?_
  have hm := (List.mem_filter.mp (List.mem_eraseDups.mp hp)).1
  rw [entryAt_banning, if_pos hm]
  rfl

theorem nodup_bans (h : (t.map (·.pattern)).Nodup) (ps : List String) :
    ((bans t ps).map (·.pattern)).Nodup := by
  rw [bans_eq]
  exact nodup_puts h

theorem nodup_eraseDups (ps : List String) : ps.eraseDups.Nodup := by
  -- They are the patterns of the table that the bans make of an empty one.
  have h := nodup_bans (t := []) List.nodup_nil ps
  have ha : bans [] ps = ps.eraseDups.map (⟨·, .ban⟩) := by simpa using added_bans [] ps
  simpa [ha, Function.comp_def] using h

/-- What a ban gives back is the first entry of its pattern as it stands afterwards. -/
theorem find_ban (t : FilterTable) (p : String) :
    (t.ban p).2.find? (·.pattern = p) = some (t.ban p).1 := by
  rw [ban_eq]
  exact (banning p).find_put t

theorem find_bans (t : FilterTable) (ps : List String) (p : String) :
    (bans t ps).find? (·.pattern = p) =
      if p ∈ ps then some ((banning p).entry (t.find? (·.pattern = p)))
      else t.find? (·.pattern = p) := by
  rw [bans_eq, find_puts, entryAt_banning]

theorem bans_again (h : p ∈ ps) (t : FilterTable) : bans t (ps ++ [p]) = bans t ps := by
  have hf := find_bans t ps p
  rw [if_pos h] at hf
  rw [bans_snoc, ban_eq]
  exact Update.put_eq_self hf (entry_entry p _)

theorem perm_eraseDups (h : ps.Perm qs) : ps.eraseDups.Perm qs.eraseDups := by
  refine (List.perm_ext_iff_of_nodup (nodup_eraseDups ps) (nodup_eraseDups qs)).mpr fun p => ?_
  rw [List.mem_eraseDups, List.mem_eraseDups, h.mem_iff]

/-- The order of the bans counts for the added entries only. -/
theorem perm_bans (h : ps.Perm qs) (t : FilterTable) :
    (bans t ps).take t.length = (bans t qs).take t.length ∧
      ((bans t ps).drop t.length).Perm ((bans t qs).drop t.length) := by
  constructor
  · refine List.ext_getElem? fun i => ?_
    rw [List.getElem?_take, List.getElem?_take]
    by_cases hi : i < t.length
    · have hf := List.getElem?_eq_getElem hi
      simp only [getElem?_bans ps hf, getElem?_bans qs hf, h.mem_iff]
    · rw [if_neg hi, if_neg hi]
  · rw [added_bans, added_bans]
    exact (perm_eraseDups (h.filter _)).map _

/-- After bans the entries stand in their places, the banned ones with their flag, and the new ones
behind them. -/
theorem bans_made (t : FilterTable) (ps : List String) :
    (∀ i f, t[i]? = some f → (bans t ps)[i]? =
        some (if f.pattern ∈ ps ∧ f.pattern ∉ (t.take i).map (·.pattern) then f.banned else f)) ∧
      (bans t ps).drop t.length =
        (ps.filter (· ∉ t.map (·.pattern))).eraseDups.map (⟨·, .ban⟩) ∧
      (∀ p, bans t (ps ++ [p]) = ((bans t ps).ban p).2 ∧
        (bans t (ps ++ [p])).find? (·.pattern = p) = some ((bans t ps).ban p).1 ∧
        ((bans t ps).ban p).1 = ((t.find? (·.pattern = p)).map Filter.banned).getD ⟨p, .ban⟩) ∧
      ((t.map (·.pattern)).Nodup → ((bans t ps).map (·.pattern)).Nodup) ∧
      (∀ (i : Nat) (f : Filter), t[i]? = some f →
        ∃ g : Filter, (bans t ps)[i]? = some g ∧ g.pattern = f.pattern ∧ g.flags.contains f.flags) ∧
      (∀ p ∈ ps, bans t (ps ++ [p]) = bans t ps) ∧
      ∀ qs, ps.Perm qs → (bans t ps).take t.length = (bans t qs).take t.length ∧
        ((bans t ps).drop t.length).Perm ((bans t qs).drop t.length) := by
  refine ⟨fun i f => getElem?_bans ps, added_bans t ps, fun p => ⟨bans_snoc t ps p, ?_, ?_⟩,
    fun h => nodup_bans h ps, ?_, fun p hp => bans_again hp t, fun qs h => perm_bans h t⟩
  · rw [bans_snoc]
    exact find_ban _ p
  · have he : (banning p).entry ((bans t ps).find? (·.pattern = p)) =
        (banning p).entry (t.find? (·.pattern = p)) := by
      rw [find_bans]
      by_cases hp : p ∈ ps
      · rw [if_pos hp, entry_entry]
      · rw [if_neg hp]
    rw [ban_eq, he]
    cases t.find? (·.pattern = p) <;> rfl
  · intro i f hf
    refine ⟨_, getElem?_bans ps hf, ?_⟩
    split
    · exact ⟨rfl, f.contains_banned⟩
    · exact ⟨rfl, by simp [FilterFlags.contains]⟩

/-- A pattern that stands twice, with a flag of no name, and two that are new. -/
theorem bans_made_twice :
    let t : FilterTable := [⟨"a", ⟨48⟩⟩, ⟨"b", .none⟩, ⟨"a", .network⟩]
    ["c", "a", "d", "c"].Perm ["d", "c", "c", "a"] ∧
      (bans t ["c", "a", "d", "c"]).drop 3 = [⟨"c", .ban⟩, ⟨"d", .ban⟩] ∧
      (bans t ["c", "a", "d", "c"])[0]? = some ⟨"a", ⟨49⟩⟩ ∧
      (bans t ["c", "a", "d", "c"])[2]? = some ⟨"a", .network⟩ ∧
      (bans t ["c", "a", "d", "c"]).take 3 = (bans t ["d", "c", "c", "a"]).take 3 := by
  intro t
  obtain ⟨hk, ha, -, -, -, -, hp⟩ := bans_made t ["c", "a", "d", "c"]
  have h : ["c", "a", "d", "c"].Perm ["d", "c", "c", "a"] := by decide
  exact ⟨h, ha, hk 0 _ rfl, hk 2 _ rfl, (hp _ h).1⟩

end FilterTable
end NodeConsole
