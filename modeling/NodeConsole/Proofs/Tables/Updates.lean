import Mathlib.Data.List.Basic

/-! Tables of entries with keys, after any updates. -/
namespace NodeConsole.Table

/-- The entry that is left at a key, from the one that stood there, if there was one. -/
structure Update {α κ : Type} (key : α → κ) where
  target : κ
  entry : Option α → α
  key_entry : ∀ o, (∀ x ∈ o, key x = target) → key (entry o) = target

variable {α κ : Type} {key : α → κ} {t : List α} {u v : Update key} {us : List (Update key)}
  {x : α} {k : κ} {i : Nat}

theorem Update.key_none (u : Update key) : key (u.entry none) = u.target :=
  u.key_entry _ (by simp)

theorem Update.key_some (h : key x = u.target) : key (u.entry (some x)) = u.target :=
  u.key_entry _ (by simpa using h)

variable [DecidableEq κ]

def Update.put (u : Update key) : List α → List α
  | [] => [u.entry none]
  | x :: t => if key x = u.target then u.entry (some x) :: t else x :: u.put t

def puts (us : List (Update key)) (t : List α) : List α := us.foldl (fun t u => u.put t) t

/-- What some updates leave at a key. -/
def entryAt (us : List (Update key)) (k : κ) (o : Option α) : Option α :=
  us.foldl (fun o u => if u.target = k then some (u.entry o) else o) o

namespace Update

theorem put_here (h : key x = u.target) (t : List α) : u.put (x :: t) = u.entry (some x) :: t :=
  if_pos h

theorem put_there (h : key x ≠ u.target) (t : List α) : u.put (x :: t) = x :: u.put t :=
  if_neg h

theorem keys_put (u : Update key) (t : List α) :
    (u.put t).map key = if u.target ∈ t.map key then t.map key else t.map key ++ [u.target] := by
  induction t with
  | nil => simp [put, u.key_none]
  | cons x t ih =>
    by_cases hx : key x = u.target
    · simp [put_here hx, hx, key_some hx]
    · by_cases ht : u.target ∈ t.map key <;> simp_all [put_there hx, Ne.symm hx]

theorem nodup_put (h : (t.map key).Nodup) : ((u.put t).map key).Nodup := by
  rw [u.keys_put]
  by_cases ht : u.target ∈ t.map key
  · rwa [if_pos ht]
  · rw [if_neg ht, List.nodup_append]
    refine ⟨h, by simp, ?_⟩
    rintro k hk l hl rfl
    obtain rfl := List.mem_singleton.mp hl
    exact ht hk

/-- The first entry of the key is afterwards the one that the update makes. -/
theorem find_put (u : Update key) (t : List α) :
    (u.put t).find? (key · = u.target) = some (u.entry (t.find? (key · = u.target))) := by
  induction t with
  | nil => simp [put, u.key_none]
  | cons x t ih =>
    by_cases hx : key x = u.target
    · simp [put_here hx, hx, key_some hx]
    · simp [put_there hx, hx, ih]

theorem find_put_other (h : k ≠ u.target) (t : List α) :
    (u.put t).find? (key · = k) = t.find? (key · = k) := by
  induction t with
  | nil => simp [put, u.key_none, h.symm]
  | cons x t ih =>
    by_cases hx : key x = u.target
    · simp [put_here hx, hx, key_some hx, h.symm]
    · rw [put_there hx, List.find?_cons, List.find?_cons, ih]

theorem put_eq_self (hx : t.find? (key · = u.target) = some x) (he : u.entry (some x) = x) :
    u.put t = t := by
  induction t with
  | nil => simp at hx
  | cons y t ih =>
    by_cases hy : key y = u.target
    · obtain rfl : y = x := by simpa [hy] using hx
      rw [put_here hy, he]
    · rw [put_there hy, ih (by simpa [hy] using hx)]

/-- Updates of two keys can be made in either order unless both are new. -/
theorem put_comm_iff (h : u.target ≠ v.target) (t : List α) :
    u.put (v.put t) = v.put (u.put t) ↔ u.target ∈ t.map key ∨ v.target ∈ t.map key := by
  constructor
  · intro he
    by_contra hn
    rw [not_or] at hn
    have hk := congrArg (List.map key) he
    simp only [keys_put, hn, h, h.symm, List.mem_append, List.mem_singleton, or_self, if_false,
      List.append_assoc] at hk
    exact h.symm (List.cons.inj (List.append_cancel_left hk)).1
  · intro ht
    induction t with
    | nil => simp at ht
    | cons x t ih =>
      by_cases hu : key x = u.target
      · have hv : key x ≠ v.target := hu ▸ h
        have he : key (u.entry (some x)) ≠ v.target := key_some hu ▸ h
        rw [put_here hu, put_there hv, put_there he, put_here hu]
      · by_cases hv : key x = v.target
        · have he : key (v.entry (some x)) ≠ u.target := key_some hv ▸ h.symm
          rw [put_here hv, put_there hu, put_there he, put_here hv]
        · have hi := ih (by simpa [Ne.symm hu, Ne.symm hv] using ht)
          rw [put_there hu, put_there hv, put_there hu, put_there hv, hi]

end Update

theorem nodup_puts (h : (t.map key).Nodup) : ((puts us t).map key).Nodup := by
  induction us generalizing t with
  | nil => exact h
  | cons u us ih => exact ih (u.nodup_put h)

theorem entryAt_cons (u : Update key) (us : List (Update key)) (k : κ) (o : Option α) :
    entryAt (u :: us) k o = entryAt us k (if u.target = k then some (u.entry o) else o) := rfl

theorem find_puts (us : List (Update key)) (t : List α) (k : κ) :
    (puts us t).find? (key · = k) = entryAt us k (t.find? (key · = k)) := by
  induction us generalizing t with
  | nil => rfl
  | cons u us ih =>
    have hi := ih (u.put t)
    rw [entryAt_cons]
    by_cases hu : u.target = k
    · subst hu
      rw [if_pos rfl]
      rwa [u.find_put] at hi
    · rw [if_neg hu]
      rwa [Update.find_put_other (Ne.symm hu)] at hi

/-- Updates of other keys do not count. -/
theorem entryAt_filter {p : κ → Prop} [DecidablePred p] (h : p k) (us : List (Update key))
    (o : Option α) : entryAt (us.filter fun u => p u.target) k o = entryAt us k o := by
  induction us generalizing o with
  | nil => rfl
  | cons u us ih =>
    rw [entryAt_cons]
    by_cases hp : p u.target
    · rw [List.filter_cons_of_pos (by simpa using hp), entryAt_cons, ih]
    · have hu : u.target ≠ k := fun hu => hp (hu ▸ h)
      rw [List.filter_cons_of_neg (by simpa using hp), if_neg hu, ih]

theorem entryAt_of_ne (h : ∀ u ∈ us, u.target ≠ k) (o : Option α) : entryAt us k o = o := by
  induction us with
  | nil => rfl
  | cons u us ih =>
    obtain ⟨hu, hus⟩ := List.forall_mem_cons.mp h
    rw [entryAt_cons, if_neg hu, ih hus]

/-- The first entry gets the updates of its key, and the others go to the rest of the table. -/
theorem puts_cons (us : List (Update key)) (h : key x = k) (t : List α) :
    ∃ y, entryAt us k (some x) = some y ∧
      puts us (x :: t) = y :: puts (us.filter fun u => u.target ≠ k) t := by
  induction us generalizing x t with
  | nil => exact ⟨x, rfl, rfl⟩
  | cons u us ih =>
    rw [entryAt_cons, puts, List.foldl_cons, ← puts]
    by_cases hu : u.target = k
    · have hx : key x = u.target := h.trans hu.symm
      rw [if_pos hu, List.filter_cons_of_neg (by simpa using hu), Update.put_here hx]
      exact ih ((Update.key_some hx).trans hu) t
    · have hx : key x ≠ u.target := fun hx => hu (hx.symm.trans h)
      rw [if_neg hu, List.filter_cons_of_pos (by simpa using hu), Update.put_there hx]
      exact ih h (u.put t)

/-- The first entry of a key has got the updates of the key, and every other one is as it was. -/
theorem getElem?_puts (us : List (Update key)) (h : t[i]? = some x) :
    (puts us t)[i]? =
      if key x ∈ (t.take i).map key then some x else entryAt us (key x) (some x) := by
  induction t generalizing us i with
  | nil => simp at h
  | cons y t ih =>
    obtain ⟨z, hz, hp⟩ := puts_cons us rfl t
    rw [hp]
    cases i with
    | zero =>
      obtain rfl : y = x := by simpa using h
      simp [hz]
    | succ i =>
      rw [List.getElem?_cons_succ, ih _ (by simpa using h)]
      by_cases hy : key x = key y
      · have hn : entryAt (us.filter fun u => u.target ≠ key y) (key x) (some x) = some x :=
          entryAt_of_ne (by simp [hy]) _
        rw [hn, ite_self]
        simp [hy]
      · rw [entryAt_filter (p := fun l => l ≠ key y) hy]
        simp [hy]

/-- Behind the entries that were there stand those that the updates of new keys make of nothing. -/
theorem drop_puts (us : List (Update key)) (t : List α) :
    (puts us t).drop t.length = puts (us.filter fun u => u.target ∉ t.map key) [] := by
  induction t generalizing us with
  | nil => simp
  | cons x t ih =>
    obtain ⟨y, -, hp⟩ := puts_cons us rfl t
    rw [hp, List.length_cons, List.drop_succ_cons, ih, List.filter_filter]
    refine congrArg (puts · []) (List.filter_congr fun u _ => ?_)
    by_cases hu : u.target = key x <;> simp [hu]

/-- From an empty table, there is an entry for each key, in the order of their first updates. -/
theorem puts_nil (us : List (Update key)) :
    (puts us []).map some = (us.map (·.target)).eraseDups.map fun k => entryAt us k none := by
  -- All updates of the first key go into the first entry, so what is left is shorter, but need not
  -- be the rest of the list.
  induction hn : us.length using Nat.strongRecOn generalizing us with
  | ind n ih =>
    cases us with
    | nil => rfl
    | cons u us =>
      obtain ⟨y, hy, hp⟩ := puts_cons us u.key_none []
      have hl : (us.filter fun v => v.target ≠ u.target).length < n := by
        have := List.length_filter_le (fun v : Update key => decide (v.target ≠ u.target)) us
        simp at hn
        omega
      have hi := ih _ hl (us.filter fun v => v.target ≠ u.target) rfl
      have hm : (us.filter fun v => v.target ≠ u.target).map (·.target) =
          (us.map (·.target)).filter fun k => !k == u.target := by
        simp [List.filter_map, Function.comp_def, Bool.beq_eq_decide_eq]
      have hc : puts (u :: us) [] = puts us [u.entry none] := rfl
      rw [hc, hp, List.map_cons, List.map_cons, List.eraseDups_cons, List.map_cons, hi, hm,
        entryAt_cons, if_pos rfl, hy]
      refine congrArg _ (List.map_congr_left fun k hk => ?_)
      have hk : k ≠ u.target := by simpa using (List.mem_filter.mp (List.mem_eraseDups.mp hk)).2
      rw [entryAt_filter (p := fun k => k ≠ u.target) hk, entryAt_cons, if_neg (Ne.symm hk)]

/-- Behind the entries that were there stands one for each new key, in the order of their first
updates. -/
theorem added_puts (us : List (Update key)) (t : List α) :
    ((puts us t).drop t.length).map some =
      ((us.map (·.target)).filter (· ∉ t.map key)).eraseDups.map fun k => entryAt us k none := by
  rw [drop_puts, puts_nil, List.filter_map]
  refine List.map_congr_left fun k hk => ?_
  obtain ⟨u, hu, rfl⟩ := List.mem_map.mp (List.mem_eraseDups.mp hk)
  have hn := of_decide_eq_true (List.mem_filter.mp hu).2
  exact entryAt_filter (p := fun k => k ∉ t.map key) hn us none

end NodeConsole.Table
