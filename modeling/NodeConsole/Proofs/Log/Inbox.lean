import NodeConsole.Node

/-! What waits for one listener after each operation on the log. -/
namespace NodeConsole.Log.Buffer

variable {b : Buffer} {r : Record} {id j : Nat} {g : List Record → List Record} {q : List Record}

theorem find_map (g : Listener → Listener) (hg : ∀ l, (g l).id = l.id) (ls : List Listener) :
    (ls.map g).find? (·.id = id) = (ls.find? (·.id = id)).map g := by
  induction ls with
  | nil => rfl
  | cons l ls ih =>
    by_cases hl : l.id = id
    · simp [hg, hl]
    · simp [hg, hl, ih]

theorem inbox_push : (b.push r).inbox? id = (b.inbox? id).map (· ++ [r]) := by
  simp only [inbox?, listener?, push]
  rw [find_map (Listener.receive r) fun _ => rfl, Option.map_map, Option.map_map]
  rfl

theorem inbox_alter :
    (b.alter j g).inbox? id = if id = j then (b.inbox? id).map g else b.inbox? id := by
  simp only [inbox?, listener?, alter]
  rw [find_map (Listener.alter j g) (Listener.id_alter j g), Option.map_map]
  cases hf : b.listeners.find? (·.id = id) with
  | none => simp
  | some l =>
    have hl : l.id = id := by simpa using List.find?_some hf
    by_cases hi : id = j <;> simp [Listener.alter, hl, hi]

theorem inbox_reach_self (h : b.inbox? id = some q) :
    (b.reach id r).inbox? id = some (q ++ [r]) := by
  simp [reach, inbox_alter, h]

theorem inbox_reach_other (h : id ≠ j) : (b.reach j r).inbox? id = b.inbox? id := by
  simp [reach, inbox_alter, h]

theorem inbox_take_self (h : b.inbox? id = some q) : (b.take id).2.inbox? id = some [] := by
  simp [take, inbox_alter, h]

theorem inbox_take_other (h : id ≠ j) : (b.take j).2.inbox? id = b.inbox? id := by
  simp [take, inbox_alter, h]

theorem inbox_unlisten_other (h : id ≠ j) : (b.unlisten j).2.inbox? id = b.inbox? id := by
  have hp (l : Listener) : (l.id ≠ j ∧ l.id = id) ↔ l.id = id :=
    ⟨fun hl => hl.2, fun hl => ⟨hl ▸ h, hl⟩⟩
  simp only [inbox?, listener?, unlisten, List.find?_filter, decide_eq_true_eq, hp]

/-- Who has an inbox is on the list, and was given its number before. -/
theorem mem_of_inbox (h : b.inbox? id = some q) : id ∈ b.listeners.map (·.id) := by
  obtain ⟨l, hl, -⟩ := Option.map_eq_some_iff.mp h
  have hi : l.id = id := by simpa using List.find?_some hl
  exact List.mem_map.mpr ⟨l, List.mem_of_find?_eq_some hl, hi⟩

theorem lt_nextId (h : id ∈ b.listeners.map (·.id)) : id < b.nextId :=
  (List.pairwise_append.mp b.ascending).2.2 id h b.nextId (List.mem_singleton_self _)

theorem nodup_ids : (b.listeners.map (·.id)).Nodup :=
  (List.pairwise_append.mp b.ascending).1.imp Nat.ne_of_lt

theorem inbox_listen_self : b.listen.2.inbox? b.nextId = some [] := by
  have hn : b.listeners.find? (·.id = b.nextId) = none := by
    rw [List.find?_eq_none]
    intro l hl
    have hlt : l.id < b.nextId := lt_nextId (List.mem_map_of_mem hl)
    simp [Nat.ne_of_lt hlt]
  simp only [inbox?, listener?, listen, List.find?_append, hn]
  simp

theorem inbox_listen_other (h : b.inbox? id = some q) : b.listen.2.inbox? id = some q := by
  obtain ⟨l, hl, hq⟩ := Option.map_eq_some_iff.mp h
  have hl : b.listeners.find? (·.id = id) = some l := hl
  simp [inbox?, listener?, listen, List.find?_append, hl, hq]

theorem inbox_listen_ne (h : id ≠ b.nextId) : b.listen.2.inbox? id = b.inbox? id := by
  simp [inbox?, listener?, listen, List.find?_append, h.symm]

theorem inbox_unlisten_self : (b.unlisten id).2.inbox? id = none := by
  simp only [inbox?, listener?, unlisten, Option.map_eq_none_iff, List.find?_eq_none]
  intro l hl
  simpa using (List.mem_filter.mp hl).2

theorem inbox_eq_none_iff : b.inbox? id = none ↔ id ∉ b.listeners.map (·.id) := by
  simp [inbox?, listener?, List.find?_eq_none]

/-- A listener that is on the table is there once. -/
theorem map_id_unlisten (b : Buffer) (id : Nat) :
    (b.unlisten id).2.listeners.map (·.id) = (b.listeners.map (·.id)).erase id := by
  rw [b.nodup_ids.erase_eq_filter, List.filter_map]
  congr 1
  apply List.filter_congr
  intro l _
  rw [Bool.eq_iff_iff]
  simp

theorem length_unlisten (b : Buffer) (id : Nat) :
    (b.unlisten id).2.listeners.length + (if (b.inbox? id).isSome then 1 else 0) =
      b.listeners.length := by
  have hl := congrArg List.length (b.map_id_unlisten id)
  rw [List.length_map] at hl
  rw [hl]
  by_cases hi : id ∈ b.listeners.map (·.id)
  · have hs : (b.inbox? id).isSome := by
      rw [Option.isSome_iff_ne_none]
      exact fun hn => inbox_eq_none_iff.mp hn hi
    rw [if_pos hs, List.length_erase_of_mem hi, List.length_map]
    have := List.length_pos_of_mem hi
    rw [List.length_map] at this
    omega
  · have hs : ¬ (b.inbox? id).isSome := by
      rw [inbox_eq_none_iff.mpr hi]
      simp
    rw [if_neg hs, List.erase_of_not_mem hi, List.length_map]
    rfl

/-- Whoever leaves after it has taken all finds nothing more, and leaves the log as it would have. -/
theorem unlisten_take (b : Buffer) (id : Nat) :
    (((b.take id).2.unlisten id).1.getD [] = []) ∧
      ((b.take id).2.unlisten id).2 = (b.unlisten id).2 := by
  refine ⟨?_, ?_⟩
  · rw [unlisten, take, inbox_alter, if_pos rfl]
    cases b.inbox? id <;> rfl
  · have hf : (b.listeners.map (Listener.alter id fun _ => [])).filter (·.id ≠ id) =
        b.listeners.filter (·.id ≠ id) := by
      induction b.listeners with
      | nil => rfl
      | cons l ls ih =>
        by_cases hl : l.id = id
        · simpa [Listener.alter, hl] using ih
        · simpa [Listener.alter, hl] using ih
    simp only [unlisten, take, alter, mk.injEq]
    exact ⟨trivial, trivial, hf, trivial⟩

/-- Called with a record, every listener meant gets it once. -/
theorem listeners_reachAll {ids : List Nat} (hn : ids.Nodup) (b : Buffer) :
    (ids.foldl (fun b id => b.reach id r) b).listeners =
      b.listeners.map fun l => if l.id ∈ ids then Listener.receive r l else l := by
  induction ids generalizing b with
  | nil => simp
  | cons id ids ih =>
    obtain ⟨hi, hn⟩ := List.nodup_cons.mp hn
    rw [List.foldl_cons, ih hn, reach, alter, List.map_map]
    refine List.map_congr_left fun l _ => ?_
    by_cases hl : l.id = id
    · simp [Listener.alter, Listener.receive, hl, hi]
    · simp [Listener.alter, hl]

theorem reachAll_frame (ids : List Nat) (b : Buffer) :
    (ids.foldl (fun b id => b.reach id r) b).capacity = b.capacity ∧
      (ids.foldl (fun b id => b.reach id r) b).records = b.records ∧
      (ids.foldl (fun b id => b.reach id r) b).nextId = b.nextId := by
  induction ids generalizing b with
  | nil => exact ⟨rfl, rfl, rfl⟩
  | cons id ids ih => exact ih (b.reach id r)

/-- A push that nothing comes between is a push. -/
theorem reachAll_store :
    (b.listeners.map (·.id)).foldl (fun b id => b.reach id r) (b.store r) = b.push r := by
  have hl := listeners_reachAll (r := r) b.nodup_ids (b.store r)
  have hm : (b.store r).listeners.map
      (fun l => if l.id ∈ b.listeners.map (·.id) then Listener.receive r l else l) =
      b.listeners.map (Listener.receive r) :=
    List.map_congr_left fun l h => if_pos (List.mem_map_of_mem h)
  obtain ⟨hc, hr, hi⟩ := reachAll_frame (r := r) (b.listeners.map (·.id)) (b.store r)
  cases he : (b.listeners.map (·.id)).foldl (fun b id => b.reach id r) (b.store r) with
  | mk capacity records listeners nextId ascending =>
    rw [he] at hl hc hr hi
    simp only [push, mk.injEq]
    exact ⟨hc, hr, hl.trans hm, hi⟩

end NodeConsole.Log.Buffer
