import NodeConsole.Channel
import NodeConsole.Proofs.Tables.Updates

/-! The channels of a node after any upserts. -/
namespace NodeConsole.ChannelTable
open Table

variable {t : ChannelTable} {c d : Channel} {cs : List Channel} {i : Nat}

/-- The channels after some upserts. -/
def upserts (t : ChannelTable) (cs : List Channel) : ChannelTable :=
  cs.foldl (fun t c => t.upsert c) t

/-- The last of some channels with an identifier. -/
def last? (cs : List Channel) (id : PeerId) : Option Channel := cs.reverse.find? (·.id = id)

def upserting (c : Channel) : Update Channel.id where
  target := c.id
  entry _ := c
  key_entry _ _ := rfl

theorem upsert_eq (c : Channel) (t : ChannelTable) : t.upsert c = (upserting c).put t := by
  induction t with
  | nil => rfl
  | cons d t ih =>
    rw [upsert, ih]
    rfl

theorem upserts_eq (t : ChannelTable) (cs : List Channel) :
    upserts t cs = puts (cs.map upserting) t := by
  simp [upserts, puts, upsert_eq, List.foldl_map]

theorem last_cons (c : Channel) (cs : List Channel) (id : PeerId) :
    last? (c :: cs) id = (last? cs id).or (if c.id = id then some c else none) := by
  rw [last?, List.reverse_cons, List.find?_append]
  by_cases hc : c.id = id <;> simp [last?, hc]

theorem entryAt_upserting (cs : List Channel) (id : PeerId) (o : Option Channel) :
    entryAt (cs.map upserting) id o = (last? cs id).or o := by
  induction cs generalizing o with
  | nil => rfl
  | cons c cs ih =>
    rw [List.map_cons, entryAt_cons, ih, last_cons, Option.or_assoc]
    by_cases hc : c.id = id
    · rw [if_pos (show (upserting c).target = id from hc), if_pos hc]
      rfl
    · rw [if_neg (show (upserting c).target ≠ id from hc), if_neg hc]
      rfl

/-- After upserts the entries stand in their places, each with the last channel of its identifier,
and the new ones behind them. -/
theorem upserts_made (t : ChannelTable) (cs : List Channel) :
    (∀ i d, t[i]? = some d → (upserts t cs)[i]? =
        if d.id ∈ (t.take i).map (·.id) then some d else (last? cs d.id).or (some d)) ∧
      ((upserts t cs).drop t.length).map some =
        ((cs.map (·.id)).filter (· ∉ t.map (·.id))).eraseDups.map (last? cs) ∧
      ((t.map (·.id)).Nodup → ((upserts t cs).map (·.id)).Nodup) ∧
      (∀ c, (t.upsert c).upsert c = t.upsert c) ∧
      ∀ c d : Channel, c.id ≠ d.id →
        ((t.upsert c).upsert d = (t.upsert d).upsert c ↔
          c.id ∈ t.map (·.id) ∨ d.id ∈ t.map (·.id)) := by
  refine ⟨?_, ?_, ?_, ?_, ?_⟩
  · intro i d hd
    rw [upserts_eq, getElem?_puts _ hd, entryAt_upserting]
  · have ht : (cs.map upserting).map (·.target) = cs.map (·.id) := List.map_map
    rw [upserts_eq, added_puts, ht]
    simp [entryAt_upserting]
  · intro h
    rw [upserts_eq]
    exact nodup_puts h
  · intro c
    rw [upsert_eq, upsert_eq]
    exact Update.put_eq_self ((upserting c).find_put t) rfl
  · intro c d h
    simp only [upsert_eq]
    rw [eq_comm]
    exact Update.put_comm_iff (u := upserting c) (v := upserting d) h t

/-- An identifier that stands twice, and a new one that is upserted twice. -/
theorem upserts_made_twice :
    let a : PeerId := .zero
    let b : PeerId := ⟨List.replicate 16 1, rfl⟩
    let t : ChannelTable := [⟨"x", a, .idle⟩, ⟨"y", a, .wait⟩]
    let cs : List Channel := [⟨"p", b, .idle⟩, ⟨"q", a, .search⟩, ⟨"r", b, .receive⟩]
    (upserts t cs)[0]? = some ⟨"q", a, .search⟩ ∧ (upserts t cs)[1]? = some ⟨"y", a, .wait⟩ ∧
      ((upserts t cs).drop 2).map some = [some ⟨"r", b, .receive⟩] := by
  intro a b t cs
  obtain ⟨hk, ha, -⟩ := upserts_made t cs
  exact ⟨(hk 0 _ rfl).trans (by decide), (hk 1 _ rfl).trans (by decide), ha.trans (by decide)⟩

end NodeConsole.ChannelTable
