import NodeConsole.Proofs.Log.Hearing
import Mathlib.Data.List.Perm.Basic

/-! Runs of a log with its followers, and what they preserve. -/
namespace NodeConsole.Log

variable {ps : List Pushing} {h : Hearing} {r : Record} {ids : List Nat} {i k id : Nat}
  {a : Follower.Act}

theorem split_at {α : Type} {ps : List α} {p : α} (hk : ps[k]? = some p) :
    ∃ before behind, ps = before ++ p :: behind ∧
      (∀ q, ps.set k q = before ++ q :: behind) ∧ ps.eraseIdx k = before ++ behind := by
  obtain ⟨hlt, rfl⟩ := List.getElem?_eq_some_iff.mp hk
  refine ⟨ps.take k, ps.drop (k + 1), by simp, ?_, List.eraseIdx_eq_take_drop_succ ps k⟩
  intro q
  rw [List.set_eq_take_append_cons_drop, if_pos hlt]

namespace Hearing

/-- What the pushes under way have still to bring to the listener. -/
def owed (ps : List Pushing) (h : Hearing) : List Record :=
  (ps.filter fun p => h.on.any fun id => id ∈ p.ahead).map (·.record)

/-- Every record that was pushed has been delivered or still will be. -/
def Settles (ps : List Pushing) (h : Hearing) : Prop := h.pushed.Perm (h.delivered ++ h.owed ps)

theorem owed_append (qs : List Pushing) : h.owed (ps ++ qs) = h.owed ps ++ h.owed qs := by
  simp [owed]

theorem owed_cons_of_mem (hon : h.on = some id) (hi : id ∈ ids) :
    h.owed (⟨r, ids⟩ :: ps) = r :: h.owed ps := by
  simp [owed, hon, hi]

theorem owed_cons_of_not_mem (hon : ∀ id, h.on = some id → id ∉ ids) :
    h.owed (⟨r, ids⟩ :: ps) = h.owed ps := by
  cases ho : h.on with
  | none => simp [owed, ho]
  | some id => simp [owed, ho, hon id ho]

theorem owed_of_silent (hon : h.on = none) : h.owed ps = [] := by
  simp [owed, hon]

theorem settles_push (hs : h.Settles ps) (hin : ∀ id, h.on = some id → id ∈ ids) :
    (h.after i (.push r)).Settles (ps ++ [⟨r, ids⟩]) := by
  cases ho : h.on with
  | none =>
    have ha : h.after i (.push r) = h := by simp [after, ho]
    rw [ha, Settles, owed_of_silent ho, ← owed_of_silent ho]
    exact hs
  | some id =>
    have ha : h.after i (.push r) = { h with pushed := h.pushed ++ [r] } := by simp [after, ho]
    have hr : h.owed [⟨r, ids⟩] = [r] := owed_cons_of_mem ho (hin id ho)
    rw [ha, Settles]
    change (h.pushed ++ [r]).Perm (h.delivered ++ h.owed (ps ++ [⟨r, ids⟩]))
    rw [owed_append, hr, ← List.append_assoc]
    exact hs.append_right [r]

theorem settles_call (hs : h.Settles ps) (hk : ps[k]? = some ⟨r, id :: ids⟩)
    (hn : (id :: ids).Nodup) :
    (h.after i (.call id r)).Settles (ps.set k ⟨r, ids⟩) := by
  obtain ⟨before, behind, hps, hset, -⟩ := split_at hk
  rw [Settles, hps, owed_append] at hs
  rw [Settles, hset, owed_append]
  by_cases ho : h.on = some id
  · have ha : h.after i (.call id r) = { h with delivered := h.delivered ++ [r] } := if_pos ho
    have hni : ∀ j, h.on = some j → j ∉ ids := by
      intro j hj
      obtain rfl : id = j := Option.some.inj (ho.symm.trans hj)
      exact (List.nodup_cons.mp hn).1
    rw [owed_cons_of_mem ho List.mem_cons_self] at hs
    rw [ha]
    change h.pushed.Perm (h.delivered ++ [r] ++ (h.owed before ++ h.owed (⟨r, ids⟩ :: behind)))
    rw [owed_cons_of_not_mem hni, List.append_assoc]
    exact hs.trans ((List.perm_middle).append_left h.delivered)
  · have ha : h.after i (.call id r) = h := if_neg ho
    have he : h.owed (⟨r, ids⟩ :: behind) = h.owed (⟨r, id :: ids⟩ :: behind) := by
      cases hon : h.on with
      | none => rw [owed_of_silent hon, owed_of_silent hon]
      | some j =>
        have hj : j ≠ id := by
          rintro rfl
          exact ho hon
        simp only [owed, hon, Option.any_some, List.filter_cons, List.mem_cons, hj, false_or]
        split <;> rfl
    rw [ha, he]
    exact hs

theorem settles_done (hs : h.Settles ps) (hk : ps[k]? = some ⟨r, []⟩) :
    h.Settles (ps.eraseIdx k) := by
  obtain ⟨before, behind, hps, -, herase⟩ := split_at hk
  rw [Settles, hps, owed_append, owed_cons_of_not_mem fun _ _ => List.not_mem_nil] at hs
  rw [Settles, herase, owed_append]
  exact hs

theorem settles_act (hs : h.Settles ps) (hx : a.exclusive → ps = []) : (h.act a).Settles ps := by
  cases he : a.exclusive with
  | false => rwa [act_of_shared he]
  | true =>
    obtain rfl := hx he
    have hd := delivered_act (a := a) (h := h)
    have hp := pushed_act (a := a) (h := h)
    rw [Settles, hd, hp]
    exact hs

end Hearing

namespace Following

variable {s t : Following} {e : Event} {es : List Event} {f g u : Follower}

/-- No follower has begun, and no push is under way. -/
structure Fresh (s : Following) : Prop where
  outside : ∀ f ∈ s.followers, f = { format := f.format, kind := f.kind }
  quiet : s.pushing = []

structure Tracked (s : Following) (es : List Event) : Prop where
  keeps : ∀ {i : Nat} {f : Follower}, s.followers[i]? = some f → Keeps s.buffer f (.of i es)
  apart : ∀ {i j : Nat} {f g : Follower}, s.followers[i]? = some f → s.followers[j]? = some g →
    f.stage.listening → g.stage.listening → f.listener = g.listener → i = j
  settles : ∀ {i : Nat} {f : Follower}, s.followers[i]? = some f →
    (Hearing.of i es).Settles s.pushing
  ahead_nodup : ∀ p ∈ s.pushing, p.ahead.Nodup

theorem tracked_fresh (h : s.Fresh) : Tracked s [] := by
  have hf {i : Nat} {f : Follower} (hi : s.followers[i]? = some f) :
      f = { format := f.format, kind := f.kind } := h.outside f (List.mem_of_getElem? hi)
  refine ⟨?_, ?_, ?_, ?_⟩
  · intro i f hi
    rw [hf hi]
    exact ⟨rfl, fun hl => absurd hl Bool.false_ne_true, fun _ _ => rfl, rfl⟩
  · intro i j f g hi _ hl
    rw [hf hi] at hl
    exact absurd hl Bool.false_ne_true
  · intro i f _
    rw [h.quiet]
    exact List.Perm.refl _
  · simp [h.quiet]

/-- Whoever is on the log when a push begins will be called. -/
theorem mem_ids_of_on (hk : Keeps s.buffer f h) (hon : h.on = some id) :
    id ∈ s.buffer.listeners.map (·.id) := by
  have hl : f.stage.listening ∧ f.listener = id := by simpa [hk.on_eq] using hon
  obtain ⟨q, hq⟩ := hk.listed hl.1
  exact hl.2 ▸ Buffer.mem_of_inbox hq

theorem tracked_push (ht : Tracked s es) (r : Record) :
    Tracked
      { s with
        buffer := s.buffer.store r
        pushing := s.pushing ++ [⟨r, s.buffer.listeners.map (·.id)⟩] }
      (es ++ [.push r]) := by
  refine ⟨?_, ht.apart, ?_, ?_⟩
  · intro i f hi
    rw [Hearing.of_snoc]
    exact (ht.keeps hi).push i
  · intro i f hi
    rw [Hearing.of_snoc]
    exact Hearing.settles_push (ht.settles hi) fun id => mem_ids_of_on (ht.keeps hi)
  · intro p hp
    rcases List.mem_append.mp hp with hp | hp
    · exact ht.ahead_nodup p hp
    · rw [List.mem_singleton.mp hp]
      exact Buffer.nodup_ids

theorem tracked_call (ht : Tracked s es) (hk : s.pushing[k]? = some ⟨r, id :: ids⟩) :
    Tracked { s with buffer := s.buffer.reach id r, pushing := s.pushing.set k ⟨r, ids⟩ }
      (es ++ [.call id r]) := by
  have hn : (id :: ids).Nodup := ht.ahead_nodup _ (List.mem_of_getElem? hk)
  refine ⟨?_, ht.apart, ?_, ?_⟩
  · intro i f hi
    rw [Hearing.of_snoc]
    exact (ht.keeps hi).call i
  · intro i f hi
    rw [Hearing.of_snoc]
    exact Hearing.settles_call (ht.settles hi) hk hn
  · intro p hp
    rcases List.mem_or_eq_of_mem_set hp with hp | rfl
    · exact ht.ahead_nodup p hp
    · exact (List.nodup_cons.mp hn).2

theorem tracked_done (ht : Tracked s es) (hk : s.pushing[k]? = some ⟨r, []⟩) :
    Tracked { s with pushing := s.pushing.eraseIdx k } (es ++ [.done]) := by
  refine ⟨?_, ht.apart, ?_, ?_⟩
  · intro i f hi
    rw [Hearing.of_snoc]
    exact ht.keeps hi
  · intro i f hi
    rw [Hearing.of_snoc]
    exact Hearing.settles_done (ht.settles hi) hk
  · intro p hp
    exact ht.ahead_nodup p (List.mem_of_mem_eraseIdx hp)

theorem get_set {i j : Nat} (hi : s.followers[i]? = some f)
    (hj : (s.followers.set i g)[j]? = some u) :
    j = i ∧ u = g ∨ j ≠ i ∧ s.followers[j]? = some u := by
  by_cases he : j = i
  · subst he
    have hlt := (List.getElem?_eq_some_iff.mp hi).1
    rw [List.getElem?_set_self hlt] at hj
    exact .inl ⟨rfl, (Option.some.inj hj).symm⟩
  · rw [List.getElem?_set_ne (Ne.symm he)] at hj
    exact .inr ⟨he, hj⟩

/-- A follower's listener is not one that someone else has. -/
theorem listener_ne {i j : Nat} {b : Buffer} (ht : Tracked s es) (hi : s.followers[i]? = some f)
    (h : Follower.Step s.buffer f a b g) (hne : j ≠ i) (hj : s.followers[j]? = some u)
    (hu : u.stage.listening) (hg : g.stage.listening) : u.listener ≠ g.listener := by
  intro he
  rcases Follower.listener_step h hg with ⟨hf, hfg⟩ | hn
  · exact hne (ht.apart hj hi hu hf (he.trans hfg))
  · obtain ⟨q, hq⟩ := (ht.keeps hj).listed hu
    have hlt : u.listener < s.buffer.nextId := Buffer.lt_nextId (Buffer.mem_of_inbox hq)
    omega

theorem tracked_move {i : Nat} {b : Buffer} (ht : Tracked s es) (hi : s.followers[i]? = some f)
    (h : Follower.Step s.buffer f a b g) (hx : a.exclusive → s.pushing = []) :
    Tracked { s with buffer := b, followers := s.followers.set i g } (es ++ [.move i a]) := by
  refine ⟨?_, ?_, ?_, ht.ahead_nodup⟩
  · intro j u hj
    rw [Hearing.of_snoc]
    rcases get_set hi hj with ⟨rfl, rfl⟩ | ⟨hne, hj⟩
    · rw [Hearing.after_self]
      exact (ht.keeps hi).step h
    · rw [Hearing.after_other (Ne.symm hne)]
      apply (ht.keeps hj).congr
      intro q hl hq
      apply Follower.inbox_step h hq
      intro hf he
      exact hne (ht.apart hj hi hl hf he)
  · intro j k u v hj hk hl hm he
    rcases get_set hi hj with ⟨rfl, rfl⟩ | ⟨hne, hj'⟩ <;>
      rcases get_set hi hk with ⟨rfl, rfl⟩ | ⟨hne', hk'⟩
    · rfl
    · exact absurd he.symm (listener_ne ht hi h hne' hk' hm hl)
    · exact absurd he (listener_ne ht hi h hne hj' hl hm)
    · exact ht.apart hj' hk' hl hm he
  · intro j u hj
    rw [Hearing.of_snoc]
    rcases get_set hi hj with ⟨rfl, -⟩ | ⟨hne, hj⟩
    · rw [Hearing.after_self]
      exact Hearing.settles_act (ht.settles hi) hx
    · rw [Hearing.after_other (Ne.symm hne)]
      exact ht.settles hj

theorem tracked_step (ht : Tracked s es) (h : Step s e t) : Tracked t (es ++ [e]) := by
  cases h with
  | push r => exact tracked_push ht r
  | call hk => exact tracked_call ht hk
  | done hk => exact tracked_done ht hk
  | move hi h hx => exact tracked_move ht hi h hx

theorem tracked_trace (hs : s.Fresh) (h : Trace s es t) : Tracked t es := by
  induction h with
  | refl => exact tracked_fresh hs
  | snoc _ h ih => exact tracked_step ih h

end Following
end NodeConsole.Log
