import NodeConsole.Log.Subscription
import NodeConsole.Proofs.Log.Trace

/-! What followers ask of a log, and who is on it. -/
namespace NodeConsole.Log

variable {b c : Buffer} {f g : Follower} {a : Follower.Act} {d : Dealings} {i j id : Nat}
  {es : List Following.Event} {e : Following.Event}

namespace Buffer

/-- Who is on the log. -/
def ids (b : Buffer) : List Nat := b.listeners.map (·.id)

/-- Listeners come in ascending order, so who is there says in which order they are. -/
theorem ids_eq_of_perm (h : b.ids.Perm c.ids) : b.ids = c.ids := by
  have hs (b : Buffer) : b.ids.Pairwise (· < ·) := (List.pairwise_append.mp b.ascending).1
  exact h.eq_of_pairwise (fun _ _ _ _ hi hj => absurd hi (Nat.lt_asymm hj)) (hs b) (hs c)

theorem ids_alter (b : Buffer) (g : List Record → List Record) : (b.alter id g).ids = b.ids := by
  simp [ids, alter, Listener.id_alter]

theorem ids_listen (b : Buffer) : b.listen.2.ids = b.ids ++ [b.nextId] := by
  simp [ids, listen]

theorem ids_unlisten (b : Buffer) (id : Nat) : (b.unlisten id).2.ids = b.ids.erase id :=
  b.map_id_unlisten id

/-- Whoever leaves was there once. -/
theorem ids_unlisten_perm (h : id ∈ b.ids) : ((b.unlisten id).2.ids ++ [id]).Perm b.ids := by
  rw [ids_unlisten]
  exact (List.perm_append_singleton _ _).trans (List.perm_cons_erase h).symm

end Buffer

/-- The listener of a follower, from its subscription to its release. -/
def Follower.held (f : Follower) : List Nat := if f.stage.listening then [f.listener] else []

namespace Follower

theorem held_of_listening (h : f.stage.listening) : f.held = [f.listener] := if_pos h

theorem held_of_silent (h : f.stage.listening = false) : f.held = [] := by
  simp [held, h]

/-- A move changes who is on the log as it changes who the follower has there. -/
theorem ids_step (h : Step b f a c g) (hl : f.stage.listening → f.listener ∈ b.ids) :
    (c.ids ++ f.held).Perm (b.ids ++ g.held) := by
  cases h with
  | subscribe hs =>
    have hf : f.held = [] := held_of_silent (by simp [hs, Stage.listening])
    have hg : (f.subscribe b).2.held = [b.nextId] := held_of_listening (listening_first _)
    rw [hf, hg, List.append_nil]
    exact .of_eq (Buffer.ids_listen b)
  | refuse hs | pause hs | wake hs | reply hs | write hs | drain hs | finish hs | done hs =>
    simp [held, goTo, Follower.write, Follower.drain, hs, Stage.listening]
  | ask cancelled hs => cases cancelled <;> simp [held, goTo, hs, Stage.listening]
  | take hs =>
    have hn : (f.take b).1.ids = b.ids := Buffer.ids_alter b _
    have hg : (f.take b).2.held = f.held := by
      simp [held, Follower.take, goTo, hs, Stage.listening]
    rw [hn, hg]
  | leave hs =>
    have hf : f.stage.listening := by simp [hs, Stage.listening]
    have hg : (f.leave b).2.held = [] := rfl
    rw [held_of_listening hf, hg, List.append_nil]
    exact Buffer.ids_unlisten_perm (hl hf)
  | drop hs =>
    have hf : f.stage.listening := by rcases hs with hs | hs <;> simp [hs, Stage.listening]
    have hg : (f.drop b).2.held = [] := rfl
    rw [held_of_listening hf, hg, List.append_nil]
    exact Buffer.ids_unlisten_perm (hl hf)

/-- No move leads back to where a follower begins. -/
theorem stage_ne_outside (h : Step b f a c g) : g.stage ≠ .outside := by
  cases h with
  | subscribe =>
    change f.kind.first ≠ .outside
    cases f.kind <;> simp [Kind.first]
  | ask cancelled => cases cancelled <;> simp [goTo]
  | refuse | take | write | pause | wake | reply | leave | drain | finish | done | drop =>
    simp [goTo, take, Follower.drain, Follower.leave, Follower.drop]

end Follower

/-- A follower and its dealings with the log. -/
structure Settled (f : Follower) (d : Dealings) : Prop where
  removals : d.removed = f.removals.reverse
  given : d.given = d.removed ++ f.held
  once : d.given.length ≤ 1
  outside : f.stage = .outside → d.given = []
  /-- Whoever has a listener has still to release it, and nobody else has anything to release. -/
  active : (d.subscription.bind fun s => s.release.1) = f.held.head?

namespace Settled

/-- A follower that keeps what it has on the log asks nothing of the log. -/
theorem keep (hd : Settled f d) (hr : g.removals = f.removals) (hh : g.held = f.held)
    (ho : g.stage ≠ .outside) : Settled g d where
  removals := hr ▸ hd.removals
  given := hh ▸ hd.given
  once := hd.once
  outside := fun h => absurd h ho
  active := hh ▸ hd.active

/-- A release after the first one asks nothing of the log. -/
theorem release_again (hd : Settled f d) (hh : f.held = []) : Settled f d.release := by
  obtain ⟨hr, hg, ho, hs, ha⟩ := hd
  rw [hh] at ha
  unfold Dealings.release
  cases hsub : d.subscription with
  | none => exact ⟨hr, hg, ho, hs, by rw [hsub, hh]; rfl⟩
  | some s =>
    have hn : s.release.1 = none := by simpa [hsub] using ha
    refine ⟨?_, ?_, ho, hs, ?_⟩
    · simpa [hn] using hr
    · simpa [hn] using hg
    · rw [hh]
      rfl

/-- The first release asks for the follower's own listener. -/
theorem release (hd : Settled f d) (hl : f.stage.listening)
    (hr : g.removals = f.listener :: f.removals) (hh : g.held = []) (ho : g.stage ≠ .outside) :
    Settled g d.release := by
  obtain ⟨hre, hg, hon, -, ha⟩ := hd
  rw [Follower.held_of_listening hl] at hg ha
  obtain ⟨s, hs, hn⟩ : ∃ s, d.subscription = some s ∧ s.release.1 = some f.listener := by
    simpa [Option.bind_eq_some_iff] using ha
  have he : d.release =
      { d with subscription := some s.release.2, removed := d.removed ++ [f.listener] } := by
    simp [Dealings.release, hs, hn]
  rw [he]
  refine ⟨?_, ?_, hon, fun h => absurd h ho, ?_⟩
  · rw [hr, List.reverse_cons, hre]
  · rw [hh, List.append_nil]
    exact hg
  · rw [hh]
    rfl

theorem subscribe (hd : Settled f d) (hs : f.stage = .outside)
    (ho : (f.subscribe b).2.stage ≠ .outside) :
    Settled (f.subscribe b).2 (d.act (.subscribe b.listen.1)) := by
  have hn : d.given = [] := hd.outside hs
  have hr : d.removed = [] := by
    have hg := hd.given
    rw [hn] at hg
    exact (List.append_eq_nil_iff.mp hg.symm).1
  have hh : (f.subscribe b).2.held = [b.nextId] :=
    Follower.held_of_listening (Follower.listening_first _)
  have hg : (d.act (.subscribe b.listen.1)).given = [b.nextId] := by
    simp [Dealings.act, hn, Buffer.listen]
  refine ⟨hd.removals, ?_, ?_, fun h => absurd h ho, ?_⟩
  · rw [hg, hh]
    simp [Dealings.act, hr]
  · simp [hg]
  · rw [hh]
    rfl

theorem step (hd : Settled f d) (h : Follower.Step b f a c g) : Settled g (d.act a) := by
  have ho := Follower.stage_ne_outside h
  cases h with
  | subscribe hs => exact hd.subscribe hs ho
  | refuse hs | pause hs | wake hs | reply hs | write hs | drain hs | finish hs | take hs =>
    refine Settled.keep hd ?_ ?_ ho
    · rfl
    · simp [Follower.held, Follower.goTo, Follower.write, Follower.drain, Follower.take, hs,
        Stage.listening]
  | ask cancelled hs =>
    refine Settled.keep hd ?_ ?_ ho
    · rfl
    · cases cancelled <;> simp [Follower.held, Follower.goTo, hs, Stage.listening]
  | leave hs => exact hd.release (by simp [hs, Stage.listening]) rfl rfl ho
  | done hs =>
    have hh : f.held = [] := Follower.held_of_silent (by simp [hs, Stage.listening])
    exact (hd.release_again hh).keep rfl (by rw [hh]; rfl) ho
  | drop hs =>
    have hl : f.stage.listening := by rcases hs with hs | hs <;> simp [hs, Stage.listening]
    exact hd.release hl rfl rfl ho

end Settled

namespace Dealings

theorem of_snoc (i : Nat) (es : List Following.Event) (e : Following.Event) :
    of i (es ++ [e]) = (of i es).after i e :=
  List.foldl_append

theorem given_release (d : Dealings) : d.release.given = d.given := by
  unfold release
  split <;> rfl

/-- A listener is given by a subscription, and by nothing else. -/
theorem mem_given_after : id ∈ (d.after i e).given ↔
    id ∈ d.given ∨ e = .move i (.subscribe id) := by
  cases e with
  | push | call | done => simp [after]
  | move j a =>
    by_cases hj : j = i
    · cases a <;> simp [after, act, hj, given_release, eq_comm]
    · simp [after, hj]

end Dealings

namespace Following

variable {s t u : Following}

theorem nextId_step (h : Step s e t) : s.buffer.nextId ≤ t.buffer.nextId := by
  cases h with
  | push | call | done => exact Nat.le_refl _
  | move _ h _ =>
    cases h with
    | subscribe => exact Nat.le_succ _
    | refuse | ask | take | write | pause | wake | reply | leave | drain | finish | done | drop =>
      exact Nat.le_refl _

/-- A subscription gives the next number. -/
theorem nextId_subscribe (h : Step s (.move i (.subscribe id)) t) :
    id = s.buffer.nextId ∧ t.buffer.nextId = id + 1 := by
  cases h with
  | move _ h _ =>
    cases h with
    | subscribe => exact ⟨rfl, rfl⟩

/-- The followers that began in `s`, after some events. -/
structure Accounted (s : Following) (es : List Event) (t : Following) : Prop where
  settled : ∀ {i : Nat} {f : Follower}, t.followers[i]? = some f → Settled f (.of i es)
  there : t.buffer.ids.Perm (s.buffer.ids ++ t.followers.flatMap Follower.held)
  fresh : ∀ {i id : Nat}, id ∈ (Dealings.of i es).given →
    s.buffer.nextId ≤ id ∧ id < t.buffer.nextId
  apart : ∀ {i j id : Nat}, id ∈ (Dealings.of i es).given → id ∈ (Dealings.of j es).given → i = j
  nextId_le : s.buffer.nextId ≤ t.buffer.nextId

theorem accounted_fresh (hs : s.Fresh) : Accounted s [] s := by
  refine ⟨?_, ?_, nofun, nofun, Nat.le_refl _⟩
  · intro i f hi
    rw [hs.outside f (List.mem_of_getElem? hi)]
    exact ⟨rfl, rfl, Nat.zero_le _, fun _ => rfl, rfl⟩
  · have hn : s.followers.flatMap Follower.held = [] := by
      rw [List.flatMap_eq_nil_iff]
      intro f hf
      rw [hs.outside f hf]
      rfl
    rw [hn, List.append_nil]

/-- A push, or a part of one, is nothing that a follower does. -/
theorem Accounted.others (ha : Accounted s es t) (hf : u.followers = t.followers)
    (hi : u.buffer.ids = t.buffer.ids) (hn : u.buffer.nextId = t.buffer.nextId)
    (he : ∀ i d, Dealings.after i d e = d) : Accounted s (es ++ [e]) u := by
  have hd (i : Nat) : Dealings.of i (es ++ [e]) = Dealings.of i es := by
    rw [Dealings.of_snoc, he]
  refine ⟨?_, ?_, ?_, ?_, ?_⟩
  · intro i f hg
    rw [hd]
    exact ha.settled (hf ▸ hg)
  · rw [hi, hf]
    exact ha.there
  · intro i id hg
    rw [hd] at hg
    rw [hn]
    exact ha.fresh hg
  · intro i j id hg hg'
    rw [hd] at hg hg'
    exact ha.apart hg hg'
  · rw [hn]
    exact ha.nextId_le

theorem fresh_step (ha : Accounted s es t) (h : Step t e u)
    (hg : id ∈ (Dealings.of i (es ++ [e])).given) :
    s.buffer.nextId ≤ id ∧ id < u.buffer.nextId := by
  have hu := nextId_step h
  rw [Dealings.of_snoc, Dealings.mem_given_after] at hg
  rcases hg with hg | rfl
  · have hl := ha.fresh hg
    omega
  · obtain ⟨rfl, hn⟩ := nextId_subscribe h
    have hl := ha.nextId_le
    omega

theorem apart_step (ha : Accounted s es t) (h : Step t e u)
    (hi : id ∈ (Dealings.of i (es ++ [e])).given) (hj : id ∈ (Dealings.of j (es ++ [e])).given) :
    i = j := by
  rw [Dealings.of_snoc, Dealings.mem_given_after] at hi hj
  -- The number of a new listener is above all that were given before.
  have hlt {k : Nat} (hk : id ∈ (Dealings.of k es).given) {l : Nat}
      (he : e = .move l (.subscribe id)) : False := by
    subst he
    have hn := (nextId_subscribe h).1
    have hl := (ha.fresh hk).2
    omega
  rcases hi with hi | hi <;> rcases hj with hj | hj
  · exact ha.apart hi hj
  · exact (hlt hi hj).elim
  · exact (hlt hj hi).elim
  · rw [hi] at hj
    injection hj

theorem there_move (ht : t.buffer.ids.Perm (s.buffer.ids ++ t.followers.flatMap Follower.held))
    (hi : t.followers[i]? = some f) (hp : (b.ids ++ f.held).Perm (t.buffer.ids ++ g.held)) :
    b.ids.Perm (s.buffer.ids ++ (t.followers.set i g).flatMap Follower.held) := by
  obtain ⟨before, behind, hf, hset, -⟩ := split_at hi
  rw [hf] at ht
  rw [hset]
  rw [List.perm_iff_count] at hp ht ⊢
  intro id
  have hp := hp id
  have ht := ht id
  simp only [List.count_append, List.flatMap_append, List.flatMap_cons] at hp ht ⊢
  omega

theorem accounted_step (hk : Tracked t es) (ha : Accounted s es t) (h : Step t e u) :
    Accounted s (es ++ [e]) u := by
  have hn := Nat.le_trans ha.nextId_le (nextId_step h)
  cases h with
  | push | done => exact ha.others rfl rfl rfl fun _ _ => rfl
  | call => exact ha.others rfl (Buffer.ids_alter _ _) rfl fun _ _ => rfl
  | @move i a f g b hi h hx =>
    have hm : Step t (.move i a) _ := .move hi h hx
    refine ⟨?_, ?_, fresh_step ha hm, apart_step ha hm, hn⟩
    · intro j v hj
      rw [Dealings.of_snoc]
      rcases get_set hi hj with ⟨rfl, rfl⟩ | ⟨hne, hj⟩
      · rw [Dealings.after, if_pos rfl]
        exact (ha.settled hi).step h
      · rw [Dealings.after, if_neg (Ne.symm hne)]
        exact ha.settled hj
    · apply there_move ha.there hi
      apply Follower.ids_step h
      intro hl
      obtain ⟨q, hq⟩ := (hk.keeps hi).listed hl
      exact Buffer.mem_of_inbox hq

theorem accounted_trace (hs : s.Fresh) (h : Trace s es t) : Accounted s es t := by
  induction h with
  | refl => exact accounted_fresh hs
  | snoc ht h ih => exact accounted_step (tracked_trace hs ht) ih h

/-- A new listener is none of those from before. -/
theorem Accounted.not_mem_ids (ha : Accounted s es t) (hg : id ∈ (Dealings.of i es).given) :
    id ∉ s.buffer.ids := by
  intro hm
  have hlt : id < s.buffer.nextId := Buffer.lt_nextId hm
  have hle := (ha.fresh hg).1
  omega

theorem Accounted.count (ha : Accounted s es t) : t.buffer.listeners.length =
    s.buffer.listeners.length + t.followers.countP (·.stage.listening) := by
  have hl := ha.there.length_eq
  have hc (fs : List Follower) :
      (fs.flatMap Follower.held).length = fs.countP (·.stage.listening) := by
    induction fs with
    | nil => rfl
    | cons f fs ih =>
      rw [List.flatMap_cons, List.length_append, ih, List.countP_cons, Nat.add_comm]
      unfold Follower.held
      split <;> rfl
  simpa [Buffer.ids, hc] using hl

/-- Once nobody is between subscription and release, the log has the listeners from before. -/
theorem Accounted.over (ha : Accounted s es t)
    (he : ∀ f ∈ t.followers, f.stage.listening = false) : t.buffer.ids = s.buffer.ids := by
  have hn : t.followers.flatMap Follower.held = [] := by
    rw [List.flatMap_eq_nil_iff]
    exact fun f hf => Follower.held_of_silent (he f hf)
  have hp := ha.there
  rw [hn, List.append_nil] at hp
  exact Buffer.ids_eq_of_perm hp

end Following
end NodeConsole.Log
