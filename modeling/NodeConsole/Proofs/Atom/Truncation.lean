import NodeConsole.Proofs.Atom.Canonical

/-! Streams that end too early, and streams that go on. -/
namespace NodeConsole.Atom
open Text (Bytes)

namespace Reader

variable {s : State} {r : Result} {a : Atom} {bs : Bytes} {n : Nat} {h : Header}
  {ps qs : List Bytes} {rest data u : Bytes}

def State.extend (s : State) (u : Bytes) : State := { s with rest := s.rest ++ u }

def Result.extend (r : Result) (u : Bytes) : Result := { r with rest := r.rest ++ u }

/-- What a step comes to when the stream goes on with `u`. -/
def extendStep (u : Bytes) : Result ⊕ State → Result ⊕ State
  | .inl r => .inl (r.extend u)
  | .inr s => .inr (s.extend u)

/-- The step finds the end of the stream. -/
def Early : Result ⊕ State → Prop
  | .inl r => r.outcome = .error .early
  | .inr _ => False

theorem next?_extend (hn : Header.next? bs = some (h, rest)) (u : Bytes) :
    Header.next? (bs ++ u) = some (h, rest ++ u) := by
  rw [Header.eq_of_next? hn, List.append_assoc, Header.next?_bytes]

theorem exactly?_extend (hx : exactly? n bs = some (data, rest)) (u : Bytes) :
    exactly? n (bs ++ u) = some (data, rest ++ u) := by
  obtain ⟨rfl, rfl⟩ := exactly?_eq_some hx
  rw [List.append_assoc, exactly?_append]

theorem settle_extend (a : Atom) (s : State) (u : Bytes) :
    settle a (s.extend u) = extendStep u (settle a s) := by
  simp only [settle, State.extend]
  cases attach a s.stack <;> rfl

theorem body_extend (hb : ¬ Early (body h s)) (u : Bytes) :
    body h (s.extend u) = extendStep u (body h s) := by
  obtain ⟨stack, rest, pieces⟩ := s
  change body h ⟨stack, rest ++ u, pieces⟩ = _
  simp only [body] at hb ⊢
  cases hc : h.count? with
  | some n =>
    by_cases hm : maxChildren < n ∨ maxDepth ≤ stack.length
    · simp only [if_pos hm]
      rfl
    · by_cases h0 : n = 0
      · simp only [if_neg hm, if_pos h0]
        exact settle_extend _ ⟨stack, rest, pieces⟩ u
      · simp only [if_neg hm, if_neg h0]
        rfl
  | none =>
    by_cases hm : maxData < h.size.toNat
    · simp only [if_pos hm]
      rfl
    · simp only [hc, if_neg hm] at hb ⊢
      cases hx : exactly? h.size.toNat rest with
      | none => simp [hx, Early, refuse] at hb
      | some p =>
        obtain ⟨data, later⟩ := p
        simp only [exactly?_extend hx u]
        exact settle_extend _ ⟨stack, later, data :: pieces⟩ u

theorem step_extend (hs : ¬ Early (step s)) (u : Bytes) :
    step (s.extend u) = extendStep u (step s) := by
  unfold step at hs ⊢
  cases hh : Header.next? s.rest with
  | none => simp [hh, Early, refuse] at hs
  | some p =>
    have hu : Header.next? (s.extend u).rest = some (p.1, p.2 ++ u) := next?_extend hh u
    simp only [hh] at hs
    rw [hu]
    exact body_extend hs u

/-- A result that does not come from the end of the stream stays when the stream goes on. -/
theorem run_extend (hr : (run s).outcome ≠ .error .early) (u : Bytes) :
    run (s.extend u) = (run s).extend u := by
  fun_induction run s with
  | case1 s r hs =>
    have he : ¬ Early (step s) := by
      rw [hs]
      exact hr
    rw [run_eq, step_extend he, hs]
    rfl
  | case2 s t hs ih =>
    have he : ¬ Early (step s) := by
      rw [hs]
      exact not_false
    rw [run_eq, step_extend he, hs]
    exact ih hr

theorem run_append (hr : (run ⟨[], bs, ps⟩).outcome ≠ .error .early) (u : Bytes) :
    run ⟨[], bs ++ u, ps⟩ =
      ⟨(run ⟨[], bs, ps⟩).outcome, (run ⟨[], bs, ps⟩).rest ++ u, (run ⟨[], bs, ps⟩).pieces⟩ :=
  run_extend hr u

/-- A cut before the end of what was read is an early end. -/
theorem early_of_cut (hl : (run ⟨[], bs ++ u, ps⟩).rest.length < u.length) :
    (run ⟨[], bs, ps⟩).outcome = .error .early := by
  by_contra hr
  rw [run_append hr, List.length_append] at hl
  omega

theorem early_of_prefix {s t : Bytes} (hr : (run ⟨[], s, ps⟩).rest = []) (ht : t <+: s)
    (hne : t ≠ s) : (run ⟨[], t, ps⟩).outcome = .error .early := by
  obtain ⟨u, rfl⟩ := ht
  have hu : 0 < u.length := by
    apply List.length_pos_iff.mpr
    rintro rfl
    exact hne (List.append_nil t).symm
  apply early_of_cut (u := u)
  rwa [hr]

/-- Pieces that were read whole, last first: headers, each of a leaf with all of its data. -/
inductive Whole : List Bytes → Prop
  | nil : Whole []
  | parent {h : Header} {n : Nat} {qs : List Bytes} (hc : h.count? = some n) (hq : Whole qs) :
      Whole (h.bytes :: qs)
  | leaf {h : Header} {data : Bytes} {qs : List Bytes} (hc : h.count? = none)
      (hl : data.length = h.size.toNat) (hq : Whole qs) : Whole (data :: h.bytes :: qs)

/-- Below the open parents that `qs` were read from, the header `h` is beyond a limit. -/
def Beyond (qs : List Bytes) (h : Header) : Prop :=
  (h.count? = none ∧ 1048576 < h.size.toNat) ∨
    ∃ n, h.count? = some n ∧ (1024 < n ∨
      ∃ stack, AllOpen stack ∧ spelling stack = record qs ∧ 16 ≤ stack.length)

/-- How a reader that has recorded `ps` may end on a stream, with what it recorded since. -/
inductive Ends (bs : Bytes) (ps : List Bytes) : Result → Prop
  /-- An atom was read whole; what was recorded is its encoding. -/
  | whole {a : Atom} {rest : Bytes} {qs : List Bytes} (hq : Whole qs)
      (hs : bs = record qs ++ rest) (ha : record qs = a.encode) :
      Ends bs ps ⟨.ok a, rest, qs ++ ps⟩
  /-- The stream ends within a header. -/
  | cutHeader {part : Bytes} {qs : List Bytes} (hq : Whole qs) (hs : bs = record qs ++ part)
      (hl : part.length < 8) : Ends bs ps ⟨.error .early, [], qs ++ ps⟩
  /-- The stream ends within the data of a leaf. -/
  | cutData {h : Header} {part : Bytes} {qs : List Bytes} (hq : Whole qs)
      (hs : bs = record (h.bytes :: qs) ++ part) (hc : h.count? = none)
      (hn : h.size.toNat ≤ 1048576) (hl : part.length < h.size.toNat) :
      Ends bs ps ⟨.error .early, [], h.bytes :: qs ++ ps⟩
  /-- A header is beyond a limit. -/
  | tooLarge {h : Header} {rest : Bytes} {qs : List Bytes} (hq : Whole qs)
      (hs : bs = record (h.bytes :: qs) ++ rest) (hb : Beyond qs h) :
      Ends bs ps ⟨.error (.tooLarge h.id), rest, h.bytes :: qs ++ ps⟩

/-- What was recorded up to a result, or up to a state from which it goes on. -/
def Kept (bs : Bytes) (ps : List Bytes) : Result ⊕ State → Prop
  | .inl r => Ends bs ps r
  | .inr t => ∃ qs, Whole qs ∧ t.pieces = qs ++ ps ∧ bs = record qs ++ t.rest

theorem kept_settle (hq : Whole qs) (hs : bs = record qs ++ s.rest) (hp : s.pieces = qs ++ ps)
    (hsp : Spells bs (settle a s)) : Kept bs ps (settle a s) := by
  obtain ⟨stack, rest, pieces⟩ := s
  subst hp
  unfold settle at hsp ⊢
  split
  · rename_i b hb
    rw [hb] at hsp
    obtain ⟨he, -⟩ := hsp b rfl
    exact .whole hq hs (List.append_cancel_right (hs.symm.trans he.symm))
  · exact ⟨qs, hq, rfl, hs⟩

theorem kept_step (hq : Whole qs) (hs : bs = record qs ++ s.rest) (hp : s.pieces = qs ++ ps)
    (ho : AllOpen s.stack) (hsp : spelling s.stack ++ s.rest = bs) : Kept bs ps (step s) := by
  have hact := act_step s
  have hspells := spells_step ho
  rw [hsp] at hspells
  generalize step s = x at hact hspells ⊢
  obtain ⟨stack, rest, pieces⟩ := s
  subst hp
  dsimp only at hs hsp ho
  cases hact with
  | cut hl => exact .cutHeader hq hs hl
  | @cutData id n later hr hn hl =>
    dsimp only at hr
    have hlt : n < 2 ^ 31 := by omega
    have hsize : n.toUInt32.toNat = n := toNat_toUInt32 hlt
    have hb : bs = record (leafHeader id n :: qs) ++ later := by
      rw [record_cons, hs, hr, List.append_assoc]
    exact Ends.cutData (h := ⟨id, n.toUInt32⟩) hq hb (Header.count?_leaf hlt)
      (hsize.symm ▸ hn) (hsize.symm ▸ hl)
  | @tooLarge h later hr hb =>
    dsimp only at hr hb
    refine Ends.tooLarge hq ?_ ?_
    · rw [record_cons, hs, hr, List.append_assoc]
    · have he : spelling stack = record qs := List.append_cancel_right (hsp.trans hs)
      obtain hb | ⟨n, hc, hn | hd⟩ := hb
      · exact .inl hb
      · exact .inr ⟨n, hc, .inl hn⟩
      · exact .inr ⟨n, hc, .inr ⟨stack, ho, he, hd⟩⟩
  | @leaf id data later hr hn =>
    dsimp only at hr
    have hlt : data.length < 2 ^ 31 := by omega
    have hw : Whole (data :: leafHeader id data.length :: qs) :=
      .leaf (h := ⟨id, data.length.toUInt32⟩) (Header.count?_leaf hlt) (toNat_toUInt32 hlt).symm hq
    refine kept_settle hw ?_ rfl hspells
    simp [hs, hr]
  | @empty id later hr hd =>
    dsimp only at hr
    have hw : Whole (parentHeader id 0 :: qs) :=
      .parent (h := ⟨id, Nat.toUInt32 0 ||| parentBit⟩) (Header.count?_parent (by decide)) hq
    refine kept_settle hw ?_ rfl hspells
    simp [hs, hr]
  | @push id n later hr h0 hn hd =>
    dsimp only at hr
    have hw : Whole (parentHeader id n :: qs) :=
      .parent (h := ⟨id, n.toUInt32 ||| parentBit⟩) (Header.count?_parent (by omega)) hq
    refine ⟨_, hw, rfl, ?_⟩
    simp [hs, hr]

/-- From any state that the stream has led to, the reader ends in one of the four ways. -/
theorem ends_run (hq : Whole qs) (hs : bs = record qs ++ s.rest) (hp : s.pieces = qs ++ ps)
    (ho : AllOpen s.stack) (hsp : spelling s.stack ++ s.rest = bs) : Ends bs ps (run s) := by
  fun_induction run s generalizing qs with
  | case1 s r hr =>
    have hk := kept_step hq hs hp ho hsp
    rwa [hr] at hk
  | case2 s t hr ih =>
    have hk := kept_step hq hs hp ho hsp
    have hn := spells_step ho
    rw [hr] at hk hn
    obtain ⟨qs', hq', hp', hs'⟩ := hk
    exact ih hq' hs' hp' hn.2 (hn.1.trans hsp)

theorem record_append (qs ps : List Bytes) : record (qs ++ ps) = record ps ++ record qs := by
  simp [record]

theorem Ends.record_eq (h : Ends bs ps r) :
    ∃ grown, record r.pieces = record ps ++ grown ∧ grown <+: bs := by
  have hp : ∃ qs rest, r.pieces = qs ++ ps ∧ bs = record qs ++ rest := by
    cases h with
    | whole _ hs _ => exact ⟨_, _, rfl, hs⟩
    | cutHeader _ hs => exact ⟨_, _, rfl, hs⟩
    | cutData _ hs => exact ⟨_, _, rfl, hs⟩
    | tooLarge _ hs => exact ⟨_, _, rfl, hs⟩
  obtain ⟨qs, rest, hp, rfl⟩ := hp
  exact ⟨record qs, by rw [hp, record_append], List.prefix_append ..⟩

/-- Only an early end depends on what follows a stream; every cut of an accepted encoding ends
early; records grow by whole parts. -/
theorem read_cut (s : Bytes) (ps : List Bytes) :
    let r := run ⟨[], s, ps⟩
    (r.outcome ≠ .error .early →
      ∀ t, run ⟨[], s ++ t, ps⟩ = ⟨r.outcome, r.rest ++ t, r.pieces⟩) ∧
    (∀ a t, r.outcome = .ok a → r.rest = [] → t <+: s → t ≠ s →
      (run ⟨[], t, ps⟩).outcome = .error .early) ∧
    (∀ (a : Atom) (t : Bytes), a.Fits → t <+: a.encode → t ≠ a.encode →
      (run ⟨[], t, ps⟩).outcome = .error .early) ∧
    Ends s ps r ∧ ∃ grown, record r.pieces = record ps ++ grown ∧ grown <+: s := by
  intro r
  have he : Ends s ps r := ends_run .nil rfl rfl trivial rfl
  refine ⟨fun hr t => run_append hr t, ?_, ?_, he, he.record_eq⟩
  · intro a t _ hrest ht hne
    exact early_of_prefix hrest ht hne
  · intro a t hf ht hne
    obtain ⟨qs, hr, -⟩ := run_encode [] [] ps a hf
    have hr : run ⟨[], a.encode ++ [], ps⟩ = ⟨.ok a, [], qs⟩ := hr
    rw [List.append_nil] at hr
    exact early_of_prefix (by rw [hr]) ht hne

end Reader
end NodeConsole.Atom
