import NodeConsole.Proofs.Atom.Preorder

/-! Reading what was encoded, below any stack of open parents. -/
namespace NodeConsole.Atom
open Text (Bytes)

namespace Reader

variable {stack : List Frame} {id : AtomId} {children : List Atom} {data t : Bytes}
  {ps : List Bytes}

/-- Goes on unless there is a result. -/
def resume : Result ⊕ State → Result
  | .inl r => r
  | .inr s => run s

theorem run_eq (s : State) : run s = resume (step s) := by
  rw [run]
  split <;> simp_all [resume]

@[simp] theorem record_cons (b : Bytes) (ps : List Bytes) :
    record (b :: ps) = record ps ++ b := by
  simp [record]

theorem exactly?_append (a s : Bytes) : exactly? a.length (a ++ s) = some (a, s) := by
  simp [exactly?]

theorem step_leaf (h : data.length ≤ 1048576) :
    step ⟨stack, leafHeader id data.length ++ (data ++ t), ps⟩ =
      settle (.leaf id data) ⟨stack, t, data :: leafHeader id data.length :: ps⟩ := by
  have hs : data.length < 2 ^ 31 := by omega
  have hn := toNat_toUInt32 hs
  have hh : leafHeader id data.length = Header.bytes ⟨id, data.length.toUInt32⟩ := rfl
  have hm : ¬ maxData < data.length := by simp only [maxData]; omega
  rw [hh, step, Header.next?_bytes]
  simp only [body, Header.count?_leaf hs, hn, if_neg hm, exactly?_append]

theorem step_parent (hc : children.length ≤ 1024) (hd : stack.length ≤ 15) :
    step ⟨stack, parentHeader id children.length ++ t, ps⟩ =
      if children.length = 0 then
        settle (.parent id []) ⟨stack, t, parentHeader id children.length :: ps⟩
      else .inr ⟨⟨id, children.length, children.length, []⟩ :: stack, t,
        parentHeader id children.length :: ps⟩ := by
  have hs : children.length < 2 ^ 31 := by omega
  have hh : parentHeader id children.length =
    Header.bytes ⟨id, children.length.toUInt32 ||| parentBit⟩ := rfl
  have hm : ¬ (maxChildren < children.length ∨ maxDepth ≤ stack.length) := by
    simp only [maxChildren, maxDepth]
    omega
  rw [hh, step, Header.next?_bytes]
  simp only [body, Header.count?_parent hs, if_neg hm]

/-- The header of a part beyond a limit is the last thing read. -/
theorem step_refuse {v : Visit} (hd : v.ancestors = stack.length) (hs : v.Short)
    (hv : ¬ v.Fits) :
    step ⟨stack, v.header ++ t, ps⟩ =
      .inl ⟨.error (.tooLarge v.atom.id), t, v.header :: ps⟩ := by
  obtain ⟨⟨id, data⟩ | ⟨id, children⟩, n⟩ := v
  · have hn := toNat_toUInt32 hs
    have hh : leafHeader id data.length = Header.bytes ⟨id, data.length.toUInt32⟩ := rfl
    have hm : maxData < data.length := Nat.lt_of_not_le hv
    have hc : Header.count? ⟨id, data.length.toUInt32⟩ = none := Header.count?_leaf hs
    simp only [Visit.size] at hn
    simp only [Visit.header, hh, step, Header.next?_bytes, body, hc, hn, if_pos hm]
    rfl
  · have hh : parentHeader id children.length =
      Header.bytes ⟨id, children.length.toUInt32 ||| parentBit⟩ := rfl
    have hm : maxChildren < children.length ∨ maxDepth ≤ stack.length := by
      simp only [Visit.Fits] at hv hd
      simp only [maxChildren, maxDepth]
      omega
    have hc : Header.count? ⟨id, children.length.toUInt32 ||| parentBit⟩ = some children.length :=
      Header.count?_parent hs
    simp only [Visit.header, hh, step, Header.next?_bytes, body, hc, if_pos hm]
    rfl

/-- A parent that waits for more than one child goes on waiting after this one. -/
theorem settle_within {f : Frame} (a : Atom) (h : 1 < f.remaining) :
    settle a ⟨f :: stack, t, ps⟩ =
      .inr ⟨{ f with remaining := f.remaining - 1, children := a :: f.children } :: stack,
        t, ps⟩ := by
  have hr : 0 < f.remaining - 1 := by omega
  simp [settle, attach, hr]

theorem settle_last {f : Frame} (a : Atom) (h : f.remaining = 1) :
    settle a ⟨f :: stack, t, ps⟩ =
      settle (.parent f.id (f.children.reverse ++ [a])) ⟨stack, t, ps⟩ := by
  simp [settle, attach, h]

mutual
/-- Below any stack, the reader comes to the end of an atom as it stands in the stream. -/
theorem run_encode (stack : List Frame) (t : Bytes) (ps : List Bytes) : (a : Atom) →
    (∀ v ∈ a.visits stack.length, v.Fits) →
    ∃ qs, run ⟨stack, a.encode ++ t, ps⟩ = resume (settle a ⟨stack, t, qs⟩) ∧
      record qs = record ps ++ a.encode
  | .leaf id data, h => by
    have hf : data.length ≤ 1048576 := h ⟨.leaf id data, stack.length⟩ (by simp [visits])
    refine ⟨data :: leafHeader id data.length :: ps, ?_, ?_⟩
    · rw [run_eq, encode, List.append_assoc, step_leaf hf]
    · simp [encode]
  | .parent id [], h => by
    have hf : [].length ≤ 1024 ∧ stack.length ≤ 15 :=
      h ⟨.parent id [], stack.length⟩ (by simp [visits])
    refine ⟨parentHeader id 0 :: ps, ?_, ?_⟩
    · rw [run_eq, encode, encodeAll, List.append_nil, step_parent hf.1 hf.2]
      rfl
    · simp [encode, encodeAll]
  | .parent id (c :: cs), h => by
    have hf : (c :: cs).length ≤ 1024 ∧ stack.length ≤ 15 :=
      h ⟨.parent id (c :: cs), stack.length⟩ (by simp [visits])
    have hc : ∀ v ∈ visitsAll (stack.length + 1) (c :: cs), v.Fits := by
      intro v hv
      exact h v (by simp [visits, hv])
    obtain ⟨qs, hr, hq⟩ := run_encodeAll stack t (parentHeader id (c :: cs).length :: ps)
      id (c :: cs).length [] (c :: cs) (by simp) hc
    refine ⟨qs, ?_, ?_⟩
    · rw [run_eq, encode, List.append_assoc, step_parent hf.1 hf.2]
      simpa [resume] using hr
    · simp [hq, encode]

/-- The children that an open parent waits for, one after another. -/
theorem run_encodeAll (stack : List Frame) (t : Bytes) (ps : List Bytes) (id : AtomId)
    (declared : Nat) (done : List Atom) : (cs : List Atom) → cs ≠ [] →
    (∀ v ∈ visitsAll (stack.length + 1) cs, v.Fits) →
    ∃ qs, run ⟨⟨id, declared, cs.length, done⟩ :: stack, encodeAll cs ++ t, ps⟩ =
      resume (settle (.parent id (done.reverse ++ cs)) ⟨stack, t, qs⟩) ∧
      record qs = record ps ++ encodeAll cs
  | [c], _, h => by
    obtain ⟨qs, hr, hq⟩ := run_encode (⟨id, declared, 1, done⟩ :: stack) t ps c
      (by simpa [visitsAll] using h)
    refine ⟨qs, ?_, by simpa [encodeAll] using hq⟩
    rw [settle_last c rfl] at hr
    simpa [encodeAll] using hr
  | c :: d :: ds, _, h => by
    have hc : ∀ v ∈ visits (stack.length + 1) c, v.Fits := by
      intro v hv
      exact h v (by simp [visitsAll, hv])
    have hd : ∀ v ∈ visitsAll (stack.length + 1) (d :: ds), v.Fits := by
      intro v hv
      exact h v (List.mem_append_right _ hv)
    obtain ⟨qs, hr, hq⟩ := run_encode (⟨id, declared, (c :: d :: ds).length, done⟩ :: stack)
      (encodeAll (d :: ds) ++ t) ps c hc
    rw [settle_within c (by simp)] at hr
    obtain ⟨rs, hr', hq'⟩ :=
      run_encodeAll stack t qs id declared (c :: done) (d :: ds) (by simp) hd
    refine ⟨rs, ?_, by simp [hq', hq, encodeAll]⟩
    rw [encodeAll, List.append_assoc, hr]
    simpa [resume] using hr'
end

theorem run_header {v : Visit} (hd : v.ancestors = stack.length) (hs : v.Short)
    (hv : ¬ v.Fits) :
    run ⟨stack, v.header ++ t, ps⟩ = ⟨.error (.tooLarge v.atom.id), t, v.header :: ps⟩ := by
  rw [run_eq, step_refuse hd hs hv]
  rfl

mutual
/-- The reader stops behind the header of the first part that does not fit. -/
theorem run_refuse (stack : List Frame) (t : Bytes) (ps : List Bytes) {before after : List Visit}
    {v : Visit} (hb : ∀ u ∈ before, u.Fits) (hs : v.Short) (hv : ¬ v.Fits) : (a : Atom) →
    a.visits stack.length = before ++ v :: after →
    ∃ later qs, a.encode = before.flatMap Visit.bytes ++ v.header ++ later ∧
      run ⟨stack, a.encode ++ t, ps⟩ = ⟨.error (.tooLarge v.atom.id), later ++ t, qs⟩ ∧
      record qs = record ps ++ before.flatMap Visit.bytes ++ v.header
  | .leaf id data, h => by
    obtain ⟨rfl, rfl, -⟩ : before = [] ∧ v = ⟨.leaf id data, stack.length⟩ ∧ after = [] := by
      cases before <;> simp_all [visits]
    refine ⟨data, leafHeader id data.length :: ps, by simp [encode, Visit.header], ?_,
      by simp [Visit.header]⟩
    rw [encode, List.append_assoc]
    exact run_header rfl hs hv
  | .parent id children, h => by
    cases before with
    | nil =>
      obtain ⟨rfl, -⟩ := List.cons.inj h
      refine ⟨encodeAll children, parentHeader id children.length :: ps,
        by simp [encode, Visit.header], ?_, by simp [Visit.header]⟩
      rw [encode, List.append_assoc]
      exact run_header rfl hs hv
    | cons u before =>
      obtain ⟨rfl, hrest⟩ := List.cons.inj h
      have hf : children.length ≤ 1024 ∧ stack.length ≤ 15 := hb _ List.mem_cons_self
      have hne : children ≠ [] := by
        rintro rfl
        simp [visitsAll] at hrest
      obtain ⟨later, qs, he, hr, hq⟩ := run_refuseAll stack t
        (parentHeader id children.length :: ps) id children.length []
        (fun u hu => hb u (List.mem_cons_of_mem _ hu)) hs hv children hne hrest
      refine ⟨later, qs, by simp [encode, he, Visit.bytes, Visit.header], ?_, ?_⟩
      · rw [run_eq, encode, List.append_assoc, step_parent hf.1 hf.2]
        simpa [resume, hne] using hr
      · simp [hq, Visit.bytes, Visit.header]

theorem run_refuseAll (stack : List Frame) (t : Bytes) (ps : List Bytes) (id : AtomId)
    (declared : Nat) (done : List Atom) {before after : List Visit} {v : Visit}
    (hb : ∀ u ∈ before, u.Fits) (hs : v.Short) (hv : ¬ v.Fits) : (cs : List Atom) → cs ≠ [] →
    visitsAll (stack.length + 1) cs = before ++ v :: after →
    ∃ later qs, encodeAll cs = before.flatMap Visit.bytes ++ v.header ++ later ∧
      run ⟨⟨id, declared, cs.length, done⟩ :: stack, encodeAll cs ++ t, ps⟩ =
        ⟨.error (.tooLarge v.atom.id), later ++ t, qs⟩ ∧
      record qs = record ps ++ before.flatMap Visit.bytes ++ v.header
  | [c], _, h => by
    simpa [encodeAll] using
      run_refuse (⟨id, declared, 1, done⟩ :: stack) t ps hb hs hv c (by simpa [visitsAll] using h)
  | c :: d :: ds, _, h => by
    rw [visitsAll] at h
    by_cases hc : ∀ u ∈ visits (stack.length + 1) c, u.Fits
    · -- The first child fits, so the part is in one of the others.
      obtain ⟨before', rfl, hrest⟩ : ∃ before', before = visits (stack.length + 1) c ++ before' ∧
          visitsAll (stack.length + 1) (d :: ds) = before' ++ v :: after := by
        obtain ⟨m, hm, hrest⟩ | ⟨m, hm, hrest⟩ := List.append_eq_append_iff.mp h
        · exact ⟨m, hm, hrest⟩
        · cases m with
          | nil => exact ⟨[], by simpa using hm.symm, by simpa using hrest.symm⟩
          | cons u m =>
            obtain ⟨rfl, -⟩ := List.cons.inj hrest
            exact absurd (hc v (by simp [hm])) hv
      obtain ⟨qs, hr, hq⟩ := run_encode (⟨id, declared, (c :: d :: ds).length, done⟩ :: stack)
        (encodeAll (d :: ds) ++ t) ps c hc
      rw [settle_within c (by simp)] at hr
      obtain ⟨later, rs, he, hr', hq'⟩ := run_refuseAll stack t qs id declared (c :: done)
        (fun u hu => hb u (List.mem_append_right _ hu)) hs hv (d :: ds) (by simp) hrest
      have hv' := encode_eq_visits (stack.length + 1) c
      refine ⟨later, rs, by rw [encodeAll, he, hv']; simp, ?_, by simp [hq', hq, hv']⟩
      rw [encodeAll, List.append_assoc, hr]
      simpa [resume] using hr'
    · -- The first child does not fit, and the part is its first that does not.
      obtain ⟨m, hm, hrest⟩ | ⟨m, hm, hrest⟩ := List.append_eq_append_iff.mp h
      · exact absurd (fun u hu => hb u (by simp [hm, hu])) hc
      · cases m with
        | nil => exact absurd (fun u hu => hb u (by simpa [hm] using hu)) hc
        | cons u m =>
          obtain ⟨rfl, -⟩ := List.cons.inj hrest
          obtain ⟨later, qs, he, hr, hq⟩ :=
            run_refuse (⟨id, declared, (c :: d :: ds).length, done⟩ :: stack)
              (encodeAll (d :: ds) ++ t) ps hb hs hv c hm
          refine ⟨later ++ encodeAll (d :: ds), qs, by rw [encodeAll, he]; simp, ?_, hq⟩
          rw [encodeAll, List.append_assoc, hr, List.append_assoc]
end

end Reader

/-- An atom is read back from any stream just when every part fits; otherwise the first misfit in
pre-order is named. -/
theorem read_encode (a : Atom) (ha : ∀ v ∈ a.visits 0, v.Short) (ps : List Bytes) (t : Bytes) :
    let r := Reader.run ⟨[], a.encode ++ t, ps⟩
    (r.outcome = .ok a ∧ r.rest = t ∧
      Reader.record r.pieces = Reader.record ps ++ a.encode ↔ a.Fits) ∧
    (¬ a.Fits → ∃ before v after later,
      a.visits 0 = before ++ v :: after ∧ (∀ u ∈ before, u.Fits) ∧ ¬ v.Fits ∧
      a.encode = before.flatMap Visit.bytes ++ v.header ++ later ∧ v.header.length = 8 ∧
      r.outcome = .error (.tooLarge v.atom.id) ∧ r.rest = later ++ t ∧
      Reader.record r.pieces =
        Reader.record ps ++ before.flatMap Visit.bytes ++ v.header) := by
  intro r
  have refused : ¬ a.Fits → ∃ before v after later,
      a.visits 0 = before ++ v :: after ∧ (∀ u ∈ before, u.Fits) ∧ ¬ v.Fits ∧
      a.encode = before.flatMap Visit.bytes ++ v.header ++ later ∧ v.header.length = 8 ∧
      r.outcome = .error (.tooLarge v.atom.id) ∧ r.rest = later ++ t ∧
      Reader.record r.pieces =
        Reader.record ps ++ before.flatMap Visit.bytes ++ v.header := by
    intro hf
    obtain ⟨before, v, after, hvs, hb, hv⟩ := exists_first_misfit hf
    have hs : v.Short := ha v (by simp [hvs])
    obtain ⟨later, qs, he, hr, hq⟩ := Reader.run_refuse [] t ps hb hs hv a hvs
    have hr : r = ⟨.error (.tooLarge v.atom.id), later ++ t, qs⟩ := hr
    exact ⟨before, v, after, later, hvs, hb, hv, he, v.length_header, by rw [hr], by rw [hr],
      by rw [hr, hq]⟩
  refine ⟨⟨?_, ?_⟩, refused⟩
  · rintro ⟨hr, -, -⟩
    by_contra hf
    obtain ⟨_, v, _, _, _, _, _, _, _, he, _⟩ := refused hf
    rw [hr] at he
    simp at he
  · intro hf
    obtain ⟨qs, hr, hq⟩ := Reader.run_encode [] t ps a hf
    have hr : r = ⟨.ok a, t, qs⟩ := hr
    exact ⟨by rw [hr], by rw [hr], by rw [hr, hq]⟩

/-- `n` parents, each the only child of the one around it; the innermost is empty. -/
def nested (id : AtomId) : (n : Nat) → Atom
  | 0 => parent id []
  | n + 1 => parent id [nested id n]

/-- Fifteen parents may be around a parent, and sixteen may not. -/
theorem read_encode_nested :
    let id : AtomId := ⟨111, 108, 101, 104⟩
    (∀ v ∈ (nested id 16).visits 0, v.Short) ∧
      (Reader.run ⟨[], (nested id 15).encode ++ [7], [[1, 2]]⟩).outcome = .ok (nested id 15) ∧
      (Reader.run ⟨[], (nested id 16).encode ++ [7], [[1, 2]]⟩).outcome =
        .error (.tooLarge id) := by
  intro id
  have hs : ∀ v ∈ (nested id 16).visits 0, v.Short := by decide
  refine ⟨hs, ?_, ?_⟩
  · exact ((read_encode (nested id 15) (by decide) [[1, 2]] [7]).1.mpr (by decide)).1
  · obtain ⟨before, v, after, _, hv, _, _, _, _, ho, _⟩ :=
      (read_encode (nested id 16) hs [[1, 2]] [7]).2 (by decide)
    have hid : ∀ u ∈ (nested id 16).visits 0, u.atom.id = id := by decide
    rw [ho, hid v (by simp [hv])]

end NodeConsole.Atom
