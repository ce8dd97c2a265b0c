import NodeConsole.Proofs.Atom.Stack

/-! An atom has one encoding, and nothing else is read as it. -/
namespace NodeConsole.Atom
open Text (Bytes)

variable {a b : Atom} {s : Bytes} {ps : List Bytes}

theorem run_encode_eq (h : (Reader.run ⟨[], s, ps⟩).outcome = .ok a) :
    s = a.encode ++ (Reader.run ⟨[], s, ps⟩).rest ∧ a.Fits := by
  have hr : Reader.AllOpen (Reader.State.mk [] s ps).stack := trivial
  obtain ⟨he, hf⟩ := Reader.spells_run hr h
  exact ⟨by simpa [Reader.spelling] using he.symm, hf⟩

/-- An atom is returned just when it is within the limits and the stream begins with it. -/
theorem run_ok_iff : (Reader.run ⟨[], s, ps⟩).outcome = .ok a ↔ a.Fits ∧ a.encode <+: s := by
  constructor
  · intro h
    obtain ⟨he, hf⟩ := run_encode_eq h
    exact ⟨hf, _, he.symm⟩
  · rintro ⟨hf, t, rfl⟩
    obtain ⟨qs, hr, -⟩ := Reader.run_encode [] t ps a hf
    have hr : Reader.run ⟨[], a.encode ++ t, ps⟩ = ⟨.ok a, t, qs⟩ := hr
    rw [hr]

theorem record_of_run_ok (h : (Reader.run ⟨[], s, ps⟩).outcome = .ok a) :
    Reader.record (Reader.run ⟨[], s, ps⟩).pieces = Reader.record ps ++ a.encode := by
  have hr := (Reader.records_run ⟨[], s, ps⟩).2 (by simp [h])
  have he := (run_encode_eq h).1
  have hs : Reader.record ps ++ s =
      Reader.record ps ++ a.encode ++ (Reader.run ⟨[], s, ps⟩).rest := by
    rw [List.append_assoc, ← he]
  exact List.append_cancel_right (hr.trans hs)

/-- Two atoms that a stream begins with are the same. -/
theorem eq_of_encode_prefix (ha : a.Fits) (hb : b.Fits) (has : a.encode <+: s)
    (hbs : b.encode <+: s) : a = b := by
  have hra : (Reader.run ⟨[], s, []⟩).outcome = .ok a := run_ok_iff.mpr ⟨ha, has⟩
  have hrb : (Reader.run ⟨[], s, []⟩).outcome = .ok b := run_ok_iff.mpr ⟨hb, hbs⟩
  exact Except.ok.inj (hra.symm.trans hrb)

/-- An atom is returned just when it fits and its encoding was read; so encodings are injective and
free of prefixes. -/
theorem read_canonical (s : Bytes) (ps : List Bytes) :
    let r := Reader.run ⟨[], s, ps⟩
    (∀ a, r.outcome = .ok a ↔ s = a.encode ++ r.rest ∧
      Reader.record r.pieces = Reader.record ps ++ a.encode ∧ a.Fits) ∧
    (∀ a t qs, let q := Reader.run ⟨[], t, qs⟩
      r.outcome = .ok a → r.rest = [] → q.outcome = .ok a → q.rest = [] → s = t) ∧
    ∀ a b : Atom, a.Fits → b.Fits → a.encode <+: b.encode → a = b := by
  intro r
  refine ⟨?_, ?_, ?_⟩
  · intro a
    constructor
    · intro h
      obtain ⟨he, hf⟩ := run_encode_eq h
      exact ⟨he, record_of_run_ok h, hf⟩
    · rintro ⟨he, -, hf⟩
      exact run_ok_iff.mpr ⟨hf, _, he.symm⟩
  · intro a t qs q hr hrest hq hqrest
    have hs : s = a.encode ++ r.rest := (run_encode_eq hr).1
    have ht : t = a.encode ++ q.rest := (run_encode_eq hq).1
    rw [hs, ht, hrest, hqrest]
  · intro a b ha hb hab
    exact eq_of_encode_prefix ha hb hab List.prefix_rfl

end NodeConsole.Atom
