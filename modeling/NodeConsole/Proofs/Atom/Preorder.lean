import NodeConsole.Proofs.Atom.Header

/-! An atom visited in pre-order, and its encoding piece by piece. -/
namespace NodeConsole.Atom
open Text (Bytes)

structure Visit where
  atom : Atom
  /-- How many parents are around it. -/
  ancestors : Nat

mutual
/-- The atoms within an atom, itself first, below `n` parents. -/
def visits (n : Nat) : Atom → List Visit
  | leaf id data => [⟨leaf id data, n⟩]
  | parent id children => ⟨parent id children, n⟩ :: visitsAll (n + 1) children

def visitsAll (n : Nat) : List Atom → List Visit
  | [] => []
  | a :: s => visits n a ++ visitsAll n s
end

namespace Visit

/-- The bytes of data, or the number of children. -/
def size (v : Visit) : Nat :=
  match v.atom with
  | .leaf _ data => data.length
  | .parent _ children => children.length

/-- The size leaves the top bit of a word alone. -/
def Short (v : Visit) : Prop := v.size < 2 ^ 31

instance : DecidablePred Short := fun v => inferInstanceAs (Decidable (v.size < 2 ^ 31))

/-- Within the limits of the reader. -/
def Fits (v : Visit) : Prop :=
  match v.atom with
  | .leaf _ data => data.length ≤ 1048576
  | .parent _ children => children.length ≤ 1024 ∧ v.ancestors ≤ 15

instance : DecidablePred Fits
  | ⟨.leaf _ data, _⟩ => inferInstanceAs (Decidable (data.length ≤ 1048576))
  | ⟨.parent _ children, n⟩ => inferInstanceAs (Decidable (children.length ≤ 1024 ∧ n ≤ 15))

def header (v : Visit) : Bytes :=
  match v.atom with
  | .leaf id data => leafHeader id data.length
  | .parent id children => parentHeader id children.length

/-- What the atom writes itself, without its children. -/
def bytes (v : Visit) : Bytes :=
  match v.atom with
  | .leaf _ data => v.header ++ data
  | .parent .. => v.header

theorem length_header (v : Visit) : v.header.length = 8 := by
  obtain ⟨⟨id, data⟩ | ⟨id, children⟩, n⟩ := v <;> rfl

theorem Fits.short {v : Visit} (h : v.Fits) : v.Short := by
  obtain ⟨⟨id, data⟩ | ⟨id, children⟩, n⟩ := v
  · exact Nat.lt_of_le_of_lt h (by decide)
  · exact Nat.lt_of_le_of_lt h.1 (by decide)

end Visit

/-- Every atom within `a` is within the limits. -/
def Fits (a : Atom) : Prop := ∀ v ∈ a.visits 0, v.Fits

instance : DecidablePred Fits := fun a => inferInstanceAs (Decidable (∀ v ∈ a.visits 0, v.Fits))

mutual
theorem encode_eq_visits (n : Nat) : (a : Atom) → encode a = (visits n a).flatMap Visit.bytes
  | leaf id data => by simp [encode, visits, Visit.bytes, Visit.header]
  | parent id children => by
    simp [encode, visits, Visit.bytes, Visit.header, encodeAll_eq_visits (n + 1) children]

theorem encodeAll_eq_visits (n : Nat) :
    (s : List Atom) → encodeAll s = (visitsAll n s).flatMap Visit.bytes
  | [] => rfl
  | a :: s => by
    simp [encodeAll, visitsAll, encode_eq_visits n a, encodeAll_eq_visits n s]
end

/-- What does not fit throughout has a first part that does not. -/
theorem exists_first_misfit {vs : List Visit} (h : ¬ ∀ v ∈ vs, v.Fits) :
    ∃ before v after, vs = before ++ v :: after ∧ (∀ u ∈ before, u.Fits) ∧ ¬ v.Fits := by
  induction vs with
  | nil => simp at h
  | cons v vs ih =>
    by_cases hv : v.Fits
    · have ht : ¬ ∀ u ∈ vs, u.Fits := by
        intro ht
        exact h (by simpa [hv] using ht)
      obtain ⟨before, u, after, rfl, hb, hu⟩ := ih ht
      exact ⟨v :: before, u, after, rfl, by simpa [hv] using hb, hu⟩
    · exact ⟨[], v, vs, rfl, by simp, hv⟩

end NodeConsole.Atom
