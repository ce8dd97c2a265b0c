import NodeConsole.Proofs.Atom.RoundTrip

/-! What a step of the reader does with the stack of parents. -/
namespace NodeConsole.Atom
open Text (Bytes)

theorem encodeAll_append (as bs : List Atom) :
    encodeAll (as ++ bs) = encodeAll as ++ encodeAll bs := by
  induction as with
  | nil => rfl
  | cons a as ih => simp [encodeAll, ih]

theorem visitsAll_append (n : Nat) (as bs : List Atom) :
    visitsAll n (as ++ bs) = visitsAll n as ++ visitsAll n bs := by
  induction as with
  | nil => rfl
  | cons a as ih => simp [visitsAll, ih]

/-- A parent below `n` others that waits for a child, with all within the limits so far. -/
structure Frame.Open (n : Nat) (f : Frame) : Prop where
  depth_le : n ≤ 15
  declared_le : f.declared ≤ 1024
  remaining_pos : 0 < f.remaining
  count_eq : f.children.length + f.remaining = f.declared
  fits : ∀ v ∈ visitsAll (n + 1) f.children.reverse, v.Fits

theorem Frame.Open.snoc {f : Frame} {n : Nat} {a : Atom} (h : f.Open n)
    (ha : ∀ v ∈ a.visits (n + 1), v.Fits) :
    ∀ v ∈ visitsAll (n + 1) (a :: f.children).reverse, v.Fits := by
  intro v hv
  rw [List.reverse_cons, visitsAll_append, List.mem_append] at hv
  rcases hv with hv | hv
  · exact h.fits v hv
  · exact ha v (by simpa [visitsAll] using hv)

namespace Reader

variable {s t : State} {r : Result} {stack : List Frame} {a b : Atom}

/-- The steps: an early end, a header beyond a limit, an atom read whole, or a parent opened. -/
inductive Act (s : State) : Result ⊕ State → Prop
  | cut (hl : s.rest.length < 8) : Act s (refuse .early { s with rest := [] })
  | cutData {id n rest} (hr : s.rest = leafHeader id n ++ rest) (hn : n ≤ 1048576)
      (hl : rest.length < n) :
      Act s (refuse .early ⟨s.stack, [], leafHeader id n :: s.pieces⟩)
  | tooLarge {h : Header} {rest} (hr : s.rest = h.bytes ++ rest)
      (hb : (h.count? = none ∧ 1048576 < h.size.toNat) ∨
        ∃ n, h.count? = some n ∧ (1024 < n ∨ 16 ≤ s.stack.length)) :
      Act s (refuse (.tooLarge h.id) ⟨s.stack, rest, h.bytes :: s.pieces⟩)
  | leaf {id data rest} (hr : s.rest = leafHeader id data.length ++ (data ++ rest))
      (hn : data.length ≤ 1048576) :
      Act s (settle (.leaf id data)
        ⟨s.stack, rest, data :: leafHeader id data.length :: s.pieces⟩)
  | empty {id rest} (hr : s.rest = parentHeader id 0 ++ rest) (hd : s.stack.length ≤ 15) :
      Act s (settle (.parent id []) ⟨s.stack, rest, parentHeader id 0 :: s.pieces⟩)
  | push {id n rest} (hr : s.rest = parentHeader id n ++ rest) (h0 : 0 < n) (hn : n ≤ 1024)
      (hd : s.stack.length ≤ 15) :
      Act s (.inr ⟨⟨id, n, n, []⟩ :: s.stack, rest, parentHeader id n :: s.pieces⟩)

theorem exactly?_eq_none {n : Nat} {bs : Bytes} (h : exactly? n bs = none) : bs.length < n := by
  simp only [exactly?, List.length_take] at h
  split at h
  · contradiction
  · omega

theorem act_step (s : State) : Act s (step s) := by
  unfold step
  split
  · rename_i hh
    exact .cut (Header.length_of_next? hh)
  · rename_i h rest hh
    have hr := Header.eq_of_next? hh
    unfold body
    split
    · rename_i n hc
      have hp := Header.bytes_eq_parent hc
      split
      · rename_i hb
        exact .tooLarge hr (.inr ⟨n, hc, hb⟩)
      · rename_i hb
        obtain ⟨hn, hd⟩ : n ≤ 1024 ∧ s.stack.length ≤ 15 := by
          simp only [maxChildren, maxDepth] at hb
          omega
        rw [hp] at hr ⊢
        split
        · rename_i h0
          subst h0
          exact .empty hr hd
        · exact .push hr (by omega) hn hd
    · rename_i hc
      have hp := h.bytes_eq_leaf
      split
      · rename_i hb
        exact .tooLarge hr (.inl ⟨hc, hb⟩)
      · rename_i hb
        have hn : h.size.toNat ≤ 1048576 := by
          simp only [maxData] at hb
          omega
        rw [hp] at hr ⊢
        split
        · rename_i hx
          exact .cutData hr hn (exactly?_eq_none hx)
        · rename_i data rest' hx
          obtain ⟨rfl, hl⟩ := exactly?_eq_some hx
          rw [← hl] at hr hn ⊢
          exact .leaf hr hn

def AllOpen : List Frame → Prop
  | [] => True
  | f :: fs => f.Open fs.length ∧ AllOpen fs

/-- The bytes that open parents and their children so far were read from. -/
def spelling : List Frame → Bytes
  | [] => []
  | f :: fs => spelling fs ++ (parentHeader f.id f.declared ++ encodeAll f.children.reverse)

/-- What was read as `bs` is one atom within the limits, or open parents within them. -/
def Progress.Spells (bs : Bytes) : Progress → Prop
  | .whole b => b.encode = bs ∧ b.Fits
  | .within stack => spelling stack = bs ∧ AllOpen stack

theorem spells_attach (hs : AllOpen stack) (ha : ∀ v ∈ a.visits stack.length, v.Fits) :
    (attach a stack).Spells (spelling stack ++ a.encode) := by
  induction stack generalizing a with
  | nil => exact ⟨rfl, ha⟩
  | cons f fs ih =>
    obtain ⟨hf, hfs⟩ := hs
    have hsnoc := hf.snoc ha
    simp only [attach]
    split
    · rename_i hr
      refine ⟨?_, ⟨hf.depth_le, hf.declared_le, hr, ?_, hsnoc⟩, hfs⟩
      · simp [spelling, encodeAll_append, encodeAll]
      · have hc := hf.count_eq
        simp only [List.length_cons]
        omega
    · -- The parent is complete, and is an atom of the stack around it.
      rename_i hr
      have hc : (a :: f.children).reverse.length = f.declared := by
        have hc := hf.count_eq
        have hp := hf.remaining_pos
        simp only [List.length_reverse, List.length_cons]
        omega
      have hp : ∀ v ∈ visits fs.length (.parent f.id (a :: f.children).reverse), v.Fits := by
        rw [visits, List.forall_mem_cons]
        exact ⟨⟨hc ▸ hf.declared_le, hf.depth_le⟩, hsnoc⟩
      have hi := ih hfs hp
      rw [encode, hc] at hi
      simpa [spelling, encodeAll_append, encodeAll] using hi

/-- What has been read, with what is left, is an atom before `rest` or open parents before it. -/
def Spells (bs : Bytes) : Result ⊕ State → Prop
  | .inl r => ∀ a, r.outcome = .ok a → a.encode ++ r.rest = bs ∧ a.Fits
  | .inr t => spelling t.stack ++ t.rest = bs ∧ AllOpen t.stack

theorem spells_settle (hs : AllOpen s.stack) (ha : ∀ v ∈ a.visits s.stack.length, v.Fits) :
    Spells (spelling s.stack ++ a.encode ++ s.rest) (settle a s) := by
  have h := spells_attach hs ha
  unfold settle
  split
  · rename_i b hb
    obtain ⟨he, hf⟩ : b.encode = spelling s.stack ++ a.encode ∧ b.Fits := by
      simpa [hb, Progress.Spells] using h
    rintro c ⟨⟩
    exact ⟨by rw [he], hf⟩
  · rename_i stack hb
    obtain ⟨he, hf⟩ : spelling stack = spelling s.stack ++ a.encode ∧ AllOpen stack := by
      simpa [hb, Progress.Spells] using h
    exact ⟨by rw [he], hf⟩

theorem spells_step (hs : AllOpen s.stack) : Spells (spelling s.stack ++ s.rest) (step s) := by
  have h := act_step s
  generalize step s = x at h ⊢
  cases h with
  | cut => simp [refuse, Spells]
  | cutData => simp [refuse, Spells]
  | tooLarge => simp [refuse, Spells]
  | @leaf id data rest hr hn =>
    have h := spells_settle (s := ⟨s.stack, rest, data :: leafHeader id data.length :: s.pieces⟩)
      (a := .leaf id data) hs (by simpa [visits, Visit.Fits] using hn)
    simpa [hr, encode] using h
  | @empty id rest hr hd =>
    have h := spells_settle (s := ⟨s.stack, rest, parentHeader id 0 :: s.pieces⟩)
      (a := .parent id []) hs (by simpa [visits, visitsAll, Visit.Fits] using hd)
    simpa [hr, encode, encodeAll] using h
  | @push id n rest hr h0 hn hd =>
    exact ⟨by simp [spelling, hr, encodeAll], ⟨hd, hn, h0, by simp, by simp [visitsAll]⟩, hs⟩

/-- From any open parents on, an atom that is read whole is spelt by what there was to read. -/
theorem spells_run (hs : AllOpen s.stack) (h : (run s).outcome = .ok a) :
    a.encode ++ (run s).rest = spelling s.stack ++ s.rest ∧ a.Fits := by
  fun_induction run s with
  | case1 s r hr =>
    have hp := spells_step hs
    rw [hr] at hp
    exact hp a h
  | case2 s t hr ih =>
    have hp := spells_step hs
    rw [hr] at hp
    obtain ⟨he, ht⟩ := hp
    exact he ▸ ih ht h

/-- Nothing is recorded that was not there to read, and all of it unless the stream ends early. -/
def Records (bs : Bytes) : Result ⊕ State → Prop
  | .inl r => record r.pieces <+: bs ∧ (r.outcome ≠ .error .early → record r.pieces ++ r.rest = bs)
  | .inr t => record t.pieces ++ t.rest = bs

theorem records_refuse {f : ReadFault} : Records (record s.pieces ++ s.rest) (refuse f s) :=
  ⟨List.prefix_append .., fun _ => rfl⟩

theorem records_settle : Records (record s.pieces ++ s.rest) (settle a s) := by
  unfold settle
  split
  · exact ⟨List.prefix_append .., fun _ => rfl⟩
  · rfl

theorem records_step (s : State) : Records (record s.pieces ++ s.rest) (step s) := by
  have h := act_step s
  generalize step s = x at h ⊢
  cases h with
  | cut => exact ⟨List.prefix_append .., by simp⟩
  | @cutData id n rest hr =>
    refine ⟨?_, by simp⟩
    rw [record_cons, hr, ← List.append_assoc]
    exact List.prefix_append ..
  | @tooLarge h rest hr =>
    have hp := records_refuse (s := ⟨s.stack, rest, h.bytes :: s.pieces⟩) (f := .tooLarge h.id)
    simpa [hr] using hp
  | @leaf id data rest hr =>
    have hp := records_settle (s := ⟨s.stack, rest, data :: leafHeader id data.length :: s.pieces⟩)
      (a := .leaf id data)
    simpa [hr] using hp
  | @empty id rest hr =>
    have hp := records_settle (s := ⟨s.stack, rest, parentHeader id 0 :: s.pieces⟩)
      (a := .parent id [])
    simpa [hr] using hp
  | push hr => simp [Records, hr]

theorem records_run (s : State) : Records (record s.pieces ++ s.rest) (.inl (run s)) := by
  fun_induction run s with
  | case1 s r hr => exact hr ▸ records_step s
  | case2 s t hr ih =>
    have hp := records_step s
    rw [hr] at hp
    exact hp ▸ ih

end Reader
end NodeConsole.Atom
