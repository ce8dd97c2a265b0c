import NodeConsole.Host
import NodeConsole.Proofs.Text.Blank
import NodeConsole.Proofs.Text.Digits

/-! The forms of an address. No other text is read as one. -/
namespace NodeConsole.Host
open Text (isBlank Tight decimalDigit?)

variable {default n : UInt16} {s a b p name : List Char} {c : Char} {h : Host}
  {port : Option UInt16}

theorem cut_eq_some_iff : cut? c s = some (a, b) ↔ s = a ++ c :: b ∧ c ∉ a := by
  induction s generalizing a with
  | nil => simp [cut?]
  | cons d s ih =>
    by_cases hd : d = c
    · subst hd
      cases a with
      | nil => simp [cut?, eq_comm]
      | cons e a =>
        simp only [cut?, List.cons_append, List.cons.injEq, List.mem_cons, not_or]
        constructor
        · simp
        · rintro ⟨⟨rfl, -⟩, he, -⟩
          exact absurd rfl he
    · cases a with
      | nil => simp [cut?, hd]
      | cons e a =>
        simp only [cut?, if_neg hd, Option.map_eq_some_iff, Prod.exists, Prod.mk.injEq,
          List.cons_append, List.cons.injEq, List.mem_cons, not_or]
        constructor
        · rintro ⟨x, y, hx, ⟨rfl, rfl⟩, rfl⟩
          obtain ⟨rfl, hc⟩ := ih.mp hx
          exact ⟨⟨rfl, rfl⟩, Ne.symm hd, hc⟩
        · rintro ⟨⟨rfl, rfl⟩, -, hc⟩
          exact ⟨a, b, ih.mpr ⟨rfl, hc⟩, ⟨rfl, rfl⟩, rfl⟩

theorem cut_eq_none_iff : cut? c s = none ↔ c ∉ s := by
  induction s with
  | nil => simp [cut?]
  | cons d s ih =>
    by_cases hd : d = c
    · simp [cut?, hd]
    · simp [cut?, hd, ih, Ne.symm hd]

theorem port_eq_some_iff : port? p = some n ↔ Text.natural? p = some n.toNat ∧ n ≠ 0 := by
  simp only [port?, Option.bind_eq_bind, Option.bind_eq_some_iff]
  constructor
  · rintro ⟨m, hm, h⟩
    split at h
    · rename_i hb
      obtain rfl : m.toUInt16 = n := Option.some.inj h
      have ht : m.toUInt16.toNat = m := UInt16.toNat_ofNat_of_lt' hb.2
      refine ⟨hm.trans (congrArg some ht.symm), ?_⟩
      intro h0
      rw [h0] at ht
      exact absurd ht (Nat.ne_of_lt hb.1)
    · contradiction
  · rintro ⟨hm, hn⟩
    refine ⟨n.toNat, hm, ?_⟩
    have hp : 0 < n.toNat := Nat.pos_of_ne_zero fun h0 => hn (UInt16.toNat_inj.mp h0)
    rw [if_pos ⟨hp, n.toNat_lt⟩]
    exact congrArg some n.ofNat_toNat

theorem isBlank_digit (h : (decimalDigit? c).isSome) : c ≠ ':' ∧ isBlank c = false := by
  obtain ⟨hl, hu⟩ := Text.bounds_of_decimalDigit h
  have hl : 48 ≤ c.toNat := hl
  have hu : c.toNat ≤ 57 := hu
  constructor
  · rintro rfl
    exact absurd hu (by decide)
  · simp [isBlank]
    omega

/-- Nothing in a port could be taken for an end of it. -/
theorem mem_port (hp : port? p = some n) (hc : c ∈ p) : c ≠ ':' ∧ isBlank c = false := by
  rcases Text.mem_natural (port_eq_some_iff.mp hp).1 hc with rfl | hd
  · decide
  · exact isBlank_digit hd

/-- What may follow a name. -/
inductive Suffix : List Char → Option UInt16 → Prop
  | none : Suffix [] none
  | port {p : List Char} {n : UInt16} (hp : port? p = some n) : Suffix (':' :: p) (some n)

/-- A name that can stand without brackets. -/
structure Plain (name : List Char) : Prop where
  ne_nil : name ≠ []
  head : name.head? ≠ some '['
  blankless : ∀ c ∈ name, isBlank c = false

/-- The texts for a name, with or without a port. -/
inductive Form (name : List Char) : Option UInt16 → List Char → Prop
  | bracketed {e : List Char} {port : Option UInt16} (hn : name ≠ []) (hb : ']' ∉ name)
      (he : Suffix e port) : Form name port ('[' :: (name ++ ']' :: e))
  | named {p : List Char} {n : UInt16} (hn : Plain name) (hc : ':' ∉ name)
      (hp : port? p = some n) : Form name (some n) (name ++ ':' :: p)
  /-- A single colon would set off a port. -/
  | alone (hn : Plain name) (hc : name.count ':' ≠ 1) : Form name none name

theorem form_bracket_iff : Form name port ('[' :: s) ↔
    ∃ e, s = name ++ ']' :: e ∧ ']' ∉ name ∧ Suffix e port ∧ name ≠ [] := by
  constructor
  · intro hf
    generalize ht : '[' :: s = t at hf
    cases hf with
    | @bracketed e port hn hb he => exact ⟨e, (List.cons.inj ht).2, hb, he, hn⟩
    | named hn =>
      obtain ⟨c, cs, rfl⟩ := List.exists_cons_of_ne_nil hn.ne_nil
      exact absurd (congrArg some (List.cons.inj ht).1.symm) hn.head
    | alone hn => exact absurd (ht ▸ rfl) hn.head
  · rintro ⟨e, rfl, hb, he, hn⟩
    exact .bracketed hn hb he

theorem Suffix.blankless {e : List Char} (hs : Suffix e port) (hc : c ∈ e) :
    isBlank c = false := by
  cases hs with
  | none => contradiction
  | port hp =>
    rcases List.mem_cons.mp hc with rfl | hc
    · decide
    · exact (mem_port hp hc).2

theorem Form.ne_nil (hf : Form name port s) : name ≠ [] := by
  cases hf with
  | bracketed hn => exact hn
  | named hn | alone hn => exact hn.ne_nil

theorem Form.mem (hf : Form name port s) (hc : c ∈ name) : c ∈ s := by
  cases hf with
  | bracketed | named => simp [hc]
  | alone => exact hc

theorem Form.port_ne_zero (hf : Form name (some n) s) : n ≠ 0 := by
  cases hf with
  | bracketed _ _ he =>
    cases he with
    | port hp => exact (port_eq_some_iff.mp hp).2
  | named _ _ hp => exact (port_eq_some_iff.mp hp).2

theorem Form.tight (hf : Form name port s) : Text.Tight s := by
  cases hf with
  | @bracketed e port hn hb he =>
    refine Text.Tight.behind (.of_blankless (by simp) ?_) (by decide) name
    intro c hc
    rcases List.mem_cons.mp hc with rfl | hc
    · decide
    · exact he.blankless hc
  | @named p n hn _ hp =>
    refine .of_blankless (by simp) ?_
    intro c hc
    rcases List.mem_append.mp hc with hc | hc
    · exact hn.blankless c hc
    · exact (Suffix.port hp).blankless hc
  | alone hn => exact .of_blankless hn.ne_nil hn.blankless

/-- What is not blank without the name is not blank with it. -/
theorem Form.blankless_iff (hf : Form name port s) :
    (∀ c ∈ s, isBlank c = false) ↔ ∀ c ∈ name, isBlank c = false := by
  cases hf with
  | @bracketed e port hn hb he =>
    constructor
    · intro h c hc
      exact h c (by simp [hc])
    · intro h c hc
      rcases List.mem_cons.mp hc with rfl | hc
      · decide
      rcases List.mem_append.mp hc with hc | hc
      · exact h c hc
      rcases List.mem_cons.mp hc with rfl | hc
      · decide
      · exact he.blankless hc
  | @named p n hn _ hp =>
    constructor
    · exact fun _ => hn.blankless
    · intro h c hc
      rcases List.mem_append.mp hc with hc | hc
      · exact h c hc
      · exact (Suffix.port hp).blankless hc
  | alone => exact Iff.rfl

/-- The port after a closing bracket. -/
def suffixed? (default : UInt16) : List Char → Option UInt16
  | [] => some default
  | ':' :: p => port? p
  | _ => none

theorem suffixed_eq_some_iff :
    suffixed? default s = some n ↔ ∃ port, Suffix s port ∧ n = port.getD default := by
  constructor
  · intro h
    unfold suffixed? at h
    split at h
    · exact ⟨none, .none, (Option.some.inj h).symm⟩
    · exact ⟨some n, .port h, rfl⟩
    · contradiction
  · rintro ⟨port, hs, rfl⟩
    cases hs with
    | none => rfl
    | port hp => exact hp

theorem bracketed_eq : bracketed? default s = (cut? ']' s).bind fun x =>
    (suffixed? default x.2).bind fun port =>
      if x.1 = [] then none else some ⟨String.ofList x.1, port⟩ := by
  unfold bracketed? suffixed?
  cases cut? ']' s with
  | none => rfl
  | some x =>
    obtain ⟨name, e⟩ := x
    rcases e with _ | ⟨c, e⟩
    · simp
    · by_cases hc : c = ':' <;> simp [hc]

/-- A name without brackets, and its port. -/
def parted? (default : UInt16) (s : List Char) : Option (List Char × UInt16) :=
  match cut? ':' s with
  | some (name, p) => if ':' ∈ p then some (s, default) else (port? p).map (name, ·)
  | none => some (s, default)

theorem plain_eq : plain? default s = (parted? default s).bind fun x =>
    if x.1 = [] ∨ x.1.any isBlank then none else some ⟨String.ofList x.1, x.2⟩ := by
  unfold plain? parted?
  cases cut? ':' s with
  | none => simp
  | some x => simp; split <;> simp

theorem parted_eq_some_iff (hs : s.head? ≠ some '[') :
    (parted? default s = some (name, n) ∧ name ≠ [] ∧ ∀ c ∈ name, isBlank c = false) ↔
      ∃ port, Form name port s ∧ n = port.getD default := by
  constructor
  · rintro ⟨h, hn, hb⟩
    unfold parted? at h
    split at h
    · rename_i x p hx
      obtain ⟨rfl, hc⟩ := cut_eq_some_iff.mp hx
      split at h
      · rename_i hp
        obtain ⟨rfl, rfl⟩ := Prod.mk.inj (Option.some.inj h)
        have hp : 0 < p.count ':' := List.count_pos_iff.mpr hp
        refine ⟨none, .alone ⟨hn, hs, hb⟩ ?_, rfl⟩
        rw [List.count_append, List.count_cons_self]
        omega
      · obtain ⟨n, hp, he⟩ := Option.map_eq_some_iff.mp h
        obtain ⟨rfl, rfl⟩ := Prod.mk.inj he
        refine ⟨some n, .named ⟨hn, ?_, hb⟩ hc hp, rfl⟩
        cases x with
        | nil => contradiction
        | cons c x => simpa using hs
    · rename_i hc
      obtain ⟨rfl, rfl⟩ := Prod.mk.inj (Option.some.inj h)
      have hc : s.count ':' = 0 := List.count_eq_zero.mpr (cut_eq_none_iff.mp hc)
      exact ⟨none, .alone ⟨hn, hs, hb⟩ (by omega), rfl⟩
  · rintro ⟨port, hf, rfl⟩
    cases hf with
    | bracketed => simp at hs
    | @named p n hn hc hp =>
      have hx : cut? ':' (name ++ ':' :: p) = some (name, p) := cut_eq_some_iff.mpr ⟨rfl, hc⟩
      have hq : ':' ∉ p := fun hm => (mem_port hp hm).1 rfl
      refine ⟨?_, hn.ne_nil, hn.blankless⟩
      simp [parted?, hx, hq, hp]
    | alone hn hc =>
      refine ⟨?_, hn.ne_nil, hn.blankless⟩
      unfold parted?
      split
      · rename_i x p hx
        obtain ⟨he, hx⟩ := cut_eq_some_iff.mp hx
        have hp : ':' ∈ p := by
          rw [he, List.count_append, List.count_cons_self, List.count_eq_zero.mpr hx] at hc
          exact List.count_pos_iff.mp (by omega)
        rw [if_pos hp]
        rfl
      · rfl

/-- A text is an address if it has a form between its blanks. Its port is the one that is given, if
one is. -/
theorem ofText_eq_some_iff {s : String} : ofText? default s = some h ↔
    ∃ name port, Form name port (Text.trim s.toList) ∧
      h = ⟨String.ofList name, port.getD default⟩ := by
  unfold ofText?
  split
  · rename_i r hr
    rw [hr, bracketed_eq]
    simp only [Option.bind_eq_some_iff, Prod.exists, cut_eq_some_iff, suffixed_eq_some_iff,
      form_bracket_iff]
    constructor
    · rintro ⟨name, e, ⟨rfl, hb⟩, q, ⟨port, he, rfl⟩, h⟩
      split at h
      · contradiction
      · rename_i hn
        exact ⟨name, port, ⟨e, rfl, hb, he, hn⟩, (Option.some.inj h).symm⟩
    · rintro ⟨name, port, ⟨e, rfl, hb, he, hn⟩, rfl⟩
      exact ⟨name, e, ⟨rfl, hb⟩, _, ⟨port, he, rfl⟩, if_neg hn⟩
  · rename_i hr
    have hs : (Text.trim s.toList).head? ≠ some '[' := by
      intro hh
      obtain ⟨r, ht⟩ := List.head?_eq_some_iff.mp hh
      exact hr r ht
    rw [plain_eq]
    simp only [Option.bind_eq_some_iff, Prod.exists]
    constructor
    · rintro ⟨name, q, hq, h⟩
      split at h
      · contradiction
      · rename_i hn
        obtain ⟨port, hf, rfl⟩ := (parted_eq_some_iff hs).mp ⟨hq, by simpa using hn⟩
        exact ⟨name, port, hf, (Option.some.inj h).symm⟩
    · rintro ⟨name, port, hf, rfl⟩
      obtain ⟨hq, hn, hb⟩ := (parted_eq_some_iff hs).mpr ⟨port, hf, rfl⟩
      exact ⟨name, _, hq, if_neg (by simpa [hn] using hb)⟩

end NodeConsole.Host
