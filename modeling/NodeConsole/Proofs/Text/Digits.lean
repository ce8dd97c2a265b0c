import Mathlib.Data.List.Induction
import NodeConsole.Text.Digits

/-! Digits are read as they are written. -/
namespace NodeConsole.Text

variable {n base : Nat} {s : List Char} {c : Char} {digit? : Char → Option Nat}

theorem hexDigit?_hexDigit (h : n < 16) : hexDigit? (hexDigit n) = some n := by
  decide +revert

theorem hexDigit?_toUpper (h : n < 16) : hexDigit? (hexDigit n).toUpper = some n := by
  decide +revert

/-- A hexadecimal digit, in either case. -/
def IsHexDigit (c : Char) : Prop :=
  ('0' ≤ c ∧ c ≤ '9') ∨ ('a' ≤ c ∧ c ≤ 'f') ∨ ('A' ≤ c ∧ c ≤ 'F')

instance : DecidablePred IsHexDigit := fun c =>
  inferInstanceAs (Decidable (('0' ≤ c ∧ c ≤ '9') ∨ ('a' ≤ c ∧ c ≤ 'f') ∨ ('A' ≤ c ∧ c ≤ 'F')))

theorem isSome_hexDigit : (hexDigit? c).isSome ↔ IsHexDigit c := by
  unfold hexDigit? IsHexDigit
  simp only [Bool.and_eq_true, decide_eq_true_eq]
  split
  · rename_i h
    exact ⟨fun _ => .inl h, fun _ => rfl⟩
  · rename_i h
    split
    · rename_i h'
      exact ⟨fun _ => .inr (.inl h'), fun _ => rfl⟩
    · rename_i h'
      split
      · rename_i h''
        exact ⟨fun _ => .inr (.inr h''), fun _ => rfl⟩
      · rename_i h''
        simp [h, h', h'']

theorem IsHexDigit.lt (h : IsHexDigit c) : c.toNat < 128 := by
  have hle {d : Char} (hd : d.toNat < 128) (hc : c ≤ d) : c.toNat < 128 :=
    Nat.lt_of_le_of_lt hc hd
  rcases h with ⟨-, h⟩ | ⟨-, h⟩ | ⟨-, h⟩
  · exact hle (by decide) h
  · exact hle (by decide) h
  · exact hle (by decide) h

theorem upper_ascii : ∀ i < 128, ∀ n ∈ hexDigit? (Char.ofNat i),
    n < 16 ∧ (hexDigit n).toUpper = (Char.ofNat i).toUpper := by
  decide

/-- A digit is shown in upper case, however it was written. -/
theorem upper_of_hexDigit (h : hexDigit? c = some n) :
    n < 16 ∧ (hexDigit n).toUpper = c.toUpper := by
  have hc : IsHexDigit c := isSome_hexDigit.mp (Option.isSome_of_eq_some h)
  have ho : Char.ofNat c.toNat = c := Char.ofNat_toNat c
  have hu := upper_ascii c.toNat hc.lt n
  rw [ho] at hu
  exact hu h

theorem valueOf_append (digit? : Char → Option Nat) (base : Nat) (c : Char) :
    valueOf? digit? base (s ++ [c]) =
      (do return (← valueOf? digit? base s) * base + (← digit? c)) := by
  simp [valueOf?]

/-- What is lost of a number are its upper digits. -/
theorem valueOf_hex (k n : Nat) : valueOf? hexDigit? 16 (hex k n) = some (n % Nat.pow 16 k) := by
  induction k generalizing n with
  | zero => exact congrArg some (Nat.mod_one n).symm
  | succ k ih =>
    have hd : hexDigit? (hexDigit (n % 16)) = some (n % 16) :=
      hexDigit?_hexDigit (Nat.mod_lt n (by decide))
    have hp : Nat.pow 16 (k + 1) = 16 * Nat.pow 16 k := Nat.mul_comm _ _
    have he : n / 16 % Nat.pow 16 k * 16 + n % 16 = n % Nat.pow 16 (k + 1) := by
      rw [hp, Nat.mod_mul]
      omega
    rw [hex, valueOf_append, ih, hd, ← he]
    rfl

/-- A number is all digits. -/
theorem isSome_of_valueOf (h : valueOf? digit? base s = some n) (hc : c ∈ s) :
    (digit? c).isSome := by
  induction s using List.reverseRecOn generalizing n with
  | nil => exact absurd hc List.not_mem_nil
  | append_singleton s d ih =>
    rw [valueOf_append] at h
    obtain ⟨m, hm, hd⟩ := Option.bind_eq_some_iff.mp h
    obtain ⟨k, hk, -⟩ := Option.bind_eq_some_iff.mp hd
    rcases List.mem_append.mp hc with hc | hc
    · exact ih hm hc
    · rw [List.mem_singleton.mp hc, hk]
      rfl

theorem mem_toDigits (hb : 1 < base) (hc : c ∈ Nat.toDigits base n) :
    ∃ m < base, c = m.digitChar := by
  induction n using Nat.strongRecOn with
  | ind n ih =>
    rcases Nat.lt_or_ge n base with hn | hn
    · rw [Nat.toDigits_of_lt_base hn, List.mem_singleton] at hc
      exact ⟨n, hn, hc⟩
    · rw [Nat.toDigits_of_base_le hb hn, List.mem_append, List.mem_singleton] at hc
      rcases hc with hc | hc
      · exact ih (n / base) (Nat.div_lt_self (by omega) hb) hc
      · exact ⟨n % base, Nat.mod_lt n (by omega), hc⟩

theorem decimalDigit?_digitChar (h : n < 10) : decimalDigit? n.digitChar = some n := by
  decide +revert

theorem valueOf_toDigits (n : Nat) :
    valueOf? decimalDigit? 10 (Nat.toDigits 10 n) = some n := by
  induction n using Nat.strongRecOn with
  | ind n ih =>
    rcases Nat.lt_or_ge n 10 with hn | hn
    · rw [Nat.toDigits_of_lt_base hn]
      simp [valueOf?, decimalDigit?_digitChar hn]
    · have hd : n % 10 < 10 := Nat.mod_lt n (by decide)
      have he : n / 10 * 10 + n % 10 = n := Nat.div_add_mod' n 10
      rw [Nat.toDigits_of_base_le (by decide) hn, valueOf_append, ih (n / 10) (by omega),
        decimalDigit?_digitChar hd]
      exact congrArg some he

theorem bounds_of_decimalDigit (h : (decimalDigit? c).isSome) : '0' ≤ c ∧ c ≤ '9' := by
  unfold decimalDigit? at h
  split at h
  · rename_i hc
    simpa using hc
  · contradiction

theorem isSome_of_mem_toDigits (hc : c ∈ Nat.toDigits 10 n) : (decimalDigit? c).isSome :=
  isSome_of_valueOf (valueOf_toDigits n) hc

theorem natural_toDigits (n : Nat) : natural? (Nat.toDigits 10 n) = some n := by
  have hn : Nat.toDigits 10 n ≠ [] := Nat.toDigits_ne_nil
  unfold natural? signedValue?
  split
  · rename_i r he
    have hp : (decimalDigit? '+').isSome := isSome_of_mem_toDigits (n := n) (by simp [he])
    contradiction
  · simp [hn, valueOf_toDigits]

theorem mem_natural (h : natural? s = some n) (hc : c ∈ s) :
    c = '+' ∨ (decimalDigit? c).isSome := by
  unfold natural? signedValue? at h
  split at h
  · dsimp only at h
    split at h
    · contradiction
    · exact (List.mem_cons.mp hc).imp id (isSome_of_valueOf h)
  · dsimp only at h
    split at h
    · contradiction
    · exact .inr (isSome_of_valueOf h hc)

def IsLowerHexDigit (c : Char) : Prop := ('0' ≤ c ∧ c ≤ '9') ∨ ('a' ≤ c ∧ c ≤ 'f')

instance : DecidablePred IsLowerHexDigit := fun c =>
  inferInstanceAs (Decidable (('0' ≤ c ∧ c ≤ '9') ∨ ('a' ≤ c ∧ c ≤ 'f')))

theorem isLowerHexDigit_hexDigit (h : n < 16) : IsLowerHexDigit (hexDigit n) := by
  decide +revert

theorem hexDigit_eq_digitChar (h : n < 16) : hexDigit n = n.digitChar := by
  decide +revert

theorem length_hex (k n : Nat) : (hex k n).length = k := by
  induction k generalizing n with
  | zero => rfl
  | succ k ih => rw [hex, List.length_append, ih, List.length_singleton]

theorem lower_of_mem_hex {k : Nat} (hc : c ∈ hex k n) : IsLowerHexDigit c := by
  induction k generalizing n with
  | zero => exact absurd hc List.not_mem_nil
  | succ k ih =>
    rcases List.mem_append.mp hc with hc | hc
    · exact ih hc
    · rw [List.mem_singleton.mp hc]
      exact isLowerHexDigit_hexDigit (Nat.mod_lt n (by decide))

theorem hex_zero (k : Nat) : hex k 0 = List.replicate k '0' := by
  induction k with
  | zero => rfl
  | succ k ih =>
    rw [hex, Nat.zero_div, ih, List.replicate_succ']
    rfl

/-- A number that fits is written with no more digits than the least. -/
theorem hexAtLeast_eq_hex {k : Nat} (h : n < Nat.pow 16 (k + 1)) :
    hexAtLeast (k + 1) n = hex (k + 1) n := by
  induction k generalizing n with
  | zero =>
    have hn : n < 16 := h
    rw [hexAtLeast, Nat.toDigits_of_lt_base hn, hex, Nat.mod_eq_of_lt hn,
      hexDigit_eq_digitChar hn]
    rfl
  | succ k ih =>
    rcases Nat.lt_or_ge n 16 with hn | hn
    · rw [hexAtLeast, Nat.toDigits_of_lt_base hn, hex, Nat.mod_eq_of_lt hn,
        hexDigit_eq_digitChar hn, Nat.div_eq_of_lt hn, hex_zero]
      rfl
    · have hq : n / 16 < Nat.pow 16 (k + 1) := Nat.div_lt_of_lt_mul (Nat.mul_comm .. ▸ h)
      have hl : (Nat.toDigits 16 n).length = (Nat.toDigits 16 (n / 16)).length + 1 := by
        rw [Nat.toDigits_of_base_le (by decide) hn, List.length_append, List.length_singleton]
      rw [hex, ← ih hq, hexAtLeast, hexAtLeast, hl, Nat.add_sub_add_right,
        Nat.toDigits_of_base_le (by decide) hn, hexDigit_eq_digitChar (Nat.mod_lt n (by decide)),
        List.append_assoc]

end NodeConsole.Text
