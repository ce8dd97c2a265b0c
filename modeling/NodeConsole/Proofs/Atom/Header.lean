import Mathlib.Data.Nat.Bitwise
import NodeConsole.Atom.Reader

/-! Headers read back from their bytes. -/
namespace NodeConsole.Atom
open Text (Bytes)

variable {id : AtomId} {h : Reader.Header} {n : Nat} {s rest : Bytes}

theorem or_bytes (n : Nat) :
    n % 2 ^ 8 ||| n / 2 ^ 8 % 2 ^ 8 * 2 ^ 8 ||| n / 2 ^ 16 % 2 ^ 8 * 2 ^ 16
      ||| n / 2 ^ 24 % 2 ^ 8 * 2 ^ 24 = n % 2 ^ 32 := by
  apply Nat.eq_of_testBit_eq
  intro i
  simp only [Nat.testBit_lor, Nat.testBit_mod_two_pow, Nat.testBit_mul_two_pow,
    Nat.testBit_div_two_pow]
  rcases Nat.lt_or_ge i 8 with h8 | h8
  · simp [h8, show i < 32 by omega, show ¬ 8 ≤ i by omega, show ¬ 16 ≤ i by omega,
      show ¬ 24 ≤ i by omega]
  rcases Nat.lt_or_ge i 16 with h16 | h16
  · simp [h8, show i < 32 by omega, show ¬ i < 8 by omega, show ¬ 16 ≤ i by omega,
      show ¬ 24 ≤ i by omega, show i - 8 < 8 by omega]
  rcases Nat.lt_or_ge i 24 with h24 | h24
  · simp [h16, show i < 32 by omega, show ¬ i < 8 by omega, show ¬ 24 ≤ i by omega,
      show ¬ i - 8 < 8 by omega, show i - 16 < 8 by omega]
  · have he : i - 24 < 8 ↔ i < 32 := by omega
    simp [h24, he, show ¬ i < 8 by omega, show ¬ i - 8 < 8 by omega,
      show ¬ i - 16 < 8 by omega]

theorem byte_mul_mod (b : Nat) {k : Nat} (hk : k ≤ 2 ^ 24) :
    b % 256 * k % 4294967296 = b % 256 * k := by
  apply Nat.mod_eq_of_lt
  calc b % 256 * k ≤ 255 * 2 ^ 24 := Nat.mul_le_mul (by omega) hk
    _ < 4294967296 := by decide

theorem ofWord_word (n : UInt32) :
    ofWord n.toUInt8 (n >>> 8).toUInt8 (n >>> 16).toUInt8 (n >>> 24).toUInt8 = n := by
  apply UInt32.toNat_inj.mp
  have hb := or_bytes n.toNat
  have h8 := byte_mul_mod (n.toNat / 256) (k := 256) (by decide)
  have h16 := byte_mul_mod (n.toNat / 65536) (k := 65536) (by decide)
  have h24 := byte_mul_mod (n.toNat / 16777216) (k := 16777216) (by decide)
  simp only [ofWord, UInt32.toNat_or, UInt32.toNat_shiftLeft, UInt8.toNat_toUInt32,
    UInt32.toNat_toUInt8, UInt32.toNat_shiftRight, Nat.shiftLeft_eq, Nat.shiftRight_eq_div_pow]
  simpa [h8, h16, h24] using hb

theorem toNat_ofWord (a b c d : UInt8) :
    (ofWord a b c d).toNat =
      a.toNat + b.toNat * 256 + c.toNat * 65536 + d.toNat * 16777216 := by
  have ha := a.toNat_lt
  have hb := b.toNat_lt
  have hc := c.toNat_lt
  have hd := d.toNat_lt
  have hor := or_bytes (a.toNat + b.toNat * 256 + c.toNat * 65536 + d.toNat * 16777216)
  have h0 : (a.toNat + b.toNat * 256 + c.toNat * 65536 + d.toNat * 16777216) % 2 ^ 8 =
      a.toNat := by omega
  have h8 : (a.toNat + b.toNat * 256 + c.toNat * 65536 + d.toNat * 16777216) / 2 ^ 8 % 2 ^ 8 =
      b.toNat := by omega
  have h16 : (a.toNat + b.toNat * 256 + c.toNat * 65536 + d.toNat * 16777216) / 2 ^ 16 % 2 ^ 8 =
      c.toNat := by omega
  have h24 : (a.toNat + b.toNat * 256 + c.toNat * 65536 + d.toNat * 16777216) / 2 ^ 24 % 2 ^ 8 =
      d.toNat := by omega
  rw [h0, h8, h16, h24, Nat.mod_eq_of_lt (by omega)] at hor
  simp only [ofWord, UInt32.toNat_or, UInt32.toNat_shiftLeft, UInt8.toNat_toUInt32,
    Nat.shiftLeft_eq]
  have m8 : b.toNat * 256 % 4294967296 = b.toNat * 256 := Nat.mod_eq_of_lt (by omega)
  have m16 : c.toNat * 65536 % 4294967296 = c.toNat * 65536 := Nat.mod_eq_of_lt (by omega)
  have m24 : d.toNat * 16777216 % 4294967296 = d.toNat * 16777216 := Nat.mod_eq_of_lt (by omega)
  simpa [m8, m16, m24] using hor

/-- The byte that begins at bit `k`. -/
theorem toNat_byte (w k : UInt32) (hk : k.toNat < 32) :
    (w >>> k).toUInt8.toNat = w.toNat / 2 ^ k.toNat % 256 := by
  rw [UInt32.toNat_toUInt8, UInt32.toNat_shiftRight, Nat.mod_eq_of_lt hk,
    Nat.shiftRight_eq_div_pow]

theorem word_ofWord (a b c d : UInt8) : word (ofWord a b c d) = [a, b, c, d] := by
  have ha := a.toNat_lt
  have hb := b.toNat_lt
  have hc := c.toNat_lt
  have hd := d.toNat_lt
  have hn := toNat_ofWord a b c d
  have h0 : (ofWord a b c d).toUInt8 = a := by
    apply UInt8.toNat_inj.mp
    rw [UInt32.toNat_toUInt8, hn]
    omega
  have h8 : (ofWord a b c d >>> 8).toUInt8 = b := by
    apply UInt8.toNat_inj.mp
    rw [toNat_byte _ 8 (by decide), hn, show (8 : UInt32).toNat = 8 from rfl]
    omega
  have h16 : (ofWord a b c d >>> 16).toUInt8 = c := by
    apply UInt8.toNat_inj.mp
    rw [toNat_byte _ 16 (by decide), hn, show (16 : UInt32).toNat = 16 from rfl]
    omega
  have h24 : (ofWord a b c d >>> 24).toUInt8 = d := by
    apply UInt8.toNat_inj.mp
    rw [toNat_byte _ 24 (by decide), hn, show (24 : UInt32).toNat = 24 from rfl]
    omega
  rw [word, h0, h8, h16, h24]

theorem toNat_or_parentBit (hn : n < 2 ^ 31) :
    (n.toUInt32 ||| parentBit).toNat = 2 ^ 31 + n := by
  have hm : n % 4294967296 = n := Nat.mod_eq_of_lt (by omega)
  have he : (n.toUInt32 ||| parentBit).toNat = 2 ^ 31 ||| n := by
    simp [parentBit, hm, Nat.or_comm]
  simpa [he] using (Nat.two_pow_add_eq_or_of_lt hn 1).symm

@[simp] theorem Reader.Header.next?_bytes (h : Reader.Header) (s : Bytes) :
    Reader.Header.next? (h.bytes ++ s) = some (h, s) := by
  simp [Reader.Header.bytes, AtomId.bytes, word, Reader.Header.next?, ofWord_word]

theorem Reader.Header.count?_leaf (hn : n < 2 ^ 31) :
    Reader.Header.count? ⟨id, n.toUInt32⟩ = none := by
  have hm : n % 4294967296 = n := Nat.mod_eq_of_lt (by omega)
  simp [Reader.Header.count?, UInt32.le_iff_toNat_le, parentBit, hm]
  omega

theorem Reader.Header.count?_parent (hn : n < 2 ^ 31) :
    Reader.Header.count? ⟨id, n.toUInt32 ||| parentBit⟩ = some n := by
  have hv := toNat_or_parentBit hn
  have hle : parentBit ≤ n.toUInt32 ||| parentBit := by
    rw [UInt32.le_iff_toNat_le, hv]
    exact Nat.le_add_right (2 ^ 31) n
  have hs : ((n.toUInt32 ||| parentBit) - parentBit).toNat = n := by
    rw [UInt32.toNat_sub_of_le _ _ hle, hv]
    exact Nat.add_sub_cancel_left (2 ^ 31) n
  rw [Reader.Header.count?, if_pos hle, hs]

/-- Any header reads as a leaf's, and one with the top bit set as a parent's too. -/
theorem Reader.Header.bytes_eq_leaf (h : Reader.Header) :
    h.bytes = leafHeader h.id h.size.toNat := by
  simp [bytes, leafHeader]

theorem Reader.Header.bytes_eq_parent (hc : h.count? = some n) :
    h.bytes = parentHeader h.id n := by
  obtain ⟨hle, rfl⟩ : parentBit ≤ h.size ∧ (h.size - parentBit).toNat = n := by
    simpa [count?] using hc
  have hlt := h.size.toNat_lt
  have hsub := UInt32.toNat_sub_of_le _ _ hle
  have hbit : parentBit.toNat = 2 ^ 31 := rfl
  have hle' := UInt32.le_iff_toNat_le.mp hle
  have hs : (h.size - parentBit).toNat.toUInt32 ||| parentBit = h.size := by
    apply UInt32.toNat_inj.mp
    rw [toNat_or_parentBit (by omega), hsub]
    omega
  rw [bytes, parentHeader, hs]

theorem Reader.Header.eq_of_next? (hn : Reader.Header.next? s = some (h, rest)) :
    s = h.bytes ++ rest := by
  unfold next? at hn
  split at hn
  · obtain ⟨rfl, rfl⟩ := Prod.mk.inj (Option.some.inj hn)
    simp [bytes, AtomId.bytes, word_ofWord]
  · contradiction

theorem Reader.Header.length_of_next? (hn : Reader.Header.next? s = none) : s.length < 8 := by
  unfold next? at hn
  split at hn
  · contradiction
  · rename_i hs
    match s, hs with
    | [], _ | [_], _ | [_, _], _ | [_, _, _], _ | [_, _, _, _], _ | [_, _, _, _, _], _
    | [_, _, _, _, _, _], _ | [_, _, _, _, _, _, _], _ => simp
    | a :: b :: c :: d :: x :: y :: z :: w :: s, hs => exact absurd rfl (hs a b c d x y z w s)

theorem toNat_toUInt32 (hn : n < 2 ^ 31) : n.toUInt32.toNat = n := by
  simp
  omega

end NodeConsole.Atom
