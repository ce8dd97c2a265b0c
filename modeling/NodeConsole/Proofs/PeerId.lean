import NodeConsole.PeerId
import NodeConsole.Proofs.Text.Blank
import NodeConsole.Proofs.Text.Digits

/-! Identifiers read back from pairs of digits. -/
namespace NodeConsole

namespace PeerId
open Text (hexDigit hexDigit? hexDigit?_toUpper isBlank signedValue? valueOf? trim_eq_self)

variable {s : List Char} {a b : Char} {n : Nat}

/-- A plus sign stands for a zero. -/
def digit (c : Char) : Char := if c = '+' then '0' else c

theorem signedValue_pair (a b : Char) :
    signedValue? hexDigit? 16 [a, b] = valueOf? hexDigit? 16 [digit a, b] := by
  unfold signedValue? digit
  split
  · rename_i r he
    obtain ⟨rfl, rfl⟩ := List.cons.inj he
    rw [if_pos rfl]
    cases hb : hexDigit? b <;> simp [valueOf?, hb, show hexDigit? '0' = some 0 from rfl]
  · rename_i hne
    have ha : a ≠ '+' := by
      rintro rfl
      exact hne _ rfl
    rw [if_neg ha]
    rfl

theorem pair_eq_some_iff : signedValue? hexDigit? 16 [a, b] = some n ↔
    ∃ m k, hexDigit? (digit a) = some m ∧ hexDigit? b = some k ∧ n = m * 16 + k := by
  rw [signedValue_pair]
  cases ha : hexDigit? (digit a) with
  | none => simp [valueOf?, ha]
  | some m =>
    cases hb : hexDigit? b with
    | none => simp [valueOf?, ha, hb]
    | some k => simp [valueOf?, ha, hb, eq_comm]

theorem pairs_cons : pairs? (a :: b :: s) =
    (signedValue? hexDigit? 16 [a, b]).bind fun n => (pairs? s).map (n.toUInt8 :: ·) := by
  rw [pairs?]
  cases signedValue? hexDigit? 16 [a, b] with
  | none => rfl
  | some n => cases pairs? s <;> rfl

theorem upperHexByte_eq (b : UInt8) : upperHexByte b =
    [(hexDigit (b.toNat / 16 % 16)).toUpper, (hexDigit (b.toNat % 16)).toUpper] := rfl

theorem upperHexByte_pair {m k : Nat} (hm : m < 16) (hk : k < 16) :
    upperHexByte (m * 16 + k).toUInt8 = [(hexDigit m).toUpper, (hexDigit k).toUpper] := by
  have hn : (m * 16 + k).toUInt8.toNat = m * 16 + k := by
    rw [Nat.toUInt8_eq, UInt8.toNat_ofNat']
    omega
  have hq : (m * 16 + k) / 16 % 16 = m := by omega
  have hr : (m * 16 + k) % 16 = k := by omega
  rw [upperHexByte_eq, hn, hq, hr]

theorem mem_upperHexByte {b : UInt8} {c : Char} (hc : c ∈ upperHexByte b) :
    ∃ n < 16, c = (hexDigit n).toUpper := by
  rw [upperHexByte_eq, List.mem_cons, List.mem_singleton] at hc
  obtain rfl | rfl := hc
  · exact ⟨_, Nat.mod_lt _ (by decide), rfl⟩
  · exact ⟨_, Nat.mod_lt _ (by decide), rfl⟩

theorem upper_ne_plus {n : Nat} (h : n < 16) : (hexDigit n).toUpper ≠ '+' := by
  decide +revert

theorem isBlank_upper {n : Nat} (h : n < 16) : isBlank (hexDigit n).toUpper = false := by
  decide +revert

theorem signedValue_upperHexByte (b : UInt8) :
    signedValue? hexDigit? 16 (upperHexByte b) = some b.toNat := by
  have hb : b.toNat < 256 := b.toNat_lt
  have hn : b.toNat / 16 % 16 < 16 := Nat.mod_lt _ (by decide)
  have hm : b.toNat % 16 < 16 := Nat.mod_lt _ (by decide)
  have hd : digit (hexDigit (b.toNat / 16 % 16)).toUpper = (hexDigit (b.toNat / 16 % 16)).toUpper :=
    if_neg (upper_ne_plus hn)
  rw [upperHexByte_eq, pair_eq_some_iff, hd]
  exact ⟨_, _, hexDigit?_toUpper hn, hexDigit?_toUpper hm, by omega⟩

theorem pairs_text (bs : Text.Bytes) : pairs? (bs.flatMap upperHexByte) = some bs := by
  induction bs with
  | nil => rfl
  | cons b bs ih =>
    have hv := signedValue_upperHexByte b
    rw [upperHexByte_eq] at hv
    rw [List.flatMap_cons, upperHexByte_eq, List.cons_append, List.cons_append,
      List.nil_append, pairs_cons, hv, ih]
    simp

theorem length_flatMap_upperHexByte (bs : Text.Bytes) :
    (bs.flatMap upperHexByte).length = 2 * bs.length := by
  induction bs with
  | nil => rfl
  | cons b bs ih =>
    rw [List.flatMap_cons, List.length_append, ih, upperHexByte_eq, List.length_cons]
    simp only [List.length_cons, List.length_nil]
    omega

/-- A text without the white space around it. -/
def core (t : String) : List Char := Text.trim t.toList

variable {t : String} {id : PeerId} {bs : Text.Bytes}

theorem ofText_eq (t : String) :
    ofText? t = if (core t).length = 32 then (pairs? (core t)).bind ofBytes? else none := by
  have ho : ofText? t = guard ((core t).length = 32) >>= fun _ => pairs? (core t) >>= ofBytes? := rfl
  by_cases hl : (core t).length = 32
  · have hg : (guard ((core t).length = 32) : Option Unit) = some () := if_pos hl
    rw [ho, hg, if_pos hl]
    rfl
  · have hg : (guard ((core t).length = 32) : Option Unit) = none := if_neg hl
    rw [ho, hg, if_neg hl]
    rfl

theorem ofBytes_eq_some_iff : ofBytes? bs = some id ↔ id.bytes = bs := by
  unfold ofBytes?
  constructor
  · intro h
    split at h
    · rw [← Option.some.inj h]
    · contradiction
  · rintro rfl
    exact dif_pos id.length_bytes

theorem ofText_eq_some_iff :
    ofText? t = some id ↔ (core t).length = 32 ∧ pairs? (core t) = some id.bytes := by
  rw [ofText_eq, Option.ite_none_right_eq_some, Option.bind_eq_some_iff]
  constructor
  · rintro ⟨hl, bs, hp, hb⟩
    exact ⟨hl, (ofBytes_eq_some_iff.mp hb).symm ▸ hp⟩
  · rintro ⟨hl, hp⟩
    exact ⟨hl, id.bytes, hp, ofBytes_eq_some_iff.mpr rfl⟩

theorem ofText_text (id : PeerId) : ofText? id.text = some id := by
  have ht : core id.text = id.bytes.flatMap upperHexByte := by
    rw [core, text, String.toList_ofList]
    apply trim_eq_self
    intro c hc
    obtain ⟨b, -, hb⟩ := List.mem_flatMap.mp hc
    obtain ⟨n, hn, rfl⟩ := mem_upperHexByte hb
    exact isBlank_upper hn
  rw [ofText_eq_some_iff, ht, length_flatMap_upperHexByte, id.length_bytes]
  exact ⟨rfl, pairs_text id.bytes⟩

end PeerId
end NodeConsole
