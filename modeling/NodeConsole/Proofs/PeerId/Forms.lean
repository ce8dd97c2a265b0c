import NodeConsole.Config.Document
import NodeConsole.Proofs.Json.Reading
import NodeConsole.Proofs.PeerId
import NodeConsole.Proofs.Text.Utf8

/-! Which texts are read as identifiers. -/
namespace NodeConsole
open Text (Bytes IsHexDigit hexDigit? isSome_hexDigit signedValue? upper_of_hexDigit)

namespace PeerId

variable {s : List Char} {bs : Bytes} {a b : Char} {n : Nat}

/-- At an even place a plus sign may stand for a digit. -/
def Legible (s : List Char) : Prop :=
  ∀ i c, s[i]? = some c → IsHexDigit c ∨ (c = '+' ∧ i % 2 = 0)

theorem isHexDigit_digit (a : Char) : IsHexDigit (digit a) ↔ IsHexDigit a ∨ a = '+' := by
  unfold digit
  split
  · rename_i ha
    exact ⟨fun _ => .inr ha, fun _ => by decide⟩
  · rename_i ha
    exact ⟨.inl, fun h => h.resolve_right ha⟩

theorem legible_cons : Legible (a :: b :: s) ↔ IsHexDigit (digit a) ∧ IsHexDigit b ∧ Legible s := by
  constructor
  · intro h
    refine ⟨?_, ?_, ?_⟩
    · exact (isHexDigit_digit a).mpr ((h 0 a rfl).imp_right And.left)
    · exact (h 1 b rfl).resolve_right fun hb => by omega
    · intro i c hc
      have hi := h (i + 2) c hc
      rwa [Nat.add_mod_right] at hi
  · rintro ⟨ha, hb, hs⟩ i c hc
    match i with
    | 0 =>
      obtain rfl : a = c := Option.some.inj hc
      exact ((isHexDigit_digit a).mp ha).imp_right fun he => ⟨he, rfl⟩
    | 1 =>
      obtain rfl : b = c := Option.some.inj hc
      exact .inl hb
    | i + 2 =>
      rw [Nat.add_mod_right]
      exact hs i c hc

/-- How a character comes back. -/
def shown (c : Char) : Char := (digit c).toUpper

theorem digit_of_isHexDigit {c : Char} (h : IsHexDigit c) : digit c = c := by
  apply if_neg
  rintro rfl
  exact absurd h (by decide)

theorem pairs_eq_some (h : pairs? s = some bs) :
    s.length = 2 * bs.length ∧ Legible s ∧ bs.flatMap upperHexByte = s.map shown := by
  induction s using pairs?.induct generalizing bs with
  | case1 =>
    obtain rfl : [] = bs := Option.some.inj h
    exact ⟨rfl, nofun, rfl⟩
  | case2 a => contradiction
  | case3 a b s ih =>
    rw [pairs_cons] at h
    obtain ⟨n, hn, h⟩ := Option.bind_eq_some_iff.mp h
    obtain ⟨cs, hcs, rfl⟩ := Option.map_eq_some_iff.mp h
    obtain ⟨m, k, hm, hk, rfl⟩ := pair_eq_some_iff.mp hn
    obtain ⟨hl, hs, hu⟩ := ih hcs
    obtain ⟨hm', ha⟩ := upper_of_hexDigit hm
    obtain ⟨hk', hb⟩ := upper_of_hexDigit hk
    have hbd : IsHexDigit b := isSome_hexDigit.mp (Option.isSome_of_eq_some hk)
    refine ⟨?_, ?_, ?_⟩
    · simp only [List.length_cons, hl]
      omega
    · exact legible_cons.mpr ⟨isSome_hexDigit.mp (Option.isSome_of_eq_some hm), hbd, hs⟩
    · rw [List.flatMap_cons, upperHexByte_pair hm' hk', hu, ha, hb, List.map_cons, List.map_cons,
        shown, shown, digit_of_isHexDigit hbd]
      rfl

theorem exists_pairs (hl : s.length % 2 = 0) (hs : Legible s) : ∃ bs, pairs? s = some bs := by
  induction s using pairs?.induct with
  | case1 => exact ⟨[], rfl⟩
  | case2 a => contradiction
  | case3 a b s ih =>
    obtain ⟨ha, hb, hs⟩ := legible_cons.mp hs
    obtain ⟨m, hm⟩ := Option.isSome_iff_exists.mp (isSome_hexDigit.mpr ha)
    obtain ⟨k, hk⟩ := Option.isSome_iff_exists.mp (isSome_hexDigit.mpr hb)
    obtain ⟨bs, hbs⟩ := ih (by simp only [List.length_cons] at hl; omega) hs
    have hn : signedValue? hexDigit? 16 [a, b] = some (m * 16 + k) :=
      pair_eq_some_iff.mpr ⟨m, k, hm, hk, rfl⟩
    exact ⟨_, by rw [pairs_cons, hn, hbs]; rfl⟩

theorem Legible.ascii (h : Legible s) : Text.Ascii s := by
  intro c hc
  obtain ⟨i, hi⟩ := List.mem_iff_getElem?.mp hc
  rcases h i c hi with hd | ⟨rfl, -⟩
  · exact hd.lt
  · decide

theorem legible_iff_of_unsigned (h : '+' ∉ s) : Legible s ↔ ∀ c ∈ s, IsHexDigit c := by
  constructor
  · intro hs c hc
    obtain ⟨i, hi⟩ := List.mem_iff_getElem?.mp hc
    refine (hs i c hi).resolve_right ?_
    rintro ⟨rfl, -⟩
    exact h hc
  · intro hs i c hc
    exact .inl (hs c (List.mem_of_getElem? hc))

variable {t : String} {id : PeerId}

theorem parse_eq_ok_iff : parse t = .ok id ↔ ofText? t = some id := by
  unfold parse
  cases ofText? t with
  | none => simp
  | some a => simp

theorem text_of_ofText (h : ofText? t = some id) : id.text = String.ofList ((core t).map shown) := by
  obtain ⟨-, hp⟩ := ofText_eq_some_iff.mp h
  rw [text, (pairs_eq_some hp).2.2]

theorem exists_ofText_iff :
    (∃ id, ofText? t = some id) ↔ (core t).length = 32 ∧ Legible (core t) := by
  constructor
  · rintro ⟨id, h⟩
    obtain ⟨hl, hp⟩ := ofText_eq_some_iff.mp h
    exact ⟨hl, (pairs_eq_some hp).2.1⟩
  · rintro ⟨hl, hs⟩
    obtain ⟨bs, hp⟩ := exists_pairs (by omega) hs
    have hb : bs.length = 16 := by
      have := (pairs_eq_some hp).1
      omega
    exact ⟨⟨bs, hb⟩, ofText_eq_some_iff.mpr ⟨hl, hp⟩⟩

/-- The bytes of `n` pairs from a byte offset on; nothing if a cut is within a character. -/
def slicesFrom (raw : List Char) : (n i : Nat) → Option (Option Bytes)
  | 0, _ => some (some [])
  | n + 1, i => do
    match signedValue? hexDigit? 16 (← Text.slice? i (i + 2) raw) with
    | none => return none
    | some m => return (← slicesFrom raw n (i + 2)).map (m.toUInt8 :: ·)

/-- An identifier from 32 bytes that are cut in pairs; nothing if a cut is within a character. -/
def ofSlices? (t : String) : Option (Option PeerId) :=
  if (Text.encode (core t)).length ≠ 32 ∨ ¬ Text.Ascii (core t) then some none
  else (slicesFrom (core t) 16 0).map fun bs => bs.bind ofBytes?

theorem slicesFrom_eq (h : Text.Ascii s) {i : Nat} (hn : i + 2 * n = s.length) :
    slicesFrom s n i = some (pairs? (s.drop i)) := by
  induction n generalizing i with
  | zero =>
    have hd : s.drop i = [] := List.drop_eq_nil_of_le (by omega)
    rw [hd]
    rfl
  | succ n ih =>
    have hi : i < s.length := by omega
    have hi' : i + 1 < s.length := by omega
    have hd : s.drop i = s[i] :: s[i + 1] :: s.drop (i + 2) := by
      rw [List.drop_eq_getElem_cons hi, List.drop_eq_getElem_cons hi']
    have hs : Text.slice? i (i + 2) s = some [s[i], s[i + 1]] := by
      rw [h.slice (Nat.le_add_right ..) hi', List.drop_take, hd, Nat.add_sub_cancel_left]
      rfl
    rw [slicesFrom, hs, hd, pairs_cons, ih (by omega)]
    cases hv : signedValue? hexDigit? 16 [s[i], s[i + 1]] with
    | none => simp [hv]
    | some m => simp [hv]

/-- No cut is within a character. -/
theorem ofSlices_eq (t : String) : ofSlices? t = some (ofText? t) := by
  unfold ofSlices?
  by_cases ha : Text.Ascii (core t)
  · rw [ha.length_encode, ofText_eq]
    by_cases hl : (core t).length = 32
    · have hs : slicesFrom (core t) 16 0 = some (pairs? (core t)) := slicesFrom_eq ha hl.symm
      rw [if_neg (by simp [hl, ha]), if_pos hl, hs]
      rfl
    · rw [if_pos (.inl hl), if_neg hl]
  · have hn : ofText? t = none := by
      refine Option.eq_none_iff_forall_ne_some.mpr fun id h => ?_
      exact ha (exists_ofText_iff.mp ⟨id, h⟩).2.ascii
    rw [if_pos (.inr ha), hn]

/-- What is accepted are 32 hexadecimal digits, where a plus sign may stand for the first digit of a
pair. -/
theorem parse_accepts (t : String) :
    ((∃ id, parse t = .ok id) ↔ (core t).length = 32 ∧ Legible (core t)) ∧
    (∀ id, parse t = .ok id → id.text = String.ofList ((core t).map shown)) ∧
    ('+' ∉ core t →
      ((∃ id, parse t = .ok id) ↔ (core t).length = 32 ∧ ∀ c ∈ core t, IsHexDigit c) ∧
      ∀ id, parse t = .ok id → id.text = String.ofList ((core t).map Char.toUpper)) ∧
    ((¬ ∃ id, parse t = .ok id) → parse t = .error (invalid t)) ∧
    ofSlices? t = some (ofText? t) ∧
    ∀ w id r, Json.Reader.peerId w = .ok (id, r) ↔
      ∃ u, Json.Reader.text w = .ok (u, r) ∧ parse u = .ok id := by
  have hp : (∃ id, parse t = .ok id) ↔ (core t).length = 32 ∧ Legible (core t) := by
    simp only [parse_eq_ok_iff, exists_ofText_iff]
  have ht {id : PeerId} (h : parse t = .ok id) : id.text = String.ofList ((core t).map shown) :=
    text_of_ofText (parse_eq_ok_iff.mp h)
  refine ⟨hp, fun id => ht, ?_, ?_, ofSlices_eq t, ?_⟩
  · intro hu
    have hl : Legible (core t) ↔ ∀ c ∈ core t, IsHexDigit c := legible_iff_of_unsigned hu
    refine ⟨hp.trans (and_congr_right fun _ => hl), fun id h => ?_⟩
    have hd : ∀ c ∈ core t, IsHexDigit c := hl.mp (hp.mp ⟨id, h⟩).2
    have hm : (core t).map shown = (core t).map Char.toUpper :=
      List.map_congr_left fun c hc => congrArg Char.toUpper (digit_of_isHexDigit (hd c hc))
    rw [ht h, hm]
  · intro hn
    unfold parse
    cases ho : ofText? t with
    | none => rfl
    | some id => exact absurd ⟨id, parse_eq_ok_iff.mpr ho⟩ hn
  · intro w id r
    simp only [parse_eq_ok_iff]
    exact Json.Reader.textOf_eq_ok_iff

theorem parse_accepts_padded :
    '+' ∉ core "\t00112233445566778899aabbccddeeff " ∧
      ∃ id, parse "\t00112233445566778899aabbccddeeff " = .ok id ∧
        id.text = "00112233445566778899AABBCCDDEEFF" := by
  have hu : '+' ∉ core "\t00112233445566778899aabbccddeeff " := by decide
  have hd : (core "\t00112233445566778899aabbccddeeff ").all (IsHexDigit ·) := by decide
  have hc : ∀ c ∈ core "\t00112233445566778899aabbccddeeff ", IsHexDigit c := by
    simpa only [List.all_eq_true, decide_eq_true_eq] using hd
  obtain ⟨-, -, h, -⟩ := parse_accepts "\t00112233445566778899aabbccddeeff "
  obtain ⟨id, hid⟩ := (h hu).1.mpr ⟨by decide, hc⟩
  exact ⟨hu, id, hid, (h hu).2 id hid⟩

/-- A plus sign in each place that takes one. -/
theorem parse_signed :
    ¬ ∀ t, (∃ id, parse t = .ok id) ↔ (core t).length = 32 ∧ ∀ c ∈ core t, IsHexDigit c := by
  intro h
  have hp : ∃ id, parse "+A+A+A+A+A+A+A+A+A+A+A+A+A+A+A+A" = .ok id :=
    ⟨⟨List.replicate 16 10, rfl⟩, by decide⟩
  exact absurd (((h _).mp hp).2 '+' (by decide)) (by decide)

end PeerId
end NodeConsole
