import NodeConsole.Text.Utf8

/-! Text that was encoded is decoded again. -/
namespace NodeConsole.Text
namespace Utf8

variable {n value need : Nat} {lo hi : UInt8} {out : List Char}

theorem toNat_byte (hn : n < 256) : (UInt8.ofNat n).toNat = n := UInt8.toNat_ofNat_of_lt' hn

theorem lead_two : ∀ n < 32, 2 ≤ n →
    lead (UInt8.ofNat (n + 192)) = some (.within 1 0x80 0xBF n) := by
  decide

/-- Of the second byte the bounds are closer where less would be too long a form, and where more
would be a surrogate. -/
theorem lead_three : ∀ n < 16, lead (UInt8.ofNat (n + 224)) =
    some (.within 2 (if n = 0 then 0xA0 else 0x80) (if n = 13 then 0x9F else 0xBF) n) := by
  decide

/-- Likewise where less would be too long a form, and where more would be beyond the last
character. -/
theorem lead_four : ∀ n < 5, lead (UInt8.ofNat (n + 240)) =
    some (.within 3 (if n = 0 then 0x90 else 0x80) (if n = 4 then 0x8F else 0xBF) n) := by
  decide

theorem step_single (hn : n < 128) :
    step (.start, out) (UInt8.ofNat n) = (.start, Char.ofNat n :: out) := by
  have hb : UInt8.ofNat n < 0x80 := by
    rwa [UInt8.lt_iff_toNat_lt, toNat_byte (by omega)]
  rw [step, first, if_pos hb, toNat_byte (by omega)]

theorem step_lead {q : State} (hn : 128 ≤ n ∧ n < 256) (hq : lead (UInt8.ofNat n) = some q) :
    step (.start, out) (UInt8.ofNat n) = (q, out) := by
  have hb : ¬ UInt8.ofNat n < 0x80 := by
    rw [UInt8.lt_iff_toNat_lt, toNat_byte hn.2]
    exact Nat.not_lt.mpr hn.1
  rw [step, first, if_neg hb, hq]

/-- A byte within a character adds six bits. -/
theorem step_within (hlo : lo.toNat ≤ n + 128) (hhi : n + 128 ≤ hi.toNat) :
    step (.within (need + 1) lo hi value, out) (UInt8.ofNat (n + 128)) =
      if need = 0 then (.start, Char.ofNat (value * 64 + n) :: out)
      else (.within need 0x80 0xBF (value * 64 + n), out) := by
  have hn : (UInt8.ofNat (n + 128)).toNat = n + 128 := by
    have h := hi.toNat_lt
    exact toNat_byte (by omega)
  have hb : (lo ≤ UInt8.ofNat (n + 128) && UInt8.ofNat (n + 128) ≤ hi) = true := by
    rw [Bool.and_eq_true, decide_eq_true_eq, decide_eq_true_eq, UInt8.le_iff_toNat_le,
      UInt8.le_iff_toNat_le, hn]
    exact ⟨hlo, hhi⟩
  rw [step, if_pos hb, hn, Nat.add_sub_cancel]
  cases need <;> rfl

theorem step_tail (hn : n < 64) :
    step (.within (need + 1) 0x80 0xBF value, out) (UInt8.ofNat (n + 128)) =
      if need = 0 then (.start, Char.ofNat (value * 64 + n) :: out)
      else (.within need 0x80 0xBF (value * 64 + n), out) :=
  step_within (Nat.le_add_left ..) (show n + 128 ≤ 191 by omega)

/-- The bytes of a character take the machine back to its start, with the character read. -/
theorem foldl_char (c : Char) (out : List Char) :
    (String.utf8EncodeChar c).foldl step (.start, out) = (.start, c :: out) := by
  have hc : Char.ofNat c.val.toNat = c := Char.ofNat_toNat c
  have hv : c.val.toNat < 0xD800 ∨ 0xDFFF < c.val.toNat ∧ c.val.toNat < 0x110000 := c.valid
  unfold String.utf8EncodeChar
  generalize c.val.toNat = v at hc hv ⊢
  have t0 : v % 64 < 64 := by omega
  have t1 : v / 64 % 64 < 64 := by omega
  have e1 : v / 64 * 64 + v % 64 = v := by omega
  dsimp only
  split
  · rw [List.foldl_cons, step_single (by omega), hc, List.foldl_nil]
  split
  · have hl := lead_two (v / 64 % 32) (by omega) (by omega)
    have e2 : v / 64 % 32 * 64 + v % 64 = v := by omega
    rw [List.foldl_cons, List.foldl_cons, List.foldl_nil, step_lead (by omega) hl, step_tail t0,
      if_pos rfl, e2, hc]
  split
  · have hl := lead_three (v / 4096 % 16) (by omega)
    have e2 : v / 4096 % 16 * 64 + v / 64 % 64 = v / 64 := by omega
    rw [List.foldl_cons, List.foldl_cons, List.foldl_cons, List.foldl_nil,
      step_lead (by omega) hl, step_within ?_ ?_, if_neg (by decide), step_tail t0, if_pos rfl,
      e2, e1, hc]
    · split
      · exact show 160 ≤ _ by omega
      · exact Nat.le_add_left ..
    · split
      · exact show _ ≤ 159 by omega
      · exact show _ ≤ 191 by omega
  · have hl := lead_four (v / 262144 % 8) (by omega)
    have e2 : v / 4096 * 64 + v / 64 % 64 = v / 64 := by omega
    have e3 : v / 262144 % 8 * 64 + v / 4096 % 64 = v / 4096 := by omega
    rw [List.foldl_cons, List.foldl_cons, List.foldl_cons, List.foldl_cons, List.foldl_nil,
      step_lead (by omega) hl, step_within ?_ ?_, if_neg (by decide), step_tail t1,
      if_neg (by decide), step_tail t0, if_pos rfl, e3, e2, e1, hc]
    · split
      · exact show 144 ≤ _ by omega
      · exact Nat.le_add_left ..
    · split
      · exact show _ ≤ 143 by omega
      · exact show _ ≤ 191 by omega

theorem foldl_encode (s out : List Char) :
    (encode s).foldl step (.start, out) = (.start, s.reverse ++ out) := by
  induction s generalizing out with
  | nil => rfl
  | cons c s ih =>
    rw [encode_cons, List.foldl_append, foldl_char, ih, List.reverse_cons, List.append_assoc]
    rfl

end Utf8

theorem length_le_encode (s : List Char) : s.length ≤ (encode s).length := by
  induction s with
  | nil => exact Nat.le_refl _
  | cons c s ih =>
    have hc : 0 < c.utf8Size := Char.utf8Size_pos c
    rw [encode_cons, List.length_append, String.length_utf8EncodeChar, List.length_cons]
    omega

theorem decode_encode (s : List Char) : decode (encode s) = s := by
  rw [decode, Utf8.foldl_encode, List.append_nil, Utf8.finish, List.reverse_reverse]

/-- Bytes are read as a text just when they are its encoding. -/
theorem decode?_eq_some_iff {bs : Bytes} {s : List Char} :
    decode? bs = some s ↔ bs = encode s := by
  constructor
  · intro h
    unfold decode? at h
    dsimp only at h
    split at h
    · rename_i he
      rw [← Option.some.inj h, he]
    · contradiction
  · rintro rfl
    rw [decode?, decode_encode, if_pos rfl]

theorem decode?_eq_none_iff {bs : Bytes} : decode? bs = none ↔ ∀ s, bs ≠ encode s := by
  simp only [Option.eq_none_iff_forall_ne_some, ne_eq, decode?_eq_some_iff]

variable {s : List Char} {c : Char} {n : Nat}

/-- The text before a byte offset and the text behind it; nothing if the offset is within a
character or past the end. -/
def cutAt? : Nat → List Char → Option (List Char × List Char)
  | 0, s => some ([], s)
  | _ + 1, [] => none
  | n + 1, c :: s =>
    if c.utf8Size ≤ n + 1 then (cutAt? (n + 1 - c.utf8Size) s).map fun (a, b) => (c :: a, b)
    else none

/-- The text between two byte offsets. -/
def slice? (i j : Nat) (s : List Char) : Option (List Char) := do
  let (a, _) ← cutAt? j s
  let (_, b) ← cutAt? i a
  return b

/-- A text of which every character is one byte. -/
def Ascii (s : List Char) : Prop := ∀ c ∈ s, c.toNat < 128

instance : DecidablePred Ascii := List.decidableBAll fun c : Char => c.toNat < 128

theorem utf8Size_of_lt (h : c.toNat < 128) : c.utf8Size = 1 := by
  rw [Char.utf8Size_eq_one_iff, UInt32.le_iff_toNat_le]
  exact Nat.le_of_lt_succ h

theorem Ascii.length_encode (h : Ascii s) : (encode s).length = s.length := by
  induction s with
  | nil => rfl
  | cons c s ih =>
    obtain ⟨hc, hs⟩ := List.forall_mem_cons.mp h
    rw [encode_cons, List.length_append, String.length_utf8EncodeChar, utf8Size_of_lt hc, ih hs,
      List.length_cons, Nat.add_comm]

theorem Ascii.cutAt (h : Ascii s) (hn : n ≤ s.length) : cutAt? n s = some (s.take n, s.drop n) := by
  induction s generalizing n with
  | nil =>
    obtain rfl : n = 0 := Nat.le_zero.mp hn
    rfl
  | cons c s ih =>
    obtain ⟨hc, hs⟩ := List.forall_mem_cons.mp h
    cases n with
    | zero => rfl
    | succ n =>
      have hn : n ≤ s.length := Nat.le_of_succ_le_succ hn
      rw [cutAt?, utf8Size_of_lt hc, if_pos (Nat.le_add_left ..), Nat.add_sub_cancel, ih hs hn]
      rfl

theorem Ascii.slice (h : Ascii s) {i j : Nat} (hi : i ≤ j) (hj : j ≤ s.length) :
    slice? i j s = some ((s.take j).drop i) := by
  have ht : Ascii (s.take j) := fun c hc => h c (List.mem_of_mem_take hc)
  have hl : i ≤ (s.take j).length := by
    rw [List.length_take]
    omega
  simp only [slice?, h.cutAt hj, ht.cutAt hl, bind, Option.bind, pure]

end NodeConsole.Text
