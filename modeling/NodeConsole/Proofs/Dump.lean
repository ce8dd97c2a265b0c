import Mathlib.Data.Nat.Bitwise
import NodeConsole.Dump
import NodeConsole.Proofs.Text.Digits

/-! The layout of a dump, read from its text alone. -/
namespace NodeConsole.Dump
open Text (Bytes IsLowerHexDigit hex hexByte hexDigit hexDigit? hexDigit?_hexDigit valueOf?)

variable {bs r : Bytes} {b : UInt8} {c : Char} {s line : List Char} {n i k : Nat}

theorem rows_of_ne_nil (h : bs ≠ []) : rows bs = bs.take 16 :: rows (bs.drop 16) := by
  rw [rows, if_neg (by simpa using h)]
  rfl

theorem flatten_rows (bs : Bytes) : (rows bs).flatten = bs := by
  fun_induction rows bs with
  | case1 bs h => exact (List.isEmpty_iff.mp h).symm
  | case2 bs h ih => rw [List.flatten_cons, ih, List.take_append_drop]

theorem length_rows (bs : Bytes) : (rows bs).length = (bs.length + 15) / 16 := by
  fun_induction rows bs with
  | case1 bs h =>
    rw [List.isEmpty_iff.mp h]
    rfl
  | case2 bs h ih =>
    have hb : 0 < bs.length := List.length_pos_iff.mpr (by simpa using h)
    rw [List.length_cons, ih, List.length_drop, perRow]
    omega

theorem ne_nil_of_getElem (h : (rows bs)[i]? = some r) : bs ≠ [] := by
  rintro rfl
  simp [rows] at h

theorem row_of_getElem (h : (rows bs)[i]? = some r) :
    r = (bs.drop (16 * i)).take 16 ∧ 16 * i < bs.length := by
  induction i generalizing bs with
  | zero =>
    have hb := ne_nil_of_getElem h
    rw [rows_of_ne_nil hb] at h
    exact ⟨(Option.some.inj h).symm, List.length_pos_iff.mpr hb⟩
  | succ i ih =>
    have hb := ne_nil_of_getElem h
    rw [rows_of_ne_nil hb, List.getElem?_cons_succ] at h
    obtain ⟨hr, hl⟩ := ih h
    rw [List.length_drop] at hl
    rw [Nat.mul_succ, Nat.add_comm, ← List.drop_drop]
    exact ⟨hr, by omega⟩

theorem hexByte_eq (b : UInt8) :
    hexByte b = [hexDigit (b.toNat / 16 % 16), hexDigit (b.toNat % 16)] := rfl

theorem hexColumn_singleton (b : UInt8) : hexColumn [b] = hexByte b := by
  simp [hexColumn, List.intercalate]

theorem hexColumn_cons (b : UInt8) (h : r ≠ []) :
    hexColumn (b :: r) = hexByte b ++ ' ' :: hexColumn r := by
  have hm : r.map hexByte ≠ [] := by simpa using h
  simp [hexColumn, List.intercalate_cons_of_ne_nil hm]

theorem length_hexColumn (r : Bytes) : (hexColumn r).length = 3 * r.length - 1 := by
  induction r with
  | nil => rfl
  | cons b r ih =>
    by_cases hr : r = []
    · subst hr
      rw [hexColumn_singleton]
      rfl
    · have hl : 0 < r.length := List.length_pos_iff.mpr hr
      rw [hexColumn_cons b hr, List.length_append, List.length_cons, ih, hexByte_eq]
      simp only [List.length_cons, List.length_nil]
      omega

/-- Blanks up to the width that three columns for each of sixteen bytes take. -/
def fieldColumns (r : Bytes) : List Char :=
  hexColumn r ++ List.replicate (48 - (hexColumn r).length) ' '

theorem length_fieldColumns (h : r.length ≤ 16) : (fieldColumns r).length = 48 := by
  have hl := length_hexColumn r
  rw [fieldColumns, List.length_append, List.length_replicate]
  omega

/-- What stands before the text: the offset, and the bytes from the tenth column on. -/
def front (n : Nat) (r : Bytes) : List Char := hex 8 n ++ ' ' :: ' ' :: (fieldColumns r ++ [' '])

theorem length_front (n : Nat) (hr : r.length ≤ 16) : (front n r).length = 59 := by
  simp [front, Text.length_hex, length_fieldColumns hr]

theorem row_eq (hn : n < 2 ^ 32) (hr : r.length ≤ 16) :
    row n r = front n r ++ '|' :: (ascii r ++ ['|']) := by
  have hl := length_hexColumn r
  have hx : Text.hexAtLeast 8 n = hex 8 n := Text.hexAtLeast_eq_hex hn
  have hk : 48 - (hexColumn r).length = 47 - (hexColumn r).length + 1 := by omega
  rw [row, hx, front, fieldColumns, hk, List.replicate_succ']
  simp [padEnd, perRow]

/-- The bytes of fields of three columns, two digits and a blank; an empty field has none. -/
def fields : List Char → Bytes
  | a :: b :: _ :: s =>
    match valueOf? hexDigit? 16 [a, b] with
    | some n => n.toUInt8 :: fields s
    | none => fields s
  | _ => []

theorem fields_blank (k : Nat) : fields (List.replicate k ' ') = [] := by
  induction k using Nat.strongRecOn with
  | ind k ih =>
    match k with
    | 0 | 1 | 2 => rfl
    | k + 3 =>
      rw [List.replicate_succ, List.replicate_succ, List.replicate_succ]
      exact ih k (by omega)

theorem fields_hexByte (b : UInt8) (c : Char) (s : List Char) :
    fields (hexByte b ++ c :: s) = b :: fields s := by
  have hv : valueOf? hexDigit? 16 (hexByte b) = some b.toNat := by
    have hb : b.toNat < 256 := b.toNat_lt
    rw [hexByte, Text.valueOf_hex]
    exact congrArg some (Nat.mod_eq_of_lt hb)
  rw [hexByte_eq] at hv ⊢
  rw [List.cons_append, List.cons_append, List.nil_append, fields, hv]
  simp

theorem fields_hexColumn (r : Bytes) (hk : 0 < k) :
    fields (hexColumn r ++ List.replicate k ' ') = r := by
  induction r with
  | nil => exact fields_blank k
  | cons b r ih =>
    by_cases hr : r = []
    · subst hr
      obtain ⟨k, rfl⟩ := Nat.exists_eq_add_of_lt hk
      rw [hexColumn_singleton, List.replicate_succ, fields_hexByte, fields_blank]
    · rw [hexColumn_cons b hr, List.append_assoc, List.cons_append, fields_hexByte, ih]

theorem fields_fieldColumns (h : r.length ≤ 16) : fields (fieldColumns r) = r := by
  have hl := length_hexColumn r
  exact fields_hexColumn r (by omega)

/-- A printable character of ASCII, or the point that stands for any other byte. -/
def Stands (b : UInt8) (c : Char) : Prop :=
  if 0x20 ≤ b.toNat ∧ b.toNat ≤ 0x7E then c = Char.ofNat b.toNat else c = '.'

theorem stands_visible (b : UInt8) : Stands b (visible b) := by
  unfold Stands visible
  have h : (0x20 ≤ b && b ≤ 0x7E) = true ↔ 0x20 ≤ b.toNat ∧ b.toNat ≤ 0x7E := by
    rw [Bool.and_eq_true, decide_eq_true_eq, decide_eq_true_eq, UInt8.le_iff_toNat_le,
      UInt8.le_iff_toNat_le]
    rfl
  by_cases hb : 0x20 ≤ b.toNat ∧ b.toNat ≤ 0x7E
  · rw [if_pos hb, if_pos (h.mpr hb)]
  · rw [if_neg hb, if_neg (mt h.mp hb)]

theorem printable_ne_newline : ∀ n < 127, 32 ≤ n → Char.ofNat n ≠ '\n' := by decide

theorem Stands.ne_newline (h : Stands b c) : c ≠ '\n' := by
  unfold Stands at h
  split at h
  · rename_i hb
    exact h ▸ printable_ne_newline b.toNat (by omega) hb.1
  · exact h ▸ by decide

theorem mem_hexByte (hc : c ∈ hexByte b) : IsLowerHexDigit c := Text.lower_of_mem_hex hc

theorem mem_hexColumn (hc : c ∈ hexColumn r) : c = ' ' ∨ IsLowerHexDigit c := by
  induction r with
  | nil => exact absurd hc List.not_mem_nil
  | cons b r ih =>
    by_cases hr : r = []
    · subst hr
      rw [hexColumn_singleton] at hc
      exact .inr (mem_hexByte hc)
    · rw [hexColumn_cons b hr, List.mem_append, List.mem_cons] at hc
      obtain hc | rfl | hc := hc
      · exact .inr (mem_hexByte hc)
      · exact .inl rfl
      · exact ih hc

theorem mem_fieldColumns (hc : c ∈ fieldColumns r) : c = ' ' ∨ IsLowerHexDigit c := by
  rcases List.mem_append.mp hc with hc | hc
  · exact mem_hexColumn hc
  · exact .inl (List.eq_of_mem_replicate hc)

/-- The text of a dump in lines: what stands between its newlines. An empty text has none. -/
def linesOf (s : List Char) : List (List Char) := if s = [] then [] else s.splitOn '\n'

/-- What the line of the bytes from `16 * i` on has in its columns. -/
structure Line (bs : Bytes) (i : Nat) (s : List Char) : Prop where
  offset : valueOf? hexDigit? 16 (s.take 8) = some (16 * i)
  lower : ∀ c ∈ s.take 8, IsLowerHexDigit c
  bar : s[59]? = some '|'
  /-- No other bar is before it. -/
  first : '|' ∉ s.take 59
  text : ∃ t, s.drop 60 = t ++ ['|'] ∧ t.length = min 16 (bs.length - 16 * i) ∧
    ∀ k c, t[k]? = some c → ∃ b, bs[16 * i + k]? = some b ∧ Stands b c

theorem mem_front (hc : c ∈ front n r) : c = ' ' ∨ IsLowerHexDigit c := by
  simp only [front, List.mem_append, List.mem_cons, List.not_mem_nil, or_false] at hc
  obtain hc | hc | hc | hc | hc := hc
  · exact .inr (Text.lower_of_mem_hex hc)
  · exact .inl hc
  · exact .inl hc
  · exact mem_fieldColumns hc
  · exact .inl hc

theorem length_row_le (bs : Bytes) (n : Nat) : ((bs.drop n).take 16).length ≤ 16 :=
  List.length_take_le ..

theorem stands_ascii (h : (ascii ((bs.drop n).take 16))[k]? = some c) :
    ∃ b, bs[n + k]? = some b ∧ Stands b c := by
  rw [ascii, List.getElem?_map, Option.map_eq_some_iff] at h
  obtain ⟨b, hb, rfl⟩ := h
  refine ⟨b, ?_, stands_visible b⟩
  rw [List.getElem?_take] at hb
  split at hb
  · rwa [List.getElem?_drop] at hb
  · contradiction

theorem line_row (hn : 16 * i < 2 ^ 32) :
    Line bs i (row (16 * i) ((bs.drop (16 * i)).take 16)) := by
  have hr := length_row_le bs (16 * i)
  rw [row_eq hn hr]
  have hf := length_front (16 * i) hr
  have h8 (s : List Char) : (front (16 * i) ((bs.drop (16 * i)).take 16) ++ s).take 8 =
      hex 8 (16 * i) := by
    rw [front, List.append_assoc, List.take_left' (Text.length_hex 8 _)]
  refine ⟨?_, ?_, ?_, ?_, ?_⟩
  · rw [h8, Text.valueOf_hex]
    exact congrArg some (Nat.mod_eq_of_lt hn)
  · rw [h8]
    exact fun c => Text.lower_of_mem_hex
  · rw [List.getElem?_append_right (Nat.le_of_eq hf), hf]
    rfl
  · rw [List.take_left' hf]
    intro hb
    rcases mem_front hb with hb | hb
    · exact absurd hb (by decide)
    · exact absurd hb (by decide)
  · refine ⟨ascii ((bs.drop (16 * i)).take 16), ?_, ?_, fun k c => stands_ascii⟩
    · rw [List.drop_append, List.drop_eq_nil_of_le (by omega), hf]
      rfl
    · rw [ascii, List.length_map, List.length_take, List.length_drop]

theorem fields_row (hn : n < 2 ^ 32) (hr : r.length ≤ 16) :
    fields (((row n r).drop 10).take 48) = r := by
  have ho : (hex 8 n ++ [' ', ' ']).length = 10 := by simp [Text.length_hex]
  have he : row n r =
      (hex 8 n ++ [' ', ' ']) ++ (fieldColumns r ++ ' ' :: '|' :: (ascii r ++ ['|'])) := by
    rw [row_eq hn hr]
    simp [front]
  rw [he, List.drop_left' ho, List.take_left' (length_fieldColumns hr), fields_fieldColumns hr]

theorem newline_not_mem_row (hn : n < 2 ^ 32) (hr : r.length ≤ 16) : '\n' ∉ row n r := by
  rw [row_eq hn hr]
  intro hc
  simp only [List.mem_append, List.mem_cons, List.not_mem_nil, or_false] at hc
  obtain hc | hc | hc | hc := hc
  · rcases mem_front hc with hc | hc
    · exact absurd hc (by decide)
    · exact absurd hc (by decide)
  · exact absurd hc (by decide)
  · obtain ⟨b, -, hb⟩ := List.mem_map.mp hc
    exact (stands_visible b).ne_newline hb
  · exact absurd hc (by decide)

theorem length_lines (bs : Bytes) : (lines bs).length = (bs.length + 15) / 16 := by
  rw [lines, List.length_mapIdx, length_rows]

theorem lines_nil : lines [] = [] := List.eq_nil_of_length_eq_zero (length_lines [])

theorem hexdump_nil : hexdump [] = [] := by
  rw [hexdump, lines_nil]
  rfl

theorem lines_of_getElem (h : (lines bs)[i]? = some line) :
    line = row (16 * i) ((bs.drop (16 * i)).take 16) ∧ 16 * i < bs.length := by
  rw [lines, List.getElem?_mapIdx, Option.map_eq_some_iff] at h
  obtain ⟨r, hr, rfl⟩ := h
  obtain ⟨rfl, hl⟩ := row_of_getElem hr
  exact ⟨by rw [perRow, Nat.mul_comm], hl⟩

theorem line_of_mem (hn : bs.length < 2 ^ 32) (h : line ∈ lines bs) : '\n' ∉ line ∧ line ≠ [] := by
  obtain ⟨i, hi⟩ := List.mem_iff_getElem?.mp h
  obtain ⟨rfl, hl⟩ := lines_of_getElem hi
  have hr := length_row_le bs (16 * i)
  refine ⟨newline_not_mem_row (by omega) hr, ?_⟩
  rw [row_eq (by omega) hr]
  simp

theorem splitOn_hexdump (hn : bs.length < 2 ^ 32) (hb : bs ≠ []) :
    (hexdump bs).splitOn '\n' = lines bs := by
  apply List.splitOn_intercalate
  · exact fun line h => (line_of_mem hn h).1
  · have hl := length_lines bs
    have hb : 0 < bs.length := List.length_pos_iff.mpr hb
    exact List.length_pos_iff.mp (by omega)

theorem linesOf_hexdump (hn : bs.length < 2 ^ 32) : linesOf (hexdump bs) = lines bs := by
  by_cases hb : bs = []
  · subst hb
    rw [hexdump_nil, lines_nil]
    rfl
  · have hs := splitOn_hexdump hn hb
    rw [linesOf, if_neg, hs]
    intro he
    rw [he] at hs
    exact (line_of_mem hn (hs ▸ List.mem_singleton_self [])).2 rfl

theorem getLast_hexdump (hn : bs.length < 2 ^ 32) : (hexdump bs).getLast? ≠ some '\n' := by
  intro h
  obtain ⟨s, hs⟩ := List.getLast?_eq_some_iff.mp h
  have hb : bs ≠ [] := by
    rintro rfl
    rw [hexdump_nil] at hs
    exact absurd hs (by simp)
  -- Behind a newline at the end there would be one line more, without anything in it.
  have he : [] ∈ lines bs := by
    rw [← splitOn_hexdump hn hb, hs, List.splitOn_append_cons_self]
    exact List.mem_append_right _ List.mem_cons_self
  exact (line_of_mem hn he).2 rfl

theorem fields_lines (hn : bs.length < 2 ^ 32) :
    (lines bs).map (fun line => fields ((line.drop 10).take 48)) = rows bs := by
  apply List.ext_getElem?
  intro i
  rw [List.getElem?_map, lines, List.getElem?_mapIdx, Option.map_map]
  cases hr : (rows bs)[i]? with
  | none => rfl
  | some r =>
    obtain ⟨rfl, hl⟩ := row_of_getElem hr
    have hi : i * perRow < 2 ^ 32 := by
      rw [perRow]
      omega
    rw [Option.map_some, Function.comp_apply, fields_row hi (length_row_le bs (16 * i))]

/-- The bytes that a dump shows in its fields, line after line. -/
def undump (s : List Char) : Bytes :=
  (linesOf s).flatMap fun line => fields ((line.drop 10).take 48)

theorem undump_hexdump (hn : bs.length < 2 ^ 32) : undump (hexdump bs) = bs := by
  rw [undump, linesOf_hexdump hn, List.flatMap_def, fields_lines hn, flatten_rows]

/-- A dump shows every byte in its own columns, and gives the bytes back from its fields. -/
theorem hexdump_lossless (bs : Bytes) (hn : bs.length < 2 ^ 32) :
    (linesOf (hexdump bs)).length = (bs.length + 15) / 16 ∧
    hexdump bs = ['\n'].intercalate (linesOf (hexdump bs)) ∧
    (hexdump bs).getLast? ≠ some '\n' ∧
    (∀ i line, (linesOf (hexdump bs))[i]? = some line → Line bs i line) ∧
    undump (hexdump bs) = bs ∧
    ∀ cs : Bytes, cs.length < 2 ^ 32 → hexdump cs = hexdump bs → cs = bs := by
  rw [linesOf_hexdump hn]
  refine ⟨length_lines bs, rfl, getLast_hexdump hn, ?_, undump_hexdump hn, ?_⟩
  · intro i line h
    obtain ⟨rfl, hl⟩ := lines_of_getElem h
    exact line_row (by omega)
  · intro cs hc he
    rw [← undump_hexdump hc, he, undump_hexdump hn]

/-- A bar, a blank and a newline among the bytes, and a last line of two. -/
theorem hexdump_lossless_short : (124 :: List.replicate 15 32 ++ [10, 124]).length < 2 ^ 32 ∧
    undump (hexdump (124 :: List.replicate 15 32 ++ [10, 124])) =
      124 :: List.replicate 15 32 ++ [10, 124] := by
  have hn : (124 :: List.replicate 15 32 ++ [10, 124] : Bytes).length < 2 ^ 32 := by decide
  obtain ⟨-, -, -, -, h, -⟩ := hexdump_lossless _ hn
  exact ⟨hn, h⟩

end NodeConsole.Dump
