import NodeConsole.Proofs.Json.Written
import NodeConsole.Proofs.Text.Digits
import NodeConsole.Proofs.Text.Utf8

/-! Readers of numbers, texts and nulls. -/
namespace NodeConsole.Json.Reader

variable {b s t w v : List Char} {n m : Nat} {j : Json}

theorem skipBlanks_append (hb : Blanks b) (s : List Char) : skipBlanks (b ++ s) = skipBlanks s :=
  List.dropWhile_append_of_pos hb

theorem skipBlanks_cons {c : Char} (hc : isBlank c = false) (s : List Char) :
    skipBlanks (c :: s) = c :: s :=
  List.dropWhile_cons_of_neg (Bool.not_eq_true _ ▸ hc)

/-- A character that no number goes on with. -/
def stops (c : Char) : Bool := !isDigit c && c != '.' && !isExponentMark c

/-- A number before `t` ends there. -/
def Ends (t : List Char) : Prop := ∀ c ∈ t.head?, stops c

theorem ends_nil : Ends [] := nofun

theorem ends_cons {c : Char} (hc : stops c) (t : List Char) : Ends (c :: t) := by
  intro d hd
  exact Option.some.inj hd ▸ hc

theorem stops_of_isBlank {c : Char} (hc : isBlank c) : stops c := by
  simp only [isBlank, Bool.or_eq_true, beq_iff_eq] at hc
  obtain ((rfl | rfl) | rfl) | rfl := hc <;> rfl

theorem isBlank_of_isDigit {c : Char} (hd : isDigit c = true) : isBlank c = false := by
  rw [Bool.eq_false_iff]
  intro hb
  have hs := stops_of_isBlank hb
  simp [stops, hd] at hs

theorem Ends.blanks (hb : Blanks b) (ht : Ends t) : Ends (b ++ t) := by
  cases b with
  | nil => exact ht
  | cons c b => exact ends_cons (stops_of_isBlank (hb c List.mem_cons_self)) _

theorem Ends.head {c : Char} (ht : Ends (c :: t)) :
    isDigit c = false ∧ c ≠ '.' ∧ isExponentMark c = false := by
  have hc : stops c := ht c rfl
  simpa [stops, and_assoc] using hc

theorem isDigit_of_mem_writeNat {c : Char} (hc : c ∈ writeNat n) : isDigit c = true := by
  have hd : c.isDigit = true := Nat.isDigit_of_mem_toDigits (by decide) (by decide) hc
  simpa [isDigit, Char.isDigit, Char.le_def] using hd

theorem writeNat_of_le (h : 10 ≤ n) :
    writeNat n = writeNat (n / 10) ++ [(n % 10).digitChar] :=
  Nat.toDigits_of_base_le (by decide) h

theorem writeNat_of_lt (h : n < 10) : writeNat n = [n.digitChar] := Nat.toDigits_of_lt_base h

/-- Only zero starts with a zero. -/
theorem eq_zero_of_writeNat (h : writeNat n = '0' :: s) : n = 0 := by
  induction n using Nat.strongRecOn generalizing s with
  | ind n ih =>
    rcases Nat.lt_or_ge n 10 with hn | hn
    · rw [writeNat_of_lt hn] at h
      exact Nat.digitChar_eq_zero.mp (List.cons.inj h).1
    · rw [writeNat_of_le hn] at h
      cases hw : writeNat (n / 10) with
      | nil => exact absurd hw Nat.toDigits_ne_nil
      | cons c r =>
        rw [hw, List.cons_append] at h
        rw [(List.cons.inj h).1] at hw
        have := ih (n / 10) (by omega) hw
        omega

theorem extend_append {r : List Char} {k l : Nat} (h : extend n k s = (m, l, [])) :
    extend n k (s ++ r) = extend m l r := by
  induction s generalizing n k with
  | nil =>
    obtain ⟨rfl, rfl⟩ : n = m ∧ k = l := by simpa [extend] using h
    rfl
  | cons c s ih =>
    by_cases hc : n * 10 + digitValue c ≤ maxSignificand
    · rw [extend, if_pos hc] at h
      rw [List.cons_append, extend, if_pos hc]
      exact ih h
    · rw [extend, if_neg hc] at h
      simp at h

theorem digitValue_digitChar (h : n < 10) : digitValue n.digitChar = n :=
  Nat.toNat_digitChar_sub_48_of_lt_ten h

theorem extend_writeNat (h : n ≤ maxSignificand) :
    ∃ k, extend 0 0 (writeNat n) = (n, k, []) := by
  induction n using Nat.strongRecOn with
  | ind n ih =>
    rcases Nat.lt_or_ge n 10 with hn | hn
    · refine ⟨1, ?_⟩
      rw [writeNat_of_lt hn, extend, digitValue_digitChar hn, Nat.zero_mul, Nat.zero_add, if_pos h]
      rfl
    · obtain ⟨k, hk⟩ := ih (n / 10) (by omega) (by omega)
      refine ⟨k + 1, ?_⟩
      have he : n / 10 * 10 + n % 10 = n := Nat.div_add_mod' n 10
      have hd : n % 10 < 10 := Nat.mod_lt n (by decide)
      rw [writeNat_of_le hn, extend_append hk, extend, digitValue_digitChar hd, he, if_pos h]
      rfl

theorem digits1_append {atEnd : Fault} (hs : s ≠ []) (hd : ∀ c ∈ s, isDigit c = true)
    (ht : Ends t) : digits1 atEnd (s ++ t) = .ok (s, t) := by
  have htake : t.takeWhile isDigit = [] := by
    cases t with
    | nil => rfl
    | cons c t => exact List.takeWhile_cons_of_neg (by simp [ht.head.1])
  have hdrop : t.dropWhile isDigit = t := by
    cases t with
    | nil => rfl
    | cons c t => exact List.dropWhile_cons_of_neg (by simp [ht.head.1])
  cases s with
  | nil => contradiction
  | cons c s =>
    have hc : isDigit c = true := hd c List.mem_cons_self
    rw [List.cons_append, digits1, if_pos hc, ← List.cons_append,
      List.takeWhile_append_of_pos hd, List.dropWhile_append_of_pos hd, htake, hdrop,
      List.append_nil]

theorem wholePart_writeNat {atEnd : Fault} (ht : Ends t) :
    wholePart atEnd (writeNat n ++ t) = .ok (writeNat n, t) := by
  have hne : writeNat n ≠ [] := Nat.toDigits_ne_nil
  rw [wholePart, digits1_append hne (fun c => isDigit_of_mem_writeNat) ht]
  cases hw : writeNat n with
  | nil => rfl
  | cons c r =>
    by_cases hc : c = '0'
    · subst hc
      obtain rfl := eq_zero_of_writeNat hw
      obtain ⟨-, rfl⟩ := List.cons.inj hw
      rfl
    · simp only [bind, Except.bind]
      split
      · rename_i he
        exact absurd (List.cons.inj he).1 hc
      · rfl

theorem fraction_of_ends {atEnd : Fault} (ht : Ends t) : fraction atEnd t = .ok ([], t) := by
  unfold fraction
  split
  · exact absurd rfl ht.head.2.1
  · rfl

theorem exponent_of_ends {atEnd : Fault} (ht : Ends t) : exponent atEnd t = .ok (none, t) := by
  cases t with
  | nil => rfl
  | cons c t =>
    have hc : ¬ isExponentMark c = true := Bool.not_eq_true _ ▸ ht.head.2.2
    unfold exponent
    exact if_neg hc

theorem number_writeNat (hn : n < UInt64.size) (ht : Ends t) :
    number (writeNat n ++ t) = .ok (some n, t) := by
  obtain ⟨k, hk⟩ := extend_writeNat (Nat.le_pred_of_lt hn)
  simp only [number, wholePart_writeNat ht, fraction_of_ends ht, exponent_of_ends ht, hk, bind,
    Except.bind]
  rfl

theorem codeUnit_hex (h : n < 65536) : codeUnit (Text.hex 4 n ++ s) = .ok (n, s) := by
  have hv : Text.valueOf? Text.hexDigit? 16 (Text.hex 4 n) = some n := by
    rw [Text.valueOf_hex]
    exact congrArg some (Nat.mod_eq_of_lt h)
  obtain ⟨a, b, c, d, hd⟩ : ∃ a b c d, Text.hex 4 n = [a, b, c, d] := ⟨_, _, _, _, rfl⟩
  have hl : ¬ (Text.encode ((Text.hex 4 n ++ s).take 4)).length < 4 := by
    have := Text.length_le_encode [a, b, c, d]
    rw [hd]
    exact Nat.not_lt.mpr this
  unfold codeUnit
  rw [if_neg hl]
  rw [hd] at hv ⊢
  simp only [List.cons_append, List.nil_append, hv]

/-- Control characters are no halves of pairs. -/
theorem codePoint_hex {c : Char} (hc : c < ' ') :
    codePoint (Text.hex 4 c.toNat ++ s) = .ok (c, s) := by
  have hn : c.toNat < 32 := hc
  have hu : codeUnit (Text.hex 4 c.toNat ++ s) = .ok (c.toNat, s) := codeUnit_hex (by omega)
  have hlow : isLow c.toNat = false := by
    simp only [isLow, Bool.and_eq_false_iff, decide_eq_false_iff_not]
    omega
  have hhigh : isHigh c.toNat = false := by
    simp only [isHigh, Bool.and_eq_false_iff, decide_eq_false_iff_not]
    omega
  simp only [codePoint, hu, hlow, hhigh, bind, Except.bind]
  rw [Char.ofNat_toNat]
  rfl

theorem textFrom_escape (f : Char) (fuel out : List Char) (c : Char) (s : List Char) :
    textFrom (f :: fuel) out (Json.escape c ++ s) = textFrom fuel (c :: out) s := by
  -- Seven characters have an escape of their own; the last case is any other.
  unfold Json.escape
  split
  · rfl
  · rfl
  · rfl
  · rfl
  · rfl
  · rfl
  · rfl
  · rename_i hq hb _ _ _ _ _
    by_cases hc : c < ' '
    · rw [if_pos hc, List.cons_append, List.cons_append, textFrom, escape, codePoint_hex hc]
      rfl
    · rw [if_neg hc, List.singleton_append, textFrom, if_neg hc]
      · exact hq
      · exact hb

theorem textFrom_written (cs s : List Char) {fuel : List Char} (hf : cs.length < fuel.length)
    (out : List Char) : textFrom fuel out (cs.flatMap Json.escape ++ '"' :: s) =
      .ok (String.ofList (out.reverse ++ cs), s) := by
  induction cs generalizing fuel out with
  | nil =>
    cases fuel with
    | nil => exact absurd hf (Nat.not_lt_zero _)
    | cons f fuel => rw [List.append_nil]; rfl
  | cons c cs ih =>
    cases fuel with
    | nil => exact absurd hf (Nat.not_lt_zero _)
    | cons f fuel =>
      rw [List.flatMap_cons, List.append_assoc, textFrom_escape, ih (Nat.lt_of_succ_lt_succ hf)]
      simp

theorem escape_ne_nil (c : Char) : Json.escape c ≠ [] := by
  unfold Json.escape
  split <;> simp
  split <;> simp

theorem length_le_escaped (cs : List Char) : cs.length ≤ (cs.flatMap Json.escape).length := by
  induction cs with
  | nil => exact Nat.le_refl _
  | cons c cs ih =>
    have hc := List.length_pos_iff.mpr (escape_ne_nil c)
    rw [List.flatMap_cons, List.length_append, List.length_cons]
    omega

theorem textBody_written (s : String) (t : List Char) :
    textBody (s.toList.flatMap Json.escape ++ '"' :: t) = .ok (s, t) := by
  have hl := length_le_escaped s.toList
  rw [textBody, textFrom_written]
  · simp
  · rw [List.length_append, List.length_cons]
    omega

/-- The first character of a value, after the blanks. -/
theorem written_head (h : Written j w) : ∃ c v, Written j (c :: v) ∧
    (∀ t, skipBlanks (w ++ t) = c :: (v ++ t)) ∧ c ≠ ']' ∧ (j ≠ .null → c ≠ 'n') := by
  have hskip {b v : List Char} {c : Char} (hb : Blanks b) (hc : isBlank c = false) (t : List Char) :
      skipBlanks (b ++ c :: v ++ t) = c :: (v ++ t) := by
    rw [List.append_assoc, skipBlanks_append hb]
    exact skipBlanks_cons hc _
  cases h with
  | null hb => exact ⟨_, _, .null blanks_nil, hskip hb rfl, by decide, fun h => absurd rfl h⟩
  | nat hb n =>
    cases hw : writeNat n with
    | nil => exact absurd hw Nat.toDigits_ne_nil
    | cons c v =>
      have hd : isDigit c = true := isDigit_of_mem_writeNat (hw ▸ List.mem_cons_self)
      have hc : isBlank c = false := isBlank_of_isDigit hd
      refine ⟨c, v, hw ▸ .nat blanks_nil n, hskip hb hc, ?_, fun _ => ?_⟩
      · rintro rfl
        exact absurd hd (by decide)
      · rintro rfl
        exact absurd hd (by decide)
  | text hb s => exact ⟨_, _, .text blanks_nil s, hskip hb rfl, by decide, fun _ => by decide⟩
  | list hb h => exact ⟨_, _, .list blanks_nil h, hskip hb rfl, by decide, fun _ => by decide⟩
  | object hb h => exact ⟨_, _, .object blanks_nil h, hskip hb rfl, by decide, fun _ => by decide⟩

/-- A reader of all that `put` writes. -/
def Reads {α : Type} (read : Reader α) (put : α → Json) : Prop :=
  ∀ (a : α) {w t : List Char}, Written (put a) w → Ends t → read (w ++ t) = .ok (a, t)

variable {α β : Type} {read : Reader α} {put : α → Json}

theorem reads_text : Reads text .text := by
  intro s w t h _
  cases h with
  | text hb =>
    rw [List.append_assoc, text, skipBlanks_append hb, writeText, List.append_assoc,
      List.cons_append, List.cons_append, skipBlanks_cons rfl]
    exact textBody_written s t

theorem nat_written {bound : Nat} (hn : n < bound) (hb : bound ≤ UInt64.size)
    (h : Written (.nat n) w) (ht : Ends t) : nat bound (w ++ t) = .ok (n, t) := by
  cases h with
  | nat hw =>
    have hr : number (writeNat n ++ t) = .ok (some n, t) :=
      number_writeNat (Nat.lt_of_lt_of_le hn hb) ht
    cases hds : writeNat n with
    | nil => exact absurd hds Nat.toDigits_ne_nil
    | cons c v =>
      have hd : isDigit c = true := isDigit_of_mem_writeNat (hds ▸ List.mem_cons_self)
      rw [hds, List.cons_append] at hr
      unfold nat
      rw [List.append_assoc, skipBlanks_append hw, List.cons_append,
        skipBlanks_cons (isBlank_of_isDigit hd)]
      simp only [hd, if_true, hr, bind, Except.bind, hn]
      rfl

theorem map_of_ok (f : α → β) {a : α} (h : read s = .ok (a, t)) :
    map f read s = .ok (f a, t) := by
  rw [map, h]
  rfl

theorem textOf_eq_ok_iff {f : String → Option α} {a : α} :
    textOf f s = .ok (a, t) ↔ ∃ u, text s = .ok (u, t) ∧ f u = some a := by
  unfold textOf
  cases text s with
  | error e => simp [bind, Except.bind]
  | ok p =>
    obtain ⟨u, t'⟩ := p
    cases hf : f u with
    | none => simp +contextual [bind, Except.bind, hf, throw, throwThe, MonadExceptOf.throw]
    | some b =>
      simp only [bind, Except.bind, hf, pure, Except.pure, Except.ok.injEq, Prod.mk.injEq]
      constructor
      · rintro ⟨rfl, rfl⟩
        exact ⟨u, ⟨rfl, rfl⟩, hf⟩
      · rintro ⟨v, ⟨rfl, rfl⟩, hv⟩
        exact ⟨Option.some.inj (hf.symm.trans hv), rfl⟩

theorem reads_textOf {f : String → Option α} {g : α → String} (hf : ∀ a, f (g a) = some a) :
    Reads (textOf f) fun a => .text (g a) := by
  intro a w t h ht
  exact textOf_eq_ok_iff.mpr ⟨g a, reads_text (g a) h ht, hf a⟩

theorem reads_choice {f : String → Option α} {g : α → String} (hf : ∀ a, f (g a) = some a) :
    Reads (choice f) fun a => .text (g a) := by
  intro a w t h ht
  have hr := reads_textOf hf a (.text blanks_nil _) ht
  cases h with
  | text hb =>
    unfold choice
    rw [List.append_assoc, skipBlanks_append hb]
    exact hr

theorem reads_optional (hr : Reads read put) (hn : ∀ a, put a ≠ .null) :
    Reads (optional read) (.ofOption put) := by
  intro o w t h ht
  cases o with
  | none =>
    cases h with
    | null hb =>
      unfold optional
      rw [List.append_assoc, skipBlanks_append hb]
      rfl
  | some a =>
    obtain ⟨c, v, hv, hs, -, hc⟩ := written_head h
    unfold optional
    rw [hs]
    split
    · rename_i he
      exact absurd (List.cons.inj he).1 (hc (hn a))
    · exact map_of_ok some (hr a hv ht)

end NodeConsole.Json.Reader
