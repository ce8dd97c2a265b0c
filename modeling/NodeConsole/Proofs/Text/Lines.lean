import NodeConsole.Proofs.Text.Digits
import NodeConsole.Text.Escaped
import NodeConsole.Text.Utf8

/-! Texts that stay in one line. -/
namespace NodeConsole.Text

variable {a b : String} {c : Char} {s : List Char} {base n : Nat}

theorem newline_mem_char : 10 ∈ String.utf8EncodeChar c ↔ c = '\n' := by
  constructor
  · intro h
    have hc : Char.ofNat c.val.toNat = c := Char.ofNat_toNat c
    unfold String.utf8EncodeChar at h
    generalize c.val.toNat = v at h hc
    have hb {n : Nat} (h : 10 = UInt8.ofNat n) : n % 256 = 10 := by
      simpa using (congrArg UInt8.toNat h).symm
    dsimp only at h
    split at h
    · have hv := hb (List.mem_singleton.mp h)
      obtain rfl : v = 10 := by omega
      exact hc.symm
    -- The bytes of any longer form have their top bit set.
    split at h
    · simp only [List.mem_cons, List.not_mem_nil, or_false] at h
      rcases h with h | h <;> have hv := hb h <;> omega
    split at h
    · simp only [List.mem_cons, List.not_mem_nil, or_false] at h
      rcases h with h | h | h <;> have hv := hb h <;> omega
    · simp only [List.mem_cons, List.not_mem_nil, or_false] at h
      rcases h with h | h | h | h <;> have hv := hb h <;> omega
  · rintro rfl
    decide

theorem count_encode (s : List Char) : (encode s).count 10 = s.count '\n' := by
  induction s with
  | nil => rfl
  | cons c s ih =>
    rw [encode_cons, List.count_append, ih]
    by_cases hc : c = '\n'
    · subst hc
      rw [List.count_cons_self, Nat.add_comm]
      rfl
    · rw [List.count_eq_zero.mpr (mt newline_mem_char.mp hc), List.count_cons_of_ne hc,
        Nat.zero_add]

/-- Nothing in it ends a line. -/
def OneLine (s : String) : Prop := '\n' ∉ s.toList

instance : DecidablePred OneLine := fun s => inferInstanceAs (Decidable ('\n' ∉ s.toList))

theorem OneLine.count (h : OneLine a) : a.toList.count '\n' = 0 := List.count_eq_zero.mpr h

theorem OneLine.append (ha : OneLine a) (hb : OneLine b) : OneLine (a ++ b) := by
  rw [OneLine, String.toList_append, List.mem_append, not_or]
  exact ⟨ha, hb⟩

theorem oneLine_ofList : OneLine (String.ofList s) ↔ '\n' ∉ s := by
  rw [OneLine, String.toList_ofList]

theorem digitChar_ne_newline : ∀ m < 16, m.digitChar ≠ '\n' := by decide

theorem newline_not_mem_toDigits (hb : 1 < base ∧ base ≤ 16) :
    '\n' ∉ Nat.toDigits base n := by
  intro h
  obtain ⟨m, hm, hd⟩ := mem_toDigits hb.1 h
  exact digitChar_ne_newline m (by omega) hd.symm

theorem oneLine_nat (n : Nat) : OneLine (toString n) := by
  have h : OneLine (String.ofList (Nat.toDigits 10 n)) :=
    oneLine_ofList.mpr (newline_not_mem_toDigits (by decide))
  exact h

theorem newline_not_mem_codePoint (c : Char) : '\n' ∉ codePoint c := by
  have hd : '\n' ∉ Nat.toDigits 16 c.toNat := newline_not_mem_toDigits (by decide)
  simp [codePoint, hexAtLeast, List.mem_replicate, hd]

theorem newline_not_mem_escapeChar (e : Escaping) (c : Char) : '\n' ∉ escapeChar e c := by
  unfold escapeChar
  split <;> try decide
  rename_i hn _
  split
  · simpa using Ne.symm hn
  split
  · exact newline_not_mem_codePoint c
  split
  · simpa using Ne.symm hn
  · exact newline_not_mem_codePoint c

theorem newline_not_mem_escaped (s : List Char) : '\n' ∉ escaped s := by
  have h (e : Escaping) (s : List Char) : '\n' ∉ s.flatMap (escapeChar e) := by
    intro hm
    obtain ⟨c, -, hc⟩ := List.mem_flatMap.mp hm
    exact newline_not_mem_escapeChar e c hc
  cases s with
  | nil => exact List.not_mem_nil
  | cons c s =>
    intro hm
    rcases List.mem_append.mp hm with hm | hm
    · exact newline_not_mem_escapeChar _ c hm
    · exact h _ s hm

end NodeConsole.Text
