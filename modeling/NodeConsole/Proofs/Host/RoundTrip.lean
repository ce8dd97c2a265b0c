import Mathlib.Data.Bool.AllAny
import NodeConsole.Proofs.Host.Forms

/-! Addresses read back from the texts that show them. -/
namespace NodeConsole.Host
open Text (isBlank Tight trim)

variable {default n : UInt16} {h : Host} {port : Option UInt16} {name : List Char}

def digits (n : UInt16) : List Char := Nat.toDigits 10 n.toNat

theorem text_eq (h : Host) : h.text.toList =
    if ':' ∈ h.name.toList then '[' :: (h.name.toList ++ ']' :: ':' :: digits h.port)
    else h.name.toList ++ ':' :: digits h.port := by
  unfold text
  split
  · rename_i hc
    rw [if_pos (by simpa using hc)]
    simp [digits]
    rfl
  · rename_i hc
    rw [if_neg (by simpa using hc)]
    simp [digits]
    rfl

theorem suffix_digits : Suffix (':' :: digits n) port ↔ port = some n ∧ n ≠ 0 := by
  have hd : Text.natural? (digits n) = some n.toNat := Text.natural_toDigits n.toNat
  constructor
  · intro hs
    cases hs with
    | @port p m hp =>
      obtain ⟨hm, h0⟩ := port_eq_some_iff.mp hp
      obtain rfl : n = m := UInt16.toNat_inj.mp (Option.some.inj (hd.symm.trans hm))
      exact ⟨rfl, h0⟩
  · rintro ⟨rfl, h0⟩
    exact .port (port_eq_some_iff.mpr ⟨hd, h0⟩)

theorem tight_digits (n : UInt16) : Tight (':' :: digits n) := by
  apply Tight.of_blankless (by simp)
  intro c hc
  rcases List.mem_cons.mp hc with rfl | hc
  · decide
  · exact (isBlank_digit (Text.isSome_of_mem_toDigits hc)).2

theorem trim_text (h : Host) : trim h.text.toList =
    if ':' ∈ h.name.toList then '[' :: (h.name.toList ++ ']' :: ':' :: digits h.port)
    else h.name.toList.dropWhile isBlank ++ ':' :: digits h.port := by
  have ht := (tight_digits h.port).trim_behind
  rw [text_eq]
  split
  · have hb := ht ('[' :: (h.name.toList ++ [']']))
    rw [List.dropWhile_cons_of_neg (by decide)] at hb
    simpa using hb
  · exact ht _

/-- The text of the address has a form that gives the address back. -/
def Legible (h : Host) : Prop :=
  h.port ≠ 0 ∧ if ':' ∈ h.name.toList then ']' ∉ h.name.toList else Plain h.name.toList

theorem form_text (hl : Legible h) : Form h.name.toList (some h.port) h.text.toList := by
  obtain ⟨h0, hn⟩ := hl
  have hs : Suffix (':' :: digits h.port) (some h.port) := suffix_digits.mpr ⟨rfl, h0⟩
  rw [text_eq]
  by_cases hc : ':' ∈ h.name.toList
  · rw [if_pos hc] at hn ⊢
    exact .bracketed (List.ne_nil_of_mem hc) hn hs
  · rw [if_neg hc] at hn ⊢
    cases hs with
    | port hp => exact .named hn hc hp

theorem legible_of_form (hf : Form h.name.toList port (trim h.text.toList)) : Legible h := by
  rw [trim_text] at hf
  by_cases hc : ':' ∈ h.name.toList
  · rw [if_pos hc, form_bracket_iff] at hf
    obtain ⟨e, he, hb, hs, -⟩ := hf
    obtain rfl : ':' :: digits h.port = e := (List.cons.inj (List.append_cancel_left he)).2
    exact ⟨(suffix_digits.mp hs).2, by rwa [if_pos hc]⟩
  · rw [if_neg hc] at hf
    -- The first colon of the text is the one behind what is left of the name.
    have hx : cut? ':' (h.name.toList.dropWhile isBlank ++ ':' :: digits h.port) =
        some (h.name.toList.dropWhile isBlank, digits h.port) :=
      cut_eq_some_iff.mpr ⟨rfl, fun hm => hc ((List.dropWhile_suffix _).subset hm)⟩
    have hl : (h.name.toList.dropWhile isBlank).length ≤ h.name.toList.length :=
      (List.dropWhile_suffix _).length_le
    generalize h.name.toList.dropWhile isBlank ++ ':' :: digits h.port = t at hf hx
    cases hf with
    | bracketed hn hb he =>
      have hc : ':' ∉ '[' :: (h.name.toList ++ [']']) := by simp [hc]
      cases he with
      | none => exact absurd (cut_eq_none_iff.mpr hc) (by simp [hx])
      | @port p n hp =>
        have hy : cut? ':' ('[' :: (h.name.toList ++ ']' :: ':' :: p)) =
            some ('[' :: (h.name.toList ++ [']']), p) := cut_eq_some_iff.mpr ⟨by simp, hc⟩
        rw [hy, Option.some.injEq, Prod.mk.injEq] at hx
        rw [← hx.1, List.length_cons, List.length_append] at hl
        omega
    | @named p n hn _ hp =>
      rw [cut_eq_some_iff.mpr ⟨rfl, hc⟩] at hx
      obtain ⟨-, rfl⟩ := Prod.mk.inj (Option.some.inj hx)
      exact ⟨(suffix_digits.mp (.port hp)).2, by rwa [if_neg hc]⟩
    | alone => exact absurd (cut_eq_none_iff.mpr hc) (by simp [hx])

/-- Blanks around a form do not matter. -/
theorem ofText_of_form {s pre post : String} (hf : Form h.name.toList port s.toList)
    (ha : ∀ c ∈ pre.toList, isBlank c) (hz : ∀ c ∈ post.toList, isBlank c) :
    ofText? default (pre ++ s ++ post) = some ⟨h.name, port.getD default⟩ := by
  rw [ofText_eq_some_iff]
  refine ⟨h.name.toList, port, ?_, by rw [String.ofList_toList]⟩
  rw [String.toList_append, String.toList_append, List.append_assoc, hf.tight.trim_padded ha hz]
  exact hf

/-- The port for an address that gives none does not matter either. -/
theorem ofText_text_iff : ofText? default h.text = some h ↔ Legible h := by
  constructor
  · intro hr
    obtain ⟨name, port, hf, he⟩ := ofText_eq_some_iff.mp hr
    have hn : name = h.name.toList := by rw [he, String.toList_ofList]
    exact legible_of_form (hn ▸ hf)
  · intro hl
    have hr : ofText? default ("" ++ h.text ++ "") = some h :=
      ofText_of_form (form_text hl) (by simp) (by simp)
    simpa using hr

/-- A name without a port. One colon alone would be taken for the one before a port. -/
def bare (h : Host) : String :=
  if h.name.toList.count ':' = 1 then s!"[{h.name}]" else h.name

theorem form_bare (hn : Plain h.name.toList) (hb : ']' ∉ h.name.toList) :
    Form h.name.toList none h.bare.toList := by
  unfold bare
  split
  · have ht : (s!"[{h.name}]").toList = '[' :: (h.name.toList ++ ']' :: []) := by
      simp
      rfl
    rw [ht]
    exact .bracketed hn.ne_nil hb .none
  · rename_i hc
    exact .alone hn hc

/-- An address of a plain name, however many colons are in it, is read from either form with any
blanks around it. -/
theorem ofText_padded {pre post : String} (hn : h.name ≠ "")
    (hb : ∀ c ∈ h.name.toList, isBlank c = false ∧ c ≠ '[' ∧ c ≠ ']') (h0 : h.port ≠ 0)
    (ha : ∀ c ∈ pre.toList, isBlank c) (hz : ∀ c ∈ post.toList, isBlank c) (default : UInt16) :
    ofText? default (pre ++ h.text ++ post) = some h ∧
      ofText? default (pre ++ h.bare ++ post) = some ⟨h.name, default⟩ := by
  have hp : Plain h.name.toList := by
    refine ⟨by simpa using hn, ?_, fun c hc => (hb c hc).1⟩
    intro hh
    exact (hb '[' (List.mem_of_mem_head? hh)).2.1 rfl
  have hc : ']' ∉ h.name.toList := fun hm => (hb ']' hm).2.2 rfl
  have hl : Legible h := ⟨h0, by split <;> assumption⟩
  exact ⟨ofText_of_form (form_text hl) ha hz, ofText_of_form (form_bare hp hc) ha hz⟩

/-- A version 6 address, and a name that could be taken for one with a port. -/
theorem ofText_padded_colons :
    ofText? 7144 " [fe80::1]:80\t" = some ⟨"fe80::1", 80⟩ ∧
      ofText? 7144 " fe80::1\t" = some ⟨"fe80::1", 7144⟩ ∧
      ofText? 7144 " [a:b]\t" = some ⟨"a:b", 7144⟩ := by
  have h (h : Host) (hn : h.name ≠ "")
      (hb : ∀ c ∈ h.name.toList, isBlank c = false ∧ c ≠ '[' ∧ c ≠ ']') (h0 : h.port ≠ 0) :
      ofText? 7144 (" " ++ h.text ++ "\t") = some h ∧
        ofText? 7144 (" " ++ h.bare ++ "\t") = some ⟨h.name, 7144⟩ :=
    ofText_padded hn hb h0 (List.all_eq_true.mp (by decide)) (List.all_eq_true.mp (by decide)) 7144
  have h6 := h ⟨"fe80::1", 80⟩ (by decide) (List.all_iff_forall_prop.mp (by decide)) (by decide)
  have h1 := h ⟨"a:b", 80⟩ (by decide) (List.all_iff_forall_prop.mp (by decide)) (by decide)
  exact ⟨h6.1, h6.2, h1.2⟩

/-- A text does not both give a port and leave it out. -/
theorem port_unique {s : String} {p q : Option UInt16} {m : List Char}
    (hf : Form name p (trim s.toList)) (hg : Form m q (trim s.toList)) : p = q := by
  have he (d : UInt16) : p.getD d = q.getD d := by
    have hp : ofText? d s = _ := ofText_eq_some_iff.mpr ⟨name, p, hf, rfl⟩
    have hq : ofText? d s = _ := ofText_eq_some_iff.mpr ⟨m, q, hg, rfl⟩
    exact (Host.mk.inj (Option.some.inj (hp.symm.trans hq))).2
  cases p with
  | none =>
    cases q with
    | none => rfl
    | some n => exact absurd ((he 0).trans (he 1).symm) (by decide)
  | some n =>
    cases q with
    | none => exact absurd ((he 0).symm.trans (he 1)) (by decide)
    | some m => exact congrArg some (he 0)

/-- An accepted address is read back just when its text has no blank within, no default of 0 and no
stray bracket. -/
theorem accepted_sound_iff {s : String} (ha : ofText? default s = some h) :
    h.name ≠ "" ∧
      (((∀ c ∈ h.name.toList, isBlank c = false) ∧ h.port ≠ 0 ∧
          ∀ default', ofText? default' h.text = some h) ↔
        (∀ c ∈ trim s.toList, isBlank c = false) ∧
          (default = 0 → ∃ n, Form h.name.toList (some n) (trim s.toList)) ∧
          if ':' ∈ h.name.toList then ']' ∉ h.name.toList
          else h.name.toList.head? ≠ some '[') := by
  obtain ⟨name, port, hf, rfl⟩ := ofText_eq_some_iff.mp ha
  simp only [ofText_text_iff, forall_const, String.toList_ofList, hf.blankless_iff, Legible]
  refine ⟨by simpa using hf.ne_nil, ?_⟩
  constructor
  · rintro ⟨hb, h0, -, hl⟩
    refine ⟨hb, ?_, ?_⟩
    · rintro rfl
      cases port with
      | none => exact absurd rfl h0
      | some n => exact ⟨n, hf⟩
    · by_cases hc : ':' ∈ name
      · rw [if_pos hc] at hl ⊢
        exact hl
      · rw [if_neg hc] at hl ⊢
        exact hl.head
  · rintro ⟨hb, hd, hl⟩
    have h0 : port.getD default ≠ 0 := by
      cases port with
      | none =>
        rintro rfl
        obtain ⟨n, hg⟩ := hd rfl
        exact Option.some_ne_none n (port_unique hg hf)
      | some n => exact hf.port_ne_zero
    refine ⟨hb, h0, h0, ?_⟩
    by_cases hc : ':' ∈ name
    · rw [if_pos hc] at hl ⊢
      exact hl
    · rw [if_neg hc] at hl ⊢
      exact ⟨hf.ne_nil, hl, hb⟩

/-- A version 6 address that is written without brackets. -/
theorem accepted_sound_iff_bare :
    ofText? 7144 " ::1" = some ⟨"::1", 7144⟩ ∧
      ∀ default', ofText? default' "[::1]:7144" = some ⟨"::1", 7144⟩ := by
  have ha : ofText? 7144 " ::1" = some ⟨"::1", 7144⟩ := by decide +kernel
  have hb : ∀ c ∈ trim " ::1".toList, isBlank c = false :=
    List.all_iff_forall_prop.mp (by decide +kernel)
  have hs := (accepted_sound_iff ha).2.mpr ⟨hb, fun h0 => absurd h0 (by decide), by decide⟩
  exact ⟨ha, hs.2.2⟩

/-- Brackets keep a blank; a default port of 0 is taken; a stray bracket is taken for one around the
name. -/
theorem accepted_unsound :
    ofText? 7144 "[a b]:80" = some ⟨"a b", 80⟩ ∧ ofText? 7144 "a b:80" = none ∧
      ofText? 0 "a" = some ⟨"a", 0⟩ ∧
      ofText? 7144 "[[a]" = some ⟨"[a", 7144⟩ ∧ ofText? 7144 "[a:7144" = none ∧
      ofText? 7144 "a]::" = some ⟨"a]::", 7144⟩ ∧ ofText? 7144 "[a]::]:7144" = none ∧
      ¬ ∀ (default : UInt16) (s : String) (h : Host), ofText? default s = some h →
        h.name ≠ "" ∧ (∀ c ∈ h.name.toList, isBlank c = false) ∧ h.port ≠ 0 ∧
          ∀ default', ofText? default' h.text = some h := by
  have hb : ofText? 7144 "[a b]:80" = some ⟨"a b", 80⟩ := by decide +kernel
  refine ⟨hb, by decide +kernel, by decide +kernel, by decide +kernel, by decide +kernel,
    by decide +kernel, by decide +kernel, ?_⟩
  intro hall
  exact absurd ((hall 7144 "[a b]:80" ⟨"a b", 80⟩ hb).2.1 ' ' (by decide)) (by decide)

end NodeConsole.Host
