import NodeConsole.Proofs.Json.Records
import NodeConsole.Proofs.PeerId.Forms

/-! The spellings of an identifier. -/
namespace NodeConsole
open Text (Bytes IsHexDigit hexDigit hexDigit? isBlank valueOf?)

namespace PeerId

variable {id : PeerId} {bs : Bytes} {s t a b : List Char} {c d : Char} {n : Nat}

def IsUpperHexDigit (c : Char) : Prop := ('0' ≤ c ∧ c ≤ '9') ∨ ('A' ≤ c ∧ c ≤ 'F')

instance : DecidablePred IsUpperHexDigit := fun c =>
  inferInstanceAs (Decidable (('0' ≤ c ∧ c ≤ '9') ∨ ('A' ≤ c ∧ c ≤ 'F')))

theorem isUpperHexDigit_upper (h : n < 16) : IsUpperHexDigit (hexDigit n).toUpper := by
  decide +revert

theorem toList_text (id : PeerId) : id.text.toList = id.bytes.flatMap upperHexByte :=
  String.toList_ofList

theorem mem_text (h : c ∈ id.text.toList) : ∃ n < 16, c = (hexDigit n).toUpper := by
  rw [toList_text] at h
  obtain ⟨b, -, hb⟩ := List.mem_flatMap.mp h
  exact mem_upperHexByte hb

theorem length_text (id : PeerId) : id.text.toList.length = 32 := by
  rw [toList_text, length_flatMap_upperHexByte, id.length_bytes]

theorem drop_flatMap_upperHexByte (bs : Bytes) (i : Nat) :
    (bs.flatMap upperHexByte).drop (2 * i) = (bs.drop i).flatMap upperHexByte := by
  induction i generalizing bs with
  | zero => rfl
  | succ i ih =>
    cases bs with
    | nil => rfl
    | cons b bs =>
      rw [List.flatMap_cons, upperHexByte_eq, Nat.mul_succ, List.drop_succ_cons, ← ih]
      rfl

theorem valueOf_upperHexByte (b : UInt8) :
    valueOf? hexDigit? 16 (upperHexByte b) = some b.toNat := by
  have hn : b.toNat / 16 % 16 < 16 := Nat.mod_lt _ (by decide)
  have hd : digit (hexDigit (b.toNat / 16 % 16)).toUpper = (hexDigit (b.toNat / 16 % 16)).toUpper :=
    if_neg (upper_ne_plus hn)
  have hs := signedValue_upperHexByte b
  rwa [upperHexByte_eq, signedValue_pair, hd] at hs

/-- Each byte is shown in the two places that are its own. -/
theorem pair_text {i : Nat} {x : UInt8} (h : id.bytes[i]? = some x) :
    (id.text.toList.drop (2 * i)).take 2 = upperHexByte x := by
  have hd : id.bytes.drop i = x :: id.bytes.drop (i + 1) := by
    obtain ⟨hi, rfl⟩ := List.getElem?_eq_some_iff.mp h
    exact List.drop_eq_getElem_cons hi
  rw [toList_text, drop_flatMap_upperHexByte, hd, List.flatMap_cons]
  rfl

theorem text_injective {id id' : PeerId} (h : id'.text = id.text) : id' = id := by
  have hi := ofText_text id'
  rw [h, ofText_text id] at hi
  exact (Option.some.inj hi).symm

/-- Each character as it is or in lower case. -/
def Cased (s t : List Char) : Prop := List.Forall₂ (fun c d => c = d ∨ c = d.toLower) s t

theorem cased_upper (hn : n < 16)
    (hc : c = (hexDigit n).toUpper ∨ c = (hexDigit n).toUpper.toLower) :
    IsHexDigit c ∧ c.toUpper = (hexDigit n).toUpper ∧ isBlank c = false := by
  rcases hc with rfl | rfl
  · decide +revert
  · decide +revert

/-- What has been cased is as legible as what is shown, and shows the same. -/
theorem Cased.legible (h : Cased s t) (ht : ∀ d ∈ t, ∃ n < 16, d = (hexDigit n).toUpper) :
    (∀ c ∈ s, IsHexDigit c ∧ isBlank c = false) ∧ s.map Char.toUpper = t := by
  induction h with
  | nil => exact ⟨nofun, rfl⟩
  | @cons c d s t hc _ ih =>
    obtain ⟨⟨n, hn, rfl⟩, htail⟩ := List.forall_mem_cons.mp ht
    obtain ⟨hs, hm⟩ := ih htail
    obtain ⟨hd, hu, hb⟩ := cased_upper hn hc
    exact ⟨List.forall_mem_cons.mpr ⟨⟨hd, hb⟩, hs⟩, by rw [List.map_cons, hu, hm]⟩

theorem ofText_cased (h : Cased s id.text.toList) (ha : ∀ c ∈ a, isBlank c)
    (hb : ∀ c ∈ b, isBlank c) : ofText? (String.ofList (a ++ (s ++ b))) = some id := by
  obtain ⟨hs, hm⟩ := h.legible fun d hd => mem_text hd
  have hl : s.length = 32 := by rw [← List.length_map Char.toUpper, hm, length_text]
  have hne : s ≠ [] := List.length_pos_iff.mp (hl ▸ by decide)
  have hc : core (String.ofList (a ++ (s ++ b))) = s := by
    rw [core, String.toList_ofList]
    exact (Text.Tight.of_blankless hne fun c hc => (hs c hc).2).trim_padded ha hb
  obtain ⟨id', hid⟩ := exists_ofText_iff.mpr
    ⟨hc.symm ▸ hl, hc.symm ▸ fun i c hi => .inl (hs c (List.mem_of_getElem? hi)).1⟩
  have hshown : s.map shown = s.map Char.toUpper :=
    List.map_congr_left fun c hc => congrArg Char.toUpper (digit_of_isHexDigit (hs c hc).1)
  have htext : id'.text = id.text := by
    rw [text_of_ofText hid, hc, hshown, hm, String.ofList_toList]
  rw [hid, text_injective htext]

/-- An identifier is read from its 32 digits in any case, between any white space, also as a text in
a document. -/
theorem parse_spelling (id : PeerId) :
    id.text.toList.length = 32 ∧ (∀ c ∈ id.text.toList, IsUpperHexDigit c) ∧
    (∀ i x, id.bytes[i]? = some x →
      valueOf? hexDigit? 16 ((id.text.toList.drop (2 * i)).take 2) = some x.toNat) ∧
    parse id.text = .ok id ∧
    (∀ a s b, (∀ c ∈ a, isBlank c) → (∀ c ∈ b, isBlank c) → Cased s id.text.toList →
      let u := String.ofList (a ++ (s ++ b))
      parse u = .ok id ∧
      (∀ doc, Json.Reader.run Json.Reader.text doc = .ok u →
        Json.Reader.run Json.Reader.peerId doc = .ok id) ∧
      ∀ w e, Json.Written (.text u) w → Json.Blanks e →
        Json.Reader.run Json.Reader.peerId (String.ofList (w ++ e)) = .ok id) ∧
    ∀ id' : PeerId, id'.text = id.text → id' = id := by
  refine ⟨length_text id, ?_, ?_, parse_eq_ok_iff.mpr (ofText_text id), ?_,
    fun id' => text_injective⟩
  · intro c hc
    obtain ⟨n, hn, rfl⟩ := mem_text hc
    exact isUpperHexDigit_upper hn
  · intro i x hx
    rw [pair_text hx]
    exact valueOf_upperHexByte x
  · intro a s b ha hb hs u
    have hu : ofText? u = some id := ofText_cased hs ha hb
    refine ⟨parse_eq_ok_iff.mpr hu, fun doc hdoc => Json.Reader.run_textOf hdoc hu, ?_⟩
    intro w e hw he
    exact Json.Reader.run_textOf (Json.Reader.run_written Json.Reader.reads_text hw he) hu

/-- Digits in both cases behind a wide space, with an escape in the document. -/
theorem parse_spelling_mixed :
    let id : PeerId :=
      ⟨[0, 17, 34, 51, 68, 85, 102, 119, 136, 153, 170, 187, 204, 221, 238, 255], rfl⟩
    parse "\u300000112233445566778899aAbBCCddEeFF\t" = .ok id ∧
      Json.Reader.run Json.Reader.peerId
        "\"\u300000112233445566778899aAbBCCddEe\\u0046F\\t\"" = .ok id := by
  intro id
  obtain ⟨-, -, -, -, h, -⟩ := parse_spelling id
  have hs : Cased "00112233445566778899aAbBCCddEeFF".toList id.text.toList := by
    unfold Cased
    decide
  obtain ⟨hp, hj, -⟩ := h ['\u3000'] _ ['\t'] (List.forall_mem_singleton.mpr rfl)
    (List.forall_mem_singleton.mpr rfl) hs
  have hdoc : Json.Reader.run Json.Reader.text
      "\"\u300000112233445566778899aAbBCCddEe\\u0046F\\t\"" =
        .ok "\u300000112233445566778899aAbBCCddEeFF\t" := by rfl
  exact ⟨hp, hj _ hdoc⟩

end PeerId
end NodeConsole
