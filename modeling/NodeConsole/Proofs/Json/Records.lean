import NodeConsole.Proofs.Json.Reading

/-! Readers of lists and records. -/
namespace NodeConsole.Json.Reader

variable {b s t w : List Char} {α : Type} {read : Reader α} {put : α → Json}

section Sequences

variable {Item : α → List Char → Prop} {close : Char} {first : Bool} {as : List α}

theorem sequence_length (hi : ∀ a v, Item a v → v ≠ []) (h : Sequence Item close first as w) :
    as.length < w.length := by
  induction h with
  | nil hb => simp
  | first hx h ih =>
    have hv := List.length_pos_iff.mpr (hi _ _ hx)
    simp only [List.length_cons, List.length_append]
    omega
  | next hb h ih =>
    simp only [List.length_cons, List.length_append] at ih ⊢
    omega

theorem sequence_ends (hc : stops close) (h : Sequence Item close false as w) (t : List Char) :
    Ends (w ++ t) := by
  cases h with
  | nil hb => rw [List.append_assoc]; exact (ends_cons hc _).blanks hb
  | next hb h => rw [List.append_assoc]; exact (ends_cons rfl _).blanks hb

end Sequences

theorem written_ne_nil (j : Json) (w : List Char) (h : Written j w) : w ≠ [] := by
  rintro rfl
  obtain ⟨c, v, -, hs, -⟩ := written_head h
  have he : [] = c :: (v ++ []) := hs []
  contradiction

theorem member_ne_nil (m : String × Json) (w : List Char) (h : Member Written m w) : w ≠ [] := by
  cases h
  simp

variable {first : Bool} {x : Json} {xs : List Json}

theorem another_nil (h : Sequence Written ']' first [] w) (t : List Char) :
    another first (w ++ t) = .ok (false, ']' :: t) := by
  cases h with
  | nil hb =>
    unfold another
    rw [List.append_assoc, skipBlanks_append hb]
    rfl

theorem another_first {c : Char} (hs : skipBlanks s = c :: t) (hc : c ≠ ']') :
    another true s = .ok (true, c :: t) := by
  unfold another
  rw [hs]
  split
  · contradiction
  · rename_i he
    exact absurd (List.cons.inj he).1 hc
  · rename_i he
    rw [← he]
    rfl

theorem another_next {c : Char} (hb : Blanks b) (hs : skipBlanks s = c :: t) (hc : c ≠ ']') :
    another false (b ++ ',' :: s) = .ok (true, c :: t) := by
  unfold another
  rw [skipBlanks_append hb, skipBlanks_cons rfl]
  split
  · contradiction
  · rename_i he
    exact absurd (List.cons.inj he).1 (by decide)
  · rename_i he
    obtain ⟨rfl, rfl⟩ := List.cons.inj he
    rw [if_neg Bool.false_ne_true, if_pos rfl, hs]
    split
    · contradiction
    · rename_i he
      exact absurd (List.cons.inj he).1 hc
    · rfl

theorem another_cons (h : Sequence Written ']' first (x :: xs) w) (t : List Char) :
    ∃ v w', Written x v ∧ Sequence Written ']' false xs w' ∧
      another first (w ++ t) = .ok (true, v ++ (w' ++ t)) := by
  cases h with
  | first hx h =>
    obtain ⟨c, v, hv, hs, hc, -⟩ := written_head hx
    refine ⟨c :: v, _, hv, h, ?_⟩
    rw [List.append_assoc]
    exact another_first (hs _) hc
  | next hb h =>
    cases h with
    | first hx h =>
      obtain ⟨c, v, hv, hs, hc, -⟩ := written_head hx
      refine ⟨c :: v, _, hv, h, ?_⟩
      rw [List.append_assoc, List.cons_append, List.append_assoc]
      exact another_next hb (hs _) hc

theorem listFrom_written (hr : Reads read put) (as : List α) {fuel : List Char}
    (hf : as.length < fuel.length) (h : Sequence Written ']' first (as.map put) w)
    (out : List α) :
    listFrom read fuel first out (w ++ t) = .ok (out.reverse ++ as, t) := by
  induction as generalizing fuel first w out with
  | nil =>
    cases fuel with
    | nil => exact absurd hf (Nat.not_lt_zero _)
    | cons f fuel =>
      rw [listFrom, another_nil h, List.append_nil]
      rfl
  | cons a as ih =>
    cases fuel with
    | nil => exact absurd hf (Nat.not_lt_zero _)
    | cons f fuel =>
      obtain ⟨v, w', hv, hw, ha⟩ := another_cons h t
      rw [listFrom, ha]
      simp only [bind, Except.bind, if_true, hr a hv (sequence_ends rfl hw t),
        ih (Nat.lt_of_succ_lt_succ hf) hw, List.reverse_cons, List.append_assoc,
        List.singleton_append]

theorem reads_list (hr : Reads read put) : Reads (list read) fun as => .list (as.map put) := by
  intro as w t h _
  cases h with
  | list hb h =>
    have hl := sequence_length written_ne_nil h
    unfold list
    rw [List.append_assoc, skipBlanks_append hb, List.cons_append, skipBlanks_cons rfl]
    refine listFrom_written hr as ?_ h []
    rw [List.length_map] at hl
    simp only [List.length_cons, List.length_append]
    omega

variable {σ : Type} {fields : List (Field σ)} {k : String} {ms : List (String × Json)}

theorem expect_written (hb : Blanks b) {c : Char} (hc : isBlank c = false) (s : List Char) :
    expect c (skipBlanks (b ++ c :: s)) = .ok s := by
  rw [skipBlanks_append hb, skipBlanks_cons hc, expect, if_pos rfl]

theorem anotherName_nil (h : Sequence (Member Written) '\x7d' first [] w) (t : List Char) :
    anotherName first (w ++ t) = .ok (false, t) := by
  cases h with
  | nil hb =>
    unfold anotherName
    rw [List.append_assoc, skipBlanks_append hb]
    rfl

theorem anotherName_first (hs : skipBlanks s = '"' :: t) : anotherName true s = .ok (true, t) := by
  unfold anotherName
  rw [hs]
  rfl

theorem anotherName_next (hb : Blanks b) (hs : skipBlanks s = '"' :: t) :
    anotherName false (b ++ ',' :: s) = .ok (true, t) := by
  unfold anotherName
  rw [skipBlanks_append hb, skipBlanks_cons rfl]
  change (expect '"' (skipBlanks s)).map (true, ·) = _
  rw [hs]
  rfl

/-- The text after the opening quote of a name. -/
theorem member_name (h : Member Written (k, x) w) (t : List Char) :
    ∃ b v, Blanks b ∧ Written x v ∧
      skipBlanks (w ++ t) =
        '"' :: (k.toList.flatMap Json.escape ++ '"' :: (b ++ ':' :: (v ++ t))) := by
  cases h with
  | @mk _ _ b b' v hb hb' hx =>
    refine ⟨b', v, hb', hx, ?_⟩
    have he : b ++ writeText k ++ b' ++ ':' :: v ++ t =
        b ++ '"' :: (k.toList.flatMap Json.escape ++ '"' :: (b' ++ ':' :: (v ++ t))) := by
      simp [writeText]
    rw [he, skipBlanks_append hb]
    exact skipBlanks_cons rfl _

theorem anotherName_cons (h : Sequence (Member Written) '\x7d' first ((k, x) :: ms) w)
    (t : List Char) : ∃ b v w', Blanks b ∧ Written x v ∧
      Sequence (Member Written) '\x7d' false ms w' ∧
      anotherName first (w ++ t) =
        .ok (true, k.toList.flatMap Json.escape ++ '"' :: (b ++ ':' :: (v ++ (w' ++ t)))) := by
  cases h with
  | @first _ _ _ w' hm h =>
    obtain ⟨b, v, hb, hv, hs⟩ := member_name hm (w' ++ t)
    refine ⟨b, v, w', hb, hv, h, ?_⟩
    rw [List.append_assoc]
    exact anotherName_first hs
  | next hc h =>
    cases h with
    | @first _ _ _ w' hm h =>
      obtain ⟨b, v, hb, hv, hs⟩ := member_name hm (w' ++ t)
      refine ⟨b, v, w', hb, hv, h, ?_⟩
      rw [List.append_assoc, List.cons_append, List.append_assoc]
      exact anotherName_next hc hs

/-- What a field of an object writes, and what becomes of the record when it is read. -/
structure Part (σ : Type) where
  name : String
  value : Json
  set : σ → σ

/-- A field takes the value for what it sets. -/
def Part.Fits (fields : List (Field σ)) (p : Part σ) : Prop :=
  ∃ f, fields.find? (·.name = p.name) = some f ∧
    ∀ {w t : List Char}, Written p.value w → Ends t → f.read (w ++ t) = .ok (p.set, t)

def Part.of (name : String) (put : α → Json) (set : α → σ → σ) (a : α) : Part σ :=
  ⟨name, put a, set a⟩

theorem fits_of_reads {f : Field σ} {set : α → σ → σ} (hf : fields.find? (·.name = k) = some f)
    (he : f.read = map set read) (hr : Reads read put) (a : α) :
    (Part.of k put set a).Fits fields := by
  refine ⟨f, hf, ?_⟩
  intro w t h ht
  rw [he]
  exact map_of_ok set (hr a h ht)

theorem objectFrom_written {parts : List (Part σ)} (hp : ∀ p ∈ parts, p.Fits fields)
    {seen : List String} (hn : (parts.map (·.name) ++ seen).Nodup)
    (ho : ∀ f ∈ fields, f.optional ∨ f.name ∈ parts.map (·.name) ++ seen) {fuel : List Char}
    (hf : parts.length < fuel.length)
    (h : Sequence (Member Written) '\x7d' first (parts.map fun p => (p.name, p.value)) w) (a : σ) :
    objectFrom fields fuel first seen a (w ++ t) = .ok (parts.foldl (fun a p => p.set a) a, t) := by
  induction parts generalizing fuel first seen w a with
  | nil =>
    cases fuel with
    | nil => exact absurd hf (Nat.not_lt_zero _)
    | cons c fuel =>
      have hall : (fields.all fun f => f.optional || seen.contains f.name) = true := by
        simpa using ho
      rw [objectFrom, anotherName_nil h]
      simp only [bind, Except.bind, hall]
      rfl
  | cons p parts ih =>
    cases fuel with
    | nil => exact absurd hf (Nat.not_lt_zero _)
    | cons c fuel =>
      obtain ⟨⟨f, hfind, hread⟩, hp⟩ := List.forall_mem_cons.mp hp
      obtain ⟨b, v, w', hb, hv, hw, ha⟩ := anotherName_cons h t
      -- The names read and the names to come stay the same as a whole, so none comes twice.
      have hperm : (parts.map (·.name) ++ p.name :: seen).Perm
          ((p :: parts).map (·.name) ++ seen) := List.perm_middle
      have hs : seen.contains p.name = false := by
        have hnot : p.name ∉ parts.map (·.name) ++ seen := (List.nodup_cons.mp hn).1
        rw [List.mem_append, not_or] at hnot
        simpa using hnot.2
      have he : expect ':' (skipBlanks (b ++ ':' :: (v ++ (w' ++ t)))) = .ok (v ++ (w' ++ t)) :=
        expect_written hb rfl _
      have hrest := ih hp (hperm.nodup_iff.mpr hn)
        (fun f hf => (ho f hf).imp_right hperm.mem_iff.mpr) (Nat.lt_of_succ_lt_succ hf) hw (p.set a)
      rw [objectFrom, ha]
      simp only [bind, Except.bind, if_true, textBody_written, hfind, hs, Bool.false_eq_true,
        if_false, he, hread hv (sequence_ends rfl hw t)]
      exact hrest

theorem record_written (parts : List (Part σ)) (hp : ∀ p ∈ parts, p.Fits fields)
    (hn : (parts.map (·.name)).Nodup)
    (ho : ∀ f ∈ fields, f.optional ∨ f.name ∈ parts.map (·.name))
    (h : Written (.object (parts.map fun p => (p.name, p.value))) w) (a : σ) :
    record fields a (w ++ t) = .ok (parts.foldl (fun a p => p.set a) a, t) := by
  cases h with
  | object hb h =>
    have hl := sequence_length member_ne_nil h
    rw [List.length_map] at hl
    unfold record
    rw [List.append_assoc, skipBlanks_append hb, List.cons_append, skipBlanks_cons rfl]
    refine objectFrom_written hp ?_ ?_ ?_ h a
    · rwa [List.append_nil]
    · rwa [List.append_nil]
    · simp only [List.length_cons, List.length_append]
      omega

theorem run_of_read {a : α} (h : read (w ++ b) = .ok (a, b)) (hb : Blanks b) :
    run read (String.ofList (w ++ b)) = .ok a := by
  have hs : skipBlanks b = [] := by
    rw [← List.append_nil b, skipBlanks_append hb]
    rfl
  rw [run, String.toList_ofList, h]
  simp only [bind, Except.bind, hs]
  rfl

theorem run_written (hr : Reads read put) {a : α} (h : Written (put a) w) (hb : Blanks b) :
    run read (String.ofList (w ++ b)) = .ok a := by
  have ht : Ends b := by
    rw [← List.append_nil b]
    exact ends_nil.blanks hb
  exact run_of_read (hr a h ht) hb

/-- However a text is spelt, what is made of it is what `f` makes of the text. -/
theorem run_textOf {f : String → Option α} {a : α} {u doc : String} (h : run text doc = .ok u)
    (hf : f u = some a) : run (textOf f) doc = .ok a := by
  unfold run at h ⊢
  cases ht : text doc.toList with
  | error e => simp [ht, bind, Except.bind] at h
  | ok p =>
    obtain ⟨v, r⟩ := p
    simp only [ht, bind, Except.bind] at h
    split at h
    · rename_i hr
      obtain rfl : v = u := Except.ok.inj h
      have ho : textOf f doc.toList = .ok (a, r) := textOf_eq_ok_iff.mpr ⟨v, ht, hf⟩
      simp only [ho, bind, Except.bind, if_pos hr]
      rfl
    · contradiction

end NodeConsole.Json.Reader
