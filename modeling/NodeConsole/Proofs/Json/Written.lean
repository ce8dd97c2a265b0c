import NodeConsole.Json
import NodeConsole.Json.Reader

/-! The texts that write a value. -/
namespace NodeConsole.Json
open Reader (isBlank)

def Blanks (b : List Char) : Prop := ∀ c ∈ b, isBlank c

/-- The rest of a list or an object, up to its end; `first` says that nothing stands before it. -/
inductive Sequence {α : Type} (Item : α → List Char → Prop) (close : Char) :
    (first : Bool) → List α → List Char → Prop
  | nil {first : Bool} {b : List Char} (hb : Blanks b) : Sequence Item close first [] (b ++ [close])
  | first {x : α} {xs : List α} {v w : List Char} (hx : Item x v)
      (h : Sequence Item close false xs w) : Sequence Item close true (x :: xs) (v ++ w)
  | next {x : α} {xs : List α} {b w : List Char} (hb : Blanks b)
      (h : Sequence Item close true (x :: xs) w) :
      Sequence Item close false (x :: xs) (b ++ ',' :: w)

/-- A field of an object. -/
inductive Member (Value : Json → List Char → Prop) : String × Json → List Char → Prop
  | mk {k : String} {x : Json} {b b' v : List Char} (hb : Blanks b) (hb' : Blanks b')
      (hx : Value x v) : Member Value (k, x) (b ++ writeText k ++ b' ++ ':' :: v)

/-- A text that writes a value. -/
inductive Written : Json → List Char → Prop
  | null {b : List Char} (hb : Blanks b) : Written null (b ++ ['n', 'u', 'l', 'l'])
  | nat {b : List Char} (hb : Blanks b) (n : Nat) : Written (nat n) (b ++ writeNat n)
  | text {b : List Char} (hb : Blanks b) (s : String) : Written (text s) (b ++ writeText s)
  | list {b w : List Char} {xs : List Json} (hb : Blanks b)
      (h : Sequence Written ']' true xs w) : Written (list xs) (b ++ '[' :: w)
  | object {b w : List Char} {fs : List (String × Json)} (hb : Blanks b)
      (h : Sequence (Member Written) '\x7d' true fs w) : Written (object fs) (b ++ '\x7b' :: w)

variable {j : Json} {b w : List Char} {level : Nat}

theorem blanks_nil : Blanks [] := nofun

theorem blanks_space : Blanks [' '] := by
  intro c hc
  rw [List.mem_singleton.mp hc]
  rfl

theorem Blanks.append {b' : List Char} (hb : Blanks b) (hb' : Blanks b') : Blanks (b ++ b') :=
  List.forall_mem_append.mpr ⟨hb, hb'⟩

theorem blanks_indent (level : Nat) : Blanks (indent level) := by
  intro c hc
  rcases List.mem_cons.mp hc with rfl | hc
  · rfl
  · rw [List.eq_of_mem_replicate hc]
    rfl

theorem Written.behind (hb : Blanks b) (h : Written j w) : Written j (b ++ w) := by
  cases h with
  | null hc => exact List.append_assoc .. ▸ .null (hb.append hc)
  | nat hc n => exact List.append_assoc .. ▸ .nat (hb.append hc) n
  | text hc s => exact List.append_assoc .. ▸ .text (hb.append hc) s
  | list hc h => exact List.append_assoc .. ▸ .list (hb.append hc) h
  | object hc h => exact List.append_assoc .. ▸ .object (hb.append hc) h

mutual
theorem written_compact : (j : Json) → Written j j.compact
  | .null => .null blanks_nil
  | .nat n => .nat blanks_nil n
  | .text s => .text blanks_nil s
  | .list xs => .list blanks_nil (elements_compact xs)
  | .object fs => .object blanks_nil (members_compact fs)

theorem elements_compact : (xs : List Json) →
    Sequence Written ']' true xs (compactList xs ++ [']'])
  | [] => .nil blanks_nil
  | [x] => .first (written_compact x) (.nil blanks_nil)
  | x :: y :: xs => by
    have h := Sequence.first (written_compact x) (.next blanks_nil (elements_compact (y :: xs)))
    simpa [compactList] using h

theorem members_compact : (fs : List (String × Json)) →
    Sequence (Member Written) '\x7d' true fs (compactFields fs ++ ['\x7d'])
  | [] => .nil blanks_nil
  | [(k, x)] => by
    have hm : Member Written (k, x) _ := .mk blanks_nil blanks_nil (written_compact x)
    simpa [compactFields] using Sequence.first hm (.nil blanks_nil)
  | (k, x) :: f :: fs => by
    have hm : Member Written (k, x) _ := .mk blanks_nil blanks_nil (written_compact x)
    simpa [compactFields] using
      Sequence.first hm (.next blanks_nil (members_compact (f :: fs)))
end

mutual
theorem written_prettyAt (level : Nat) : (j : Json) → Written j (j.prettyAt level)
  | .null => .null blanks_nil
  | .nat n => .nat blanks_nil n
  | .text s => .text blanks_nil s
  | .list [] => .list blanks_nil (.nil blanks_nil)
  | .list (x :: xs) => by
    simpa [prettyAt] using Written.list blanks_nil (elements_pretty level (x :: xs))
  | .object [] => .object blanks_nil (.nil blanks_nil)
  | .object (f :: fs) => by
    simpa [prettyAt] using Written.object blanks_nil (members_pretty level (f :: fs))

theorem elements_pretty (level : Nat) : (xs : List Json) →
    Sequence Written ']' true xs (prettyList (level + 1) xs ++ indent level ++ [']'])
  | [] => .nil (blanks_indent level)
  | [x] => by
    have hx := (written_prettyAt (level + 1) x).behind (blanks_indent (level + 1))
    simpa [prettyList] using Sequence.first hx (.nil (blanks_indent level))
  | x :: y :: xs => by
    have hx := (written_prettyAt (level + 1) x).behind (blanks_indent (level + 1))
    simpa [prettyList] using
      Sequence.first hx (.next blanks_nil (elements_pretty level (y :: xs)))

theorem members_pretty (level : Nat) : (fs : List (String × Json)) →
    Sequence (Member Written) '\x7d' true fs
      (prettyFields (level + 1) fs ++ indent level ++ ['\x7d'])
  | [] => .nil (blanks_indent level)
  | [(k, x)] => by
    have hm : Member Written (k, x) _ := .mk (blanks_indent (level + 1)) blanks_nil
      ((written_prettyAt (level + 1) x).behind blanks_space)
    simpa [prettyFields] using Sequence.first hm (.nil (blanks_indent level))
  | (k, x) :: f :: fs => by
    have hm : Member Written (k, x) _ := .mk (blanks_indent (level + 1)) blanks_nil
      ((written_prettyAt (level + 1) x).behind blanks_space)
    simpa [prettyFields] using
      Sequence.first hm (.next blanks_nil (members_pretty level (f :: fs)))
end

/-- A field that is not the last is shown as by itself at its level. -/
theorem prettyFields_append (level : Nat) (fs : List (String × Json)) (k : String) (x : Json)
    (g : String × Json) (gs : List (String × Json)) : ∃ before,
      prettyFields level (fs ++ (k, x) :: g :: gs) =
        before ++ writeText k ++ ':' :: ' ' :: x.prettyAt level
          ++ ',' :: prettyFields level (g :: gs) := by
  induction fs with
  | nil => exact ⟨indent level, by simp [prettyFields]⟩
  | cons f fs ih =>
    obtain ⟨before, hb⟩ := ih
    obtain ⟨h, t, ht⟩ : ∃ h t, fs ++ (k, x) :: g :: gs = h :: t := by
      cases fs <;> exact ⟨_, _, rfl⟩
    rw [ht] at hb
    refine ⟨indent level ++ writeText f.1 ++ ':' :: ' ' :: f.2.prettyAt level ++ ',' :: before, ?_⟩
    rw [List.cons_append, ht, prettyFields, hb]
    · simp
    · nofun

end NodeConsole.Json
