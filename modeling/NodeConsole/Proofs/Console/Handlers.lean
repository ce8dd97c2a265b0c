import NodeConsole.Commands

/-! Which handler answers to a name. -/
namespace NodeConsole.Console

variable {Wait Call : Type} {h : Handler Wait Call} {c : Console Wait Call} {name : String}

theorem find_insert (gs : List (Handler Wait Call)) :
    (insert h gs).find? (·.name = name) =
      if h.name = name then some h else gs.find? (·.name = name) := by
  induction gs with
  | nil => by_cases hn : h.name = name <;> simp [insert, hn]
  | cons g gs ih =>
    unfold insert
    by_cases hlt : h.name < g.name
    · rw [if_pos hlt]
      by_cases hn : h.name = name <;> simp [hn]
    · rw [if_neg hlt]
      by_cases heq : h.name = g.name
      · rw [if_pos heq]
        by_cases hn : h.name = name
        · simp [hn]
        · have hg : g.name ≠ name := heq ▸ hn
          simp [hn, hg]
      · rw [if_neg heq, List.find?_cons, ih]
        by_cases hn : h.name = name
        · have hg : g.name ≠ name := fun hg => heq (hn.trans hg.symm)
          simp [hn, hg]
        · simp [hn, List.find?_cons]

theorem handler_register : (c.register h).handler? name =
    if h.name = name then some h else c.handler? name :=
  find_insert c.handlers

theorem handler_registerAll (hs : List (Handler Wait Call)) :
    (c.registerAll hs).handler? name =
      ((hs.reverse.find? (·.name = name)).or (c.handler? name)) := by
  induction hs generalizing c with
  | nil => simp [registerAll]
  | cons h hs ih =>
    have hr : c.registerAll (h :: hs) = (c.register h).registerAll hs := rfl
    rw [hr, ih, handler_register, List.reverse_cons, List.find?_append]
    by_cases hn : h.name = name <;> simp [hn]

/-- A line whose first word is a name. -/
theorem dispatch_eq_start {line : String} {args : List String} (node : Node)
    (hw : words line = .ok (name :: args)) (hh : c.handler? name = some h) :
    c.dispatch line node = start h args node := by
  simp only [dispatch, hw, hh]

end NodeConsole.Console

namespace NodeConsole

/-- Services that find nothing and reach nobody. -/
def Services.silent : Services where
  lookup _ := .ok []
  reverse _ := .ok none
  fetch _ := .ok []
  greet _ := { outcome := .error (.io "") }

namespace Commands

variable {port : UInt16} {sv : Services} {h : Handler Tail Call} {name : String}

/-- All commands. -/
def handlers (port : UInt16) : List (Handler Tail Call) :=
  [⟨"log", log⟩, ⟨"nslookup", nslookup⟩, ⟨"helo", helo port⟩, ⟨"filter", filter⟩, ⟨"get", get⟩,
    ⟨"chan", chan⟩, ⟨"echo", echo⟩]

/-- Every command answers to its name. -/
theorem handler_iff :
    (console port sv).handler? name = some h ↔ h ∈ handlers port ∧ h.name = name := by
  have hc : (console port sv).handler? name = (handlers port).reverse.find? (·.name = name) := by
    rw [console, Console.handler_registerAll]
    exact Option.or_none
  rw [hc]
  constructor
  · intro hf
    exact ⟨List.mem_reverse.mp (List.mem_of_find?_eq_some hf), by simpa using List.find?_some hf⟩
  · rintro ⟨hm, rfl⟩
    simp only [handlers, List.mem_cons, List.not_mem_nil, or_false] at hm
    -- No two of the names are the same.
    rcases hm with rfl | rfl | rfl | rfl | rfl | rfl | rfl <;> rfl

variable (port : UInt16) (sv : Services)

theorem handler_log : (console port sv).handler? "log" = some ⟨"log", log⟩ :=
  handler_iff.mpr ⟨by simp [handlers], rfl⟩

theorem handler_nslookup : (console port sv).handler? "nslookup" = some ⟨"nslookup", nslookup⟩ :=
  handler_iff.mpr ⟨by simp [handlers], rfl⟩

theorem handler_helo : (console port sv).handler? "helo" = some ⟨"helo", helo port⟩ :=
  handler_iff.mpr ⟨by simp [handlers], rfl⟩

theorem handler_filter : (console port sv).handler? "filter" = some ⟨"filter", filter⟩ :=
  handler_iff.mpr ⟨by simp [handlers], rfl⟩

theorem handler_get : (console port sv).handler? "get" = some ⟨"get", get⟩ :=
  handler_iff.mpr ⟨by simp [handlers], rfl⟩

end Commands
end NodeConsole
