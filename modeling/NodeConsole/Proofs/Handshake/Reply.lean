import NodeConsole.Handshake
import NodeConsole.Proofs.Atom.Canonical
import NodeConsole.Proofs.PeerId

/-! The handshake for every reply. -/
namespace NodeConsole
open Text (Bytes)

namespace Atom

variable {id n : AtomId} {as : List Atom} {a b c : Atom} {s : Bytes} {t : String}
  {fault : ReadFault}

/-- The stream begins with `a`, which is within the limits. -/
def Accepted (s : Bytes) (a : Atom) : Prop := a.Fits ∧ a.encode <+: s

theorem read_ok_iff : (read s).outcome = .ok a ↔ Accepted s a := run_ok_iff

/-- `c` is the first of the atoms with its identifier. -/
def First (as : List Atom) (c : Atom) : Prop :=
  ∃ before after, as = before ++ c :: after ∧ ∀ b ∈ before, b.id ≠ c.id

theorem child?_eq_some_iff : (parent n as).child? id = some c ↔ c.id = id ∧ First as c := by
  simp only [child?, List.find?_eq_some_iff_append, decide_eq_true_eq, First]
  constructor
  · rintro ⟨rfl, before, after, rfl, hb⟩
    exact ⟨rfl, before, after, rfl, by simpa using hb⟩
  · rintro ⟨rfl, before, after, rfl, hb⟩
    exact ⟨rfl, before, after, rfl, by simpa using hb⟩

theorem child?_eq_none_iff : (parent n as).child? id = none ↔ ∀ c ∈ as, c.id ≠ id := by
  simp [child?]

/-- The agent that children tell of: the text of the first agent atom up to a zero byte. -/
inductive Agent (as : List Atom) : String → Prop
  | absent (h : ∀ c ∈ as, c.id ≠ .agent) : Agent as ""
  | parent {cs} (h : First as (.parent .agent cs)) : Agent as ""
  | text {data} (h : First as (.leaf .agent data)) :
      Agent as (String.ofList (Text.decode (data.takeWhile (· ≠ 0))))

theorem agent_iff :
    (((parent n as).child? .agent).bind text?).getD "" = t ↔ Agent as t := by
  constructor
  · rintro rfl
    cases hc : (parent n as).child? .agent with
    | none => exact .absent (child?_eq_none_iff.mp hc)
    | some c =>
      obtain ⟨hid, hf⟩ := child?_eq_some_iff.mp hc
      cases c with
      | leaf k data =>
        obtain rfl : k = .agent := hid
        exact .text hf
      | parent k cs =>
        obtain rfl : k = .agent := hid
        exact .parent hf
  · intro h
    cases h with
    | absent h =>
      rw [child?_eq_none_iff.mpr h]
      rfl
    | @parent cs h =>
      have hc : (parent n as).child? .agent = some (.parent .agent cs) :=
        child?_eq_some_iff.mpr ⟨rfl, h⟩
      rw [hc]
      rfl
    | @text data h =>
      have hc : (parent n as).child? .agent = some (.leaf .agent data) :=
        child?_eq_some_iff.mpr ⟨rfl, h⟩
      rw [hc]
      rfl

theorem exists_agent (as : List Atom) : ∃ t, Agent as t := ⟨_, (agent_iff (n := .oleh)).mp rfl⟩

/-- The code of a farewell, 0 unless it is a leaf of four bytes. -/
def quitCode : Atom → Nat
  | leaf _ [x, y, z, w] => x.toNat + y.toNat * 256 + z.toNat * 65536 + w.toNat * 16777216
  | _ => 0

theorem toNat_int? : (a : Atom) → (a.int?.getD 0).toNat = a.quitCode
  | leaf _ [x, y, z, w] => toNat_ofWord x y z w
  | leaf _ [] | leaf _ [_] | leaf _ [_, _] | leaf _ [_, _, _] => rfl
  | leaf _ (_ :: _ :: _ :: _ :: _ :: _) => rfl
  | parent .. => rfl

end Atom

namespace Greeter
open Atom (Accepted First Agent quitCode)

variable {a : Atom} {h : Hello} {f : Failure}

/-- The atom is a welcome from `h`: its first session atom is the sixteen bytes that identify it. -/
def Welcomes (a : Atom) (h : Hello) : Prop :=
  ∃ children data, a = .parent .oleh children ∧ First children (.leaf .session data) ∧
    data.length = 16 ∧ h.remote.bytes = data ∧ Agent children h.agent

/-- Why an atom is not a welcome. -/
inductive Refusal (a : Atom) : Failure → Prop
  | quit (hq : a.id = .quit) : Refusal a (.protocol s!"remote quit ({a.quitCode})")
  | nameless (ho : a.id = .oleh)
      (hs : ∀ children data, a = .parent .oleh children → First children (.leaf .session data) →
        data.length ≠ 16) :
      Refusal a (.protocol "'oleh' without session id")
  | unexpected (ho : a.id ≠ .oleh) (hq : a.id ≠ .quit) :
      Refusal a (.protocol s!"unexpected '{a.id.text}' atom")

theorem hello?_parent {n : AtomId} {children : List Atom} :
    hello? (.parent n children) = some h ↔
      ∃ data, First children (.leaf .session data) ∧ h.remote.bytes = data ∧
        Agent children h.agent := by
  simp only [hello?, Option.bind_eq_bind, Option.bind_eq_some_iff, Option.pure_def,
    Option.some.injEq]
  constructor
  · rintro ⟨c, hc, data, hd, remote, hr, rfl⟩
    obtain ⟨hid, hf⟩ := Atom.child?_eq_some_iff.mp hc
    cases c with
    | leaf k bytes =>
      obtain rfl : k = .session := hid
      obtain rfl : bytes = data := Option.some.inj hd
      exact ⟨bytes, hf, PeerId.ofBytes_eq_some_iff.mp hr, Atom.agent_iff.mp rfl⟩
    | parent => contradiction
  · rintro ⟨data, hf, hr, ha⟩
    have hc : (Atom.parent n children).child? .session = some (.leaf .session data) :=
      Atom.child?_eq_some_iff.mpr ⟨rfl, hf⟩
    refine ⟨_, hc, data, rfl, h.remote, PeerId.ofBytes_eq_some_iff.mpr hr, ?_⟩
    rw [Atom.agent_iff.mpr ha]

theorem hello?_iff (ho : a.id = .oleh) : hello? a = some h ↔ Welcomes a h := by
  cases a with
  | leaf k data =>
    constructor
    · nofun
    · rintro ⟨_, _, ⟨⟩, _⟩
  | parent k children =>
    obtain rfl : k = .oleh := ho
    rw [hello?_parent]
    constructor
    · rintro ⟨data, hf, rfl, ha⟩
      exact ⟨children, _, rfl, hf, h.remote.length_bytes, rfl, ha⟩
    · rintro ⟨_, data, ⟨⟩, hf, -, hr, ha⟩
      exact ⟨data, hf, hr, ha⟩

/-- A first session atom of sixteen bytes makes a welcome, whatever the other children are. -/
theorem hello?_eq_none_iff (ho : a.id = .oleh) :
    hello? a = none ↔ ∀ children data, a = .parent .oleh children →
      First children (.leaf .session data) → data.length ≠ 16 := by
  constructor
  · rintro hn children data rfl hf hl
    obtain ⟨t, ht⟩ := Atom.exists_agent children
    have hw : Welcomes (.parent .oleh children) ⟨⟨data, hl⟩, t⟩ :=
      ⟨children, data, rfl, hf, hl, rfl, ht⟩
    rw [(hello?_iff rfl).mpr hw] at hn
    contradiction
  · intro hs
    rw [Option.eq_none_iff_forall_not_mem]
    intro h hh
    obtain ⟨children, data, he, hf, hl, -⟩ := (hello?_iff ho).mp hh
    exact hs children data he hf hl

theorem interpret_error_iff : interpret a = .error f ↔ Refusal a f := by
  unfold interpret
  constructor
  · intro h
    split at h
    · rename_i ho
      cases hh : hello? a with
      | some _ => simp [hh] at h
      | none =>
        simp only [hh, Except.error.injEq] at h
        exact h ▸ .nameless ho ((hello?_eq_none_iff ho).mp hh)
    · rename_i ho
      split at h
      · rename_i hq
        rw [Atom.toNat_int?, Except.error.injEq] at h
        exact h ▸ .quit hq
      · rename_i hq
        rw [Except.error.injEq] at h
        exact h ▸ .unexpected ho hq
  · intro h
    cases h with
    | quit hq =>
      have ho : a.id ≠ .oleh := by
        rw [hq]
        decide
      rw [if_neg ho, if_pos hq, Atom.toNat_int?]
    | nameless ho hs => rw [if_pos ho, (hello?_eq_none_iff ho).mpr hs]
    | unexpected ho hq => rw [if_neg ho, if_neg hq]

variable {g : Greeter} {host : Host} {reply : Bytes} {fault : Atom.ReadFault}

theorem converse_of_accepted (ha : Accepted reply a) :
    (g.converse host reply true).outcome = interpret a ∧
      (g.converse host reply true).transcript =
        ⟨g.greetings ++ farewell.encode, Atom.Reader.record (Atom.read reply).pieces⟩ := by
  simp [converse, Atom.read_ok_iff.mpr ha]

theorem converse_of_fault (h : (Atom.read reply).outcome = .error fault) :
    (g.converse host reply true).outcome = .error (.io fault.message) ∧
      (g.converse host reply true).transcript =
        ⟨g.greetings, Atom.Reader.record (Atom.read reply).pieces⟩ := by
  cases fault <;> simp [converse, h, replyFailure]

end Greeter
end NodeConsole
