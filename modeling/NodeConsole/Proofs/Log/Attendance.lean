import Mathlib.Data.List.Nodup
import Mathlib.Data.List.TakeWhile
import NodeConsole.Log.Attendance
import NodeConsole.Proofs.Log.Inbox

/-! The history of a log, and the listeners it tells. -/
namespace NodeConsole.Log.Attendance

inductive Op
  | listen
  | unlisten (id : Nat)
  | push (r : Record)
  deriving DecidableEq, Repr

/-- What an operation came to. -/
inductive Event
  | came (id : Nat)
  /-- Someone asked to take a listener off, and there was one or not. -/
  | left (id : Nat) (found : Bool)
  | pushed (r : Record)
  deriving DecidableEq, Repr

namespace Event

def op : Event → Op
  | .came _ => .listen
  | .left id _ => .unlisten id
  | .pushed r => .push r

def came? : Event → Option Nat
  | .came id => some id
  | _ => none

def left? : Event → Option Nat
  | .left id true => some id
  | _ => none

def record? : Event → Option Record
  | .pushed r => some r
  | _ => none

/-- Whether it is about this listener, or about all of them. -/
def concerns (id : Nat) : Event → Bool
  | .came j => j = id
  | .left j found => found && j = id
  | .pushed _ => true

theorem came_iff {e : Event} {id : Nat} : e.came? = some id ↔ e = .came id := by
  cases e <;> simp [came?]

theorem left_iff {e : Event} {id : Nat} : e.left? = some id ↔ e = .left id true := by
  rcases e with _ | ⟨j, found⟩ | _
  · simp [left?]
  · cases found <;> simp [left?]
  · simp [left?]

end Event

def perform (a : Attendance) : Op → Event × Attendance
  | .listen => (.came a.listen.1, a.listen.2)
  | .unlisten id => (.left id (a.unlisten id).1, (a.unlisten id).2)
  | .push r => (.pushed r, a.push r)

def run (a : Attendance) : List Op → List Event × Attendance
  | [] => ([], a)
  | op :: ops =>
    let (es, b) := run (a.perform op).2 ops
    ((a.perform op).1 :: es, b)

theorem run_cons (a : Attendance) (op : Op) (ops : List Op) :
    run a (op :: ops) =
      ((a.perform op).1 :: (run (a.perform op).2 ops).1, (run (a.perform op).2 ops).2) := rfl

/-- A log before anything has come. -/
def opened (capacity : Nat) : Attendance := { buffer := { capacity } }

/-- The identifiers handed out. -/
def ids (es : List Event) : List Nat := es.filterMap Event.came?

/-- The listeners taken off. -/
def leavers (es : List Event) : List Nat := es.filterMap Event.left?

/-- A history from where a listener has come. -/
def since (id : Nat) (es : List Event) : List Event := es.dropWhile (· ≠ .came id)

/-- The records pushed after a listener has come and before it has left. -/
def heard (id : Nat) (es : List Event) : List Record :=
  ((since id es).takeWhile (· ≠ .left id true)).filterMap Event.record?

/-- What the next operation comes to. -/
def answer (es : List Event) : Op → Event
  | .listen => .came ((ids es).length + 1)
  | .unlisten id => .left id (id ∈ ids es ∧ id ∉ leavers es)
  | .push r => .pushed r

variable {a b : Attendance} {es : List Event} {e : Event} {id : Nat} {r : Record} {op : Op}

theorem mem_ids : id ∈ ids es ↔ .came id ∈ es := by
  simp [ids, List.mem_filterMap, Event.came_iff]

theorem mem_leavers : id ∈ leavers es ↔ .left id true ∈ es := by
  simp [leavers, List.mem_filterMap, Event.left_iff]

theorem ids_snoc (es : List Event) (e : Event) : ids (es ++ [e]) = ids es ++ e.came?.toList := by
  cases h : e.came? <;> simp [ids, h]

theorem leavers_snoc (es : List Event) (e : Event) :
    leavers (es ++ [e]) = leavers es ++ e.left?.toList := by
  cases h : e.left? <;> simp [leavers, h]

theorem since_eq_nil_iff : since id es = [] ↔ id ∉ ids es := by
  rw [since, List.dropWhile_eq_nil_iff, mem_ids]
  constructor
  · intro h hm
    simpa using h _ hm
  · intro h e he
    have hn : e ≠ .came id := fun hc => h (hc ▸ he)
    simpa using hn

theorem since_snoc (h : id ∈ ids es) (e : Event) : since id (es ++ [e]) = since id es ++ [e] := by
  have hn : since id es ≠ [] := fun hn => since_eq_nil_iff.mp hn h
  rw [since, List.dropWhile_append, if_neg (by simpa [since] using hn)]
  rfl

/-- Before a listener has come, nothing is for it. -/
theorem heard_of_not_come (h : id ∉ ids es) (e : Event) : heard id (es ++ [e]) = [] := by
  have hs : es.dropWhile (· ≠ .came id) = [] := since_eq_nil_iff.mpr h
  rw [heard, since, List.dropWhile_append, hs, List.isEmpty_nil, if_pos rfl, List.dropWhile_cons]
  split
  · rfl
  · rename_i he
    obtain rfl : e = .came id := by simpa using he
    simp [Event.record?]

theorem heard_of_there (h : id ∈ ids es) (hl : id ∉ leavers es) (e : Event) :
    heard id (es ++ [e]) = heard id es ++ e.record?.toList := by
  have hn : ∀ d ∈ since id es, decide (d ≠ .left id true) = true := by
    intro d hd
    have hd : d ≠ .left id true := by
      rintro rfl
      exact hl (mem_leavers.mpr ((List.dropWhile_suffix _).subset hd))
    simpa using hd
  rw [heard, since_snoc h, List.takeWhile_append_of_pos hn, heard,
    List.takeWhile_eq_self_iff.mpr hn, List.filterMap_append]
  congr 1
  by_cases he : e = .left id true
  · subst he
    simp [Event.record?]
  · rw [List.takeWhile_cons_of_pos (by simpa using he)]
    cases hr : e.record? <;> simp [hr]

theorem heard_of_left (h : .left id true ∈ since id es) (e : Event) :
    heard id (es ++ [e]) = heard id es := by
  have hi : id ∈ ids es := by
    by_contra hn
    rw [since_eq_nil_iff.mpr hn] at h
    contradiction
  obtain ⟨before, after, hs, hb⟩ := List.eq_append_cons_of_mem h
  have hn : ∀ d ∈ before, decide (d ≠ .left id true) = true := by
    intro d hd
    have hd : d ≠ .left id true := fun hc => hb (hc ▸ hd)
    simpa using hd
  rw [heard, since_snoc hi, heard, hs, List.append_assoc, List.takeWhile_append_of_pos hn,
    List.takeWhile_append_of_pos hn]
  simp

theorem heard_of_absent (h : id ∉ ids es) : heard id es = [] := by
  rw [heard, since_eq_nil_iff.mpr h]
  rfl

/-- Whoever has left has come before. -/
def Stayed (es : List Event) : Prop := ∀ id ∈ leavers es, .left id true ∈ since id es

theorem Stayed.mem_ids (h : Stayed es) (hl : id ∈ leavers es) : id ∈ ids es := by
  by_contra hn
  have hm := h id hl
  rw [since_eq_nil_iff.mpr hn] at hm
  contradiction

theorem heard_snoc (h : Stayed es) (id : Nat) (e : Event) :
    heard id (es ++ [e]) =
      heard id es ++ if id ∈ ids es ∧ id ∉ leavers es then e.record?.toList else [] := by
  by_cases hi : id ∈ ids es
  · by_cases hl : id ∈ leavers es
    · rw [heard_of_left (h id hl), if_neg fun hc => hc.2 hl, List.append_nil]
    · rw [heard_of_there hi hl, if_pos ⟨hi, hl⟩]
  · rw [heard_of_not_come hi, heard_of_absent hi, if_neg fun hc => hi hc.1, List.append_nil]

theorem heard_snoc_silent (h : Stayed es) (he : e.record? = none) (id : Nat) :
    heard id (es ++ [e]) = heard id es := by
  rw [heard_snoc h, he, Option.toList_none, ite_self, List.append_nil]

/-- What a listener has heard depends on no other listener. -/
theorem heard_filter (id : Nat) (es : List Event) :
    heard id (es.filter (Event.concerns id)) = heard id es := by
  have hc (e : Event) : (!e.concerns id || decide (e ≠ .came id)) = decide (e ≠ .came id) := by
    cases e <;> simp [Event.concerns]
  have hl (e : Event) :
      (!e.concerns id || decide (e ≠ .left id true)) = decide (e ≠ .left id true) := by
    rcases e with _ | ⟨j, found⟩ | _
    · simp
    · cases found <;> simp [Event.concerns]
    · simp
  have hr (e : Event) : (if e.concerns id = true then e.record? else none) = e.record? := by
    cases e <;> simp [Event.concerns, Event.record?]
  rw [heard, since, List.dropWhile_filter, List.takeWhile_filter, List.filterMap_filter]
  simp only [hc, hl, hr]
  rfl

/-- Each removal has found its listener if that had come and had not left. -/
def Answered (es : List Event) : Prop :=
  ∀ before id found after, es = before ++ .left id found :: after →
    (found = true ↔ id ∈ ids before ∧ id ∉ leavers before)

structure Proper (es : List Event) : Prop where
  numbered : ids es = List.range' 1 (ids es).length
  stayed : Stayed es
  once : (leavers es).Nodup
  answered : Answered es

theorem left_answer (h : answer es op = .left id true) : id ∈ ids es ∧ id ∉ leavers es := by
  cases op with
  | listen | push => contradiction
  | unlisten j =>
    obtain ⟨rfl, hj⟩ : j = id ∧ decide (j ∈ ids es ∧ j ∉ leavers es) = true := by
      simpa only [answer, Event.left.injEq] using h
    exact of_decide_eq_true hj

theorem numbered_snoc (h : ids es = List.range' 1 (ids es).length) (op : Op) :
    ids (es ++ [answer es op]) = List.range' 1 (ids (es ++ [answer es op])).length := by
  rw [ids_snoc]
  cases op with
  | listen =>
    have ha : (answer es .listen).came?.toList = [(ids es).length + 1] := rfl
    rw [ha, List.length_append, List.length_singleton, List.range'_1_concat, ← h, Nat.add_comm 1]
  | unlisten | push => simpa [answer, Event.came?] using h

theorem stayed_snoc (h : Stayed es) (op : Op) : Stayed (es ++ [answer es op]) := by
  intro id hi
  rw [leavers_snoc, List.mem_append, Option.mem_toList, Event.left_iff] at hi
  rcases hi with hi | hi
  · rw [since_snoc (h.mem_ids hi)]
    exact List.mem_append_left _ (h id hi)
  · rw [hi, since_snoc (left_answer hi).1]
    exact List.mem_append_right _ (List.mem_singleton_self _)

theorem once_snoc (h : (leavers es).Nodup) (op : Op) :
    (leavers (es ++ [answer es op])).Nodup := by
  rw [leavers_snoc]
  cases ha : (answer es op).left? with
  | none => simpa using h
  | some id =>
    have hl : id ∉ leavers es := (left_answer (Event.left_iff.mp ha)).2
    exact h.append (List.nodup_singleton id) (List.disjoint_singleton.mpr hl)

theorem answered_snoc (h : Answered es) (op : Op) : Answered (es ++ [answer es op]) := by
  intro before id found after he
  rcases List.eq_nil_or_concat after with rfl | ⟨after, e, rfl⟩
  · obtain ⟨rfl, ha⟩ := List.append_inj' he rfl
    cases op with
    | listen | push => simp [answer] at ha
    | unlisten j =>
      obtain ⟨rfl, rfl⟩ : j = id ∧ decide (j ∈ ids es ∧ j ∉ leavers es) = found := by
        simpa [answer] using ha
      exact decide_eq_true_iff
  · rw [List.concat_eq_append, ← List.cons_append, ← List.append_assoc] at he
    exact h before id found after (List.append_inj' he rfl).1

theorem Proper.snoc (h : Proper es) (op : Op) : Proper (es ++ [answer es op]) where
  numbered := numbered_snoc h.numbered op
  stayed := stayed_snoc h.stayed op
  once := once_snoc h.once op
  answered := answered_snoc h.answered op

theorem proper_nil : Proper [] where
  numbered := rfl
  stayed := nofun
  once := List.nodup_nil
  answered := by simp [Answered]

theorem unlisten_eq (id : Nat) (a : Attendance) :
    a.unlisten id = ((a.buffer.inbox? id).isSome,
      ⟨(a.buffer.unlisten id).2, ((a.buffer.inbox? id).map (⟨id, ·⟩)).toList ++ a.gone⟩) := by
  unfold unlisten
  cases h : a.buffer.inbox? id <;> simp [Buffer.unlisten, h]

/-- What a history says about the state. -/
structure Tells (es : List Event) (a : Attendance) : Prop where
  proper : Proper es
  next : a.buffer.nextId = (ids es).length + 1
  there : ∀ id, a.buffer.inbox? id =
    if id ∈ ids es ∧ id ∉ leavers es then some (heard id es) else none
  gone : ∀ id, (a.gone.find? (·.id = id)).map (·.inbox) =
    if id ∈ leavers es then some (heard id es) else none
  count : a.buffer.listeners.length + (leavers es).length = (ids es).length

theorem tells_opened (capacity : Nat) : Tells [] (opened capacity) where
  proper := proper_nil
  next := rfl
  there := fun _ => rfl
  gone := fun _ => rfl
  count := rfl

theorem perform_eq_answer (h : Tells es a) (op : Op) : (a.perform op).1 = answer es op := by
  cases op with
  | listen => exact congrArg Event.came h.next
  | unlisten id =>
    rw [perform, unlisten_eq, answer, h.there]
    by_cases hi : id ∈ ids es ∧ id ∉ leavers es <;> simp [hi]
  | push r => rfl

theorem Tells.fresh (h : Tells es a) : a.buffer.nextId ∉ ids es := by
  rw [h.proper.numbered, h.next, List.mem_range'_1]
  omega

theorem tells_push (h : Tells es a) (r : Record) : Tells (es ++ [.pushed r]) (a.push r) where
  proper := h.proper.snoc (.push r)
  next := by simpa [push, Buffer.push, ids_snoc, Event.came?] using h.next
  there := by
    intro id
    simp only [push, Buffer.inbox_push, h.there, ids_snoc, leavers_snoc, heard_snoc h.proper.stayed]
    by_cases hi : id ∈ ids es ∧ id ∉ leavers es <;>
      simp [hi, Event.came?, Event.left?, Event.record?]
  gone := by
    intro id
    simp only [push, h.gone, leavers_snoc, heard_snoc h.proper.stayed]
    by_cases hi : id ∈ leavers es <;> simp [hi, Event.left?]
  count := by
    simpa [push, Buffer.push, ids_snoc, leavers_snoc, Event.came?, Event.left?] using h.count

theorem tells_listen (h : Tells es a) :
    Tells (es ++ [.came a.buffer.nextId]) a.listen.2 where
  proper := by simpa [answer, h.next] using h.proper.snoc .listen
  next := by simpa [listen, Buffer.listen, ids_snoc, Event.came?] using h.next
  there := by
    intro id
    rw [heard_snoc_silent h.proper.stayed rfl, ids_snoc, leavers_snoc]
    by_cases hi : id = a.buffer.nextId
    · have hl : a.buffer.nextId ∉ leavers es := fun hl => h.fresh (h.proper.stayed.mem_ids hl)
      subst hi
      simp [listen, Buffer.inbox_listen_self, heard_of_absent h.fresh, hl, Event.came?, Event.left?]
    · rw [listen, Buffer.inbox_listen_ne hi, h.there]
      simp [hi, Event.came?, Event.left?]
  gone := by
    intro id
    rw [heard_snoc_silent h.proper.stayed rfl, leavers_snoc]
    simpa [listen, Event.left?] using h.gone id
  count := by
    have hc := h.count
    simp [listen, Buffer.listen, ids_snoc, leavers_snoc, Event.came?, Event.left?]
    omega

theorem tells_unlisten (h : Tells es a) (id : Nat) :
    Tells (es ++ [answer es (.unlisten id)]) (a.unlisten id).2 := by
  have hs : (answer es (.unlisten id)).record? = none := rfl
  rw [unlisten_eq, h.there]
  constructor
  case proper => exact h.proper.snoc (.unlisten id)
  case next => simpa [answer, Buffer.unlisten, ids_snoc, Event.came?] using h.next
  case there =>
    intro j
    rw [heard_snoc_silent h.proper.stayed hs, ids_snoc, leavers_snoc]
    by_cases hj : j = id
    · by_cases hi : id ∈ ids es ∧ id ∉ leavers es <;>
        simp [hj, hi, answer, Buffer.inbox_unlisten_self, Event.came?, Event.left?]
    · have hl : (answer es (.unlisten id)).left? ≠ some j := by
        rw [ne_eq, Event.left_iff, answer]
        exact fun he => hj (Event.left.inj he).1.symm
      have hc : (answer es (.unlisten id)).came? = none := rfl
      simp [hj, hl, hc, Buffer.inbox_unlisten_other, h.there]
  case gone =>
    intro j
    have hg := h.gone j
    rw [heard_snoc_silent h.proper.stayed hs, leavers_snoc]
    by_cases hi : id ∈ ids es ∧ id ∉ leavers es
    · by_cases hj : j = id
      · simp [hj, hi, answer, Event.left?]
      · simpa [hj, Ne.symm hj, hi, answer, Event.left?] using hg
    · simpa [hi, answer, Event.left?] using hg
  case count =>
    have hb := a.buffer.length_unlisten id
    have hc := h.count
    rw [h.there] at hb
    by_cases hi : id ∈ ids es ∧ id ∉ leavers es
    · simp [hi, answer, ids_snoc, leavers_snoc, Event.came?, Event.left?] at hb ⊢
      omega
    · simp [hi, answer, ids_snoc, leavers_snoc, Event.came?, Event.left?] at hb ⊢
      omega

/-- A history tells the state after one operation more. -/
theorem tells_perform (h : Tells es a) (op : Op) :
    Tells (es ++ [(a.perform op).1]) (a.perform op).2 := by
  cases op with
  | listen => exact tells_listen h
  | push r => exact tells_push h r
  | unlisten id =>
    rw [perform_eq_answer h]
    exact tells_unlisten h id

theorem tells_run (ops : List Op) (h : Tells es a) :
    Tells (es ++ (run a ops).1) (run a ops).2 := by
  induction ops generalizing es a with
  | nil => simpa [run] using h
  | cons op ops ih =>
    have hs := ih (tells_perform h op)
    rwa [List.append_assoc] at hs

/-- Two logs with one history answer alike from there on. -/
theorem run_determined (ops : List Op) (ha : Tells es a) (hb : Tells es b) :
    (run a ops).1 = (run b ops).1 := by
  induction ops generalizing es a b with
  | nil => rfl
  | cons op ops ih =>
    have he : (a.perform op).1 = (b.perform op).1 := by
      rw [perform_eq_answer ha, perform_eq_answer hb]
    have hta := tells_perform ha op
    have htb := tells_perform hb op
    rw [← he] at htb
    rw [run_cons, run_cons, he, ih hta htb]

theorem run_ops (a : Attendance) (ops : List Op) : (run a ops).1.map Event.op = ops := by
  induction ops generalizing a with
  | nil => rfl
  | cons op ops ih =>
    have ho : (a.perform op).1.op = op := by cases op <;> rfl
    rw [run_cons, List.map_cons, ho, ih]

theorem Tells.seen (h : Tells es a) (id : Nat) :
    a.seen id = if id ∈ ids es then some (heard id es) else none := by
  have hs : a.seen id =
      (a.buffer.inbox? id).or ((a.gone.find? (·.id = id)).map (·.inbox)) := by
    rw [Attendance.seen, Option.map_or]
    rfl
  rw [hs, h.there, h.gone]
  by_cases hi : id ∈ ids es
  · by_cases hl : id ∈ leavers es <;> simp [hi, hl]
  · have hl : id ∉ leavers es := fun hl => hi (h.proper.stayed.mem_ids hl)
    simp [hi, hl]

theorem length_ids (es : List Event) : (ids es).length = (es.map Event.op).count .listen := by
  induction es with
  | nil => rfl
  | cons e es ih =>
    have hs : (ids (e :: es)).length = (ids es).length + if e.op = .listen then 1 else 0 := by
      cases e <;> simp [ids, List.filterMap_cons, Event.came?, Event.op]
    rw [hs, ih, List.map_cons, List.count_cons]
    simp only [beq_iff_eq]

/-- What a listener has got is told by its own part of the history, whatever became of the others. -/
theorem seen_of_concerns (ha : Tells es a) {ds : List Event} (hb : Tells ds b)
    (h : ds.filter (Event.concerns id) = es.filter (Event.concerns id)) : b.seen id = a.seen id := by
  have hi (cs : List Event) : id ∈ ids cs ↔ id ∈ ids (cs.filter (Event.concerns id)) := by
    simp [mem_ids, Event.concerns]
  simp only [ha.seen, hb.seen, hi ds, hi es, ← heard_filter id ds, ← heard_filter id es, h]

/-- Over any run from a new log, listeners are numbered in turn, leave once, and get just the
records pushed while they are there. -/
theorem listeners_of_run (capacity : Nat) (ops : List Op) :
    ∃ es a, run (opened capacity) ops = (es, a) ∧ es.map Event.op = ops ∧
      ids es = List.range' 1 (ops.count .listen) ∧ (ids es).Nodup ∧
      (∀ before id found after, es = before ++ .left id found :: after →
        (found = true ↔ id ∈ ids before ∧ id ∉ leavers before)) ∧
      (leavers es).Nodup ∧
      a.buffer.listeners.length + (leavers es).length = ops.count .listen ∧
      (∀ id, a.seen id = if id ∈ ids es then some (heard id es) else none) ∧
      (∀ capacity', (run (opened capacity') ops).1 = es) ∧
      ∀ id capacity' ops',
        (run (opened capacity') ops').1.filter (Event.concerns id) =
          es.filter (Event.concerns id) →
        (run (opened capacity') ops').2.seen id = a.seen id := by
  have ht (capacity : Nat) (ops : List Op) :
      Tells (run (opened capacity) ops).1 (run (opened capacity) ops).2 :=
    tells_run ops (tells_opened capacity)
  have h := ht capacity ops
  have hc : (ids (run (opened capacity) ops).1).length = ops.count .listen := by
    rw [length_ids, run_ops]
  have hn := h.proper.numbered
  rw [hc] at hn
  refine ⟨_, _, rfl, run_ops _ ops, hn, ?_, h.proper.answered, h.proper.once, ?_, h.seen, ?_, ?_⟩
  · rw [hn]
    exact List.nodup_range'
  · rw [h.count, hc]
  · intro capacity'
    exact run_determined ops (tells_opened capacity') (tells_opened capacity)
  · intro id capacity' ops' he
    exact seen_of_concerns h (ht capacity' ops') he

/-- With no ring at all, a listener gets what is pushed until it leaves, which it does once. -/
example (r t : Record) :
    (run (opened 0) [.listen, .push r, .unlisten 1, .unlisten 1, .push t]).1 =
        [.came 1, .pushed r, .left 1 true, .left 1 false, .pushed t] ∧
      (run (opened 0) [.listen, .push r, .unlisten 1, .unlisten 1, .push t]).2.seen 1 = some [r] :=
  ⟨rfl, rfl⟩

end NodeConsole.Log.Attendance
