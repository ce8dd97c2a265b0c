import NodeConsole.Sink

/-! What a writer of limited room gets of the lines. -/
namespace NodeConsole
open Text (Bytes)

variable {W : Type} {w : Writer W} {taken : W → Bytes} {room short : Nat}

/-- A writer with room for so many bytes. Until it is full, a call takes between one and `short` of
them. -/
structure Writer.Limited (w : Writer W) (taken : W → Bytes) (room short : Nat) : Prop where
  within (bs : Bytes) (s : W) : bs ≠ [] → (taken s).length < room → ∃ n t,
    w.write bs s = (some n, t) ∧ 0 < n ∧ n ≤ short ∧ n ≤ bs.length ∧
      (taken s).length + n ≤ room ∧ taken t = taken s ++ bs.take n
  full (bs : Bytes) (s : W) : room ≤ (taken s).length → ∃ t,
    (w.write bs s = (none, t) ∨ w.write bs s = (some 0, t)) ∧ taken t = taken s
  flushed (s : W) : taken (w.flush s).2 = taken s

namespace Writer.Limited

variable {bs : Bytes} {s t : W} {n : Nat}

theorem of_some (h : w.Limited taken room short) (hb : bs ≠ [])
    (hw : w.write bs s = (some (n + 1), t)) :
    n + 1 ≤ bs.length ∧ (taken s).length + (n + 1) ≤ room ∧
      taken t = taken s ++ bs.take (n + 1) := by
  rcases Nat.lt_or_ge (taken s).length room with hr | hr
  · obtain ⟨m, u, hm, -, -, hle, hroom, hu⟩ := h.within bs s hb hr
    obtain ⟨rfl, rfl⟩ : n + 1 = m ∧ t = u := by simpa using hw.symm.trans hm
    exact ⟨hle, hroom, hu⟩
  · obtain ⟨u, hu | hu, -⟩ := h.full bs s hr
    · simp [hu] at hw
    · simp [hu] at hw

theorem of_lost {o : Option Nat} (h : w.Limited taken room short) (hb : bs ≠ [])
    (hw : w.write bs s = (o, t)) (ho : ∀ n, o ≠ some (n + 1)) :
    room ≤ (taken s).length ∧ taken t = taken s := by
  rcases Nat.lt_or_ge (taken s).length room with hr | hr
  · obtain ⟨m, u, hm, h0, -⟩ := h.within bs s hb hr
    obtain ⟨n, rfl⟩ := Nat.exists_eq_succ_of_ne_zero (Nat.pos_iff_ne_zero.mp h0)
    exact absurd (Prod.mk.inj (hw.symm.trans hm)).1 (ho n)
  · obtain ⟨u, hu, ht⟩ := h.full bs s hr
    have he : t = u := by
      rcases hu with hu | hu
      · exact (Prod.mk.inj (hw.symm.trans hu)).2
      · exact (Prod.mk.inj (hw.symm.trans hu)).2
    exact ⟨hr, he ▸ ht⟩

/-- All that there is room for is taken, however many calls it needs. -/
theorem writeAll (h : w.Limited taken room short) (bs : Bytes) (s : W) :
    taken (w.writeAll bs s).2 = taken s ++ bs.take (room - (taken s).length) ∧
      ((w.writeAll bs s).1 = true ↔ bs.length ≤ room - (taken s).length) := by
  fun_induction Writer.writeAll w bs s with
  | case1 s => simp
  | case2 bs s hb n t hw ih =>
    obtain ⟨hle, hroom, ht⟩ := h.of_some hb hw
    have hlen : (taken t).length = (taken s).length + (n + 1) := by
      rw [ht, List.length_append, List.length_take, Nat.min_eq_left hle]
    obtain ⟨ha, hc⟩ := ih
    have hfree : room - (taken s).length = n + 1 + (room - (taken t).length) := by omega
    refine ⟨?_, ?_⟩
    · have hsplit : bs.take (n + 1 + (room - (taken t).length)) =
          bs.take (n + 1) ++ (bs.drop (n + 1)).take (room - (taken t).length) := List.take_add
      rw [ha, hfree, hsplit, ← List.append_assoc, ← ht]
    · rw [hc, List.length_drop]
      omega
  | case3 bs s hb o t hn hw =>
    obtain ⟨hr, ht⟩ := h.of_lost hb hw hn
    have hp : 0 < bs.length := List.length_pos_iff.mpr hb
    have hfree : room - (taken s).length = 0 := Nat.sub_eq_zero_of_le hr
    refine ⟨by rw [ht, hfree, List.take_zero, List.append_nil], ?_⟩
    rw [hfree]
    exact ⟨nofun, fun hle => absurd hle (Nat.not_le_of_lt hp)⟩

end Writer.Limited

namespace Sink

variable {q : Sink W} {bs : Bytes}

theorem taken_write (h : w.Limited taken room short) (q : Sink W) (bs : Bytes) :
    taken (q.write w bs).out = taken q.out ++ bs.take (room - (taken q.out).length) := by
  have ha := (h.writeAll bs q.out).1
  unfold write
  split
  · rename_i out hw
    rwa [hw] at ha
  · rename_i out hw
    have hflush := h.flushed out
    rw [hw] at ha
    split
    · rename_i out' hf
      rw [hf] at hflush
      exact hflush.trans ha
    · rename_i out' hf
      rw [hf] at hflush
      exact hflush.trans ha

theorem cancelled_write (h : w.Limited taken room short) (hf : ∀ s, (w.flush s).1 = true)
    (q : Sink W) (bs : Bytes) : (q.write w bs).cancelled = true ↔
      q.cancelled = true ∨ room - (taken q.out).length < bs.length := by
  have hc := (h.writeAll bs q.out).2
  unfold write
  split
  · rename_i out hw
    rw [hw] at hc
    have hlt : room - (taken q.out).length < bs.length :=
      Nat.lt_of_not_le fun hle => Bool.false_ne_true (hc.mpr hle)
    exact ⟨fun _ => .inr hlt, fun _ => rfl⟩
  · rename_i out hw
    rw [hw] at hc
    have hle : bs.length ≤ room - (taken q.out).length := hc.mp rfl
    split
    · rename_i out' hfl
      exact absurd (hf out) (by simp [hfl])
    · exact ⟨.inl, fun hq => hq.resolve_right (Nat.not_lt_of_le hle)⟩

theorem cancelled_of_flush (hf : ∀ s, (w.flush s).1 = false) (q : Sink W) (bs : Bytes) :
    (q.write w bs).cancelled = true := by
  unfold write
  split
  · rfl
  · rename_i out hw
    split
    · rfl
    · rename_i out' hfl
      exact absurd (hf out) (by simp [hfl])

theorem write_keeps (hq : q.cancelled = true) (bs : Bytes) : (q.write w bs).cancelled = true := by
  unfold write
  split
  · rfl
  · split
    · rfl
    · exact hq

theorem room_write (h : w.Limited taken room short) (q : Sink W) (bs : Bytes) :
    room - (taken (q.write w bs).out).length = room - (taken q.out).length - bs.length := by
  rw [taken_write h, List.length_append, List.length_take]
  omega

theorem taken_writes (h : w.Limited taken room short) (cs : List Bytes) (q : Sink W) :
    taken (cs.foldl (write w) q).out =
      taken q.out ++ cs.flatten.take (room - (taken q.out).length) := by
  induction cs generalizing q with
  | nil => simp
  | cons c cs ih =>
    rw [List.foldl_cons, ih, room_write h, taken_write h, List.flatten_cons, List.take_append,
      List.append_assoc]

theorem cancelled_writes (h : w.Limited taken room short) (hf : ∀ s, (w.flush s).1 = true)
    (cs : List Bytes) (q : Sink W) : (cs.foldl (write w) q).cancelled = true ↔
      q.cancelled = true ∨ room - (taken q.out).length < cs.flatten.length := by
  induction cs generalizing q with
  | nil => simp
  | cons c cs ih =>
    rw [List.foldl_cons, ih, room_write h, cancelled_write h hf, List.flatten_cons,
      List.length_append, or_assoc]
    refine or_congr_right ?_
    omega

theorem writes_keep (cs : List Bytes) (hq : q.cancelled = true) :
    (cs.foldl (write w) q).cancelled = true := by
  induction cs generalizing q with
  | nil => exact hq
  | cons c cs ih => exact ih (write_keeps hq c)

/-- The text of lines, each with its newline. -/
def linesText (ls : List String) : Bytes := ls.flatMap fun l => Text.bytes l ++ [10]

theorem foldl_writeLine (w : Writer W) (ls : List String) (q : Sink W) :
    ls.foldl (writeLine w) q = (Write.allChunks (ls.map .line)).foldl (write w) q := by
  induction ls generalizing q with
  | nil => rfl
  | cons l ls ih => exact ih (q.writeLine w l)

theorem flatten_allChunks (ls : List String) :
    (Write.allChunks (ls.map .line)).flatten = linesText ls := by
  induction ls with
  | nil => rfl
  | cons l ls ih =>
    rw [List.map_cons, Write.allChunks, List.flatMap_cons, List.flatten_append, linesText,
      List.flatMap_cons, ← linesText, ← ih]
    simp [Write.chunks, newline, Write.allChunks]

/-- What lines leave behind: how much of their text was taken, and whether the sink is cancelled. -/
structure Delivered (room : Nat) (flushFails : Bool) (ls : List String) (taken : Bytes)
    (cancelled : Bool) : Prop where
  taken : taken = (linesText ls).take (min room (linesText ls).length)
  cancelled : cancelled = true ↔ if flushFails then ls ≠ [] else room < (linesText ls).length

theorem delivered_lines (h : w.Limited taken room short) {flushFails : Bool}
    (hf : ∀ s, (w.flush s).1 = !flushFails) {s : W} (hs : taken s = []) (ls : List String) :
    Delivered room flushFails ls (taken (ls.foldl (writeLine w) ⟨s, false⟩).out)
      (ls.foldl (writeLine w) ⟨s, false⟩).cancelled := by
  rw [foldl_writeLine]
  constructor
  · rw [taken_writes h, flatten_allChunks]
    dsimp only
    rw [hs, List.nil_append, List.length_nil, Nat.sub_zero, ← List.take_eq_take_min]
  · cases flushFails with
    | false =>
      rw [cancelled_writes h hf, flatten_allChunks]
      simp [hs]
    | true =>
      cases ls with
      | nil => simp [Write.allChunks]
      | cons l ls =>
        have hc := cancelled_of_flush hf (⟨s, false⟩ : Sink W) (Text.bytes l)
        simpa [Write.allChunks, Write.chunks] using writes_keep _ (write_keeps hc newline)

theorem lines_keep_cancelled (hq : q.cancelled = true) (ls : List String) :
    (ls.foldl (writeLine w) q).cancelled = true := by
  rw [foldl_writeLine]
  exact writes_keep _ hq

end Sink

namespace Pipe

variable {p : Pipe} {bs : Bytes}

theorem limited_writer (p : Pipe) (hs : 0 < p.short) : p.writer.Limited id p.room p.short where
  within bs s hb hr := by
    have hp : 0 < bs.length := List.length_pos_iff.mpr hb
    have hr : s.length < p.room := hr
    generalize hn : min bs.length (min p.short (p.room - s.length)) = n
    have hw : p.writer.write bs s = (some n, s ++ bs.take n) := by
      rw [← hn]
      exact if_neg (by simp only [accepts]; omega)
    exact ⟨n, _, hw, by omega, by omega, by omega, show s.length + n ≤ p.room by omega, rfl⟩
  full bs s hr := by
    have hr : p.room ≤ s.length := hr
    have hw : p.writer.write bs s = (if p.zero then some 0 else none, s) :=
      if_pos (by simp only [accepts]; omega)
    refine ⟨s, ?_, rfl⟩
    rw [hw]
    cases p.zero with
    | false => exact .inl rfl
    | true => exact .inr rfl
  flushed s := rfl

theorem writeAll_writer (p : Pipe) (bs : Bytes) : p.writeAll bs =
    ((p.writer.writeAll bs p.accepted).1,
      { p with accepted := (p.writer.writeAll bs p.accepted).2 }) := by
  fun_induction Pipe.writeAll p bs with
  | case1 p =>
    rw [Writer.writeAll, if_pos rfl]
  | case2 p bs hb h0 =>
    have hw : p.writer.write bs p.accepted = (if p.zero then some 0 else none, p.accepted) :=
      if_pos h0
    have hstop : p.writer.writeAll bs p.accepted = (false, p.accepted) := by
      rw [Writer.writeAll, if_neg hb, hw]
      cases hz : p.zero with
      | false => rw [if_neg Bool.false_ne_true]
      | true => rw [if_pos rfl]
    rw [hstop]
  | case3 p bs hb h0 ih =>
    have hw : p.writer.write bs p.accepted =
        (some (p.accepts bs.length), p.accepted ++ bs.take (p.accepts bs.length)) := if_neg h0
    obtain ⟨n, hn⟩ := Nat.exists_eq_succ_of_ne_zero h0
    have hnext : p.writer.writeAll bs p.accepted = p.writer.writeAll
        (bs.drop (p.accepts bs.length)) (p.accepted ++ bs.take (p.accepts bs.length)) := by
      rw [Writer.writeAll, if_neg hb, hw, hn]
    rw [ih, hnext]
    rfl

theorem sink_write (p : Pipe) (bs : Bytes) : (p.write bs).sink = p.sink.write p.writer bs := by
  have hflush : ∀ out, p.writer.flush out = (!p.flushFails, out) := fun _ => rfl
  unfold Pipe.write Sink.write
  rw [writeAll_writer]
  simp only [sink, hflush]
  cases p.writer.writeAll bs p.accepted with
  | mk all out =>
    cases all with
    | false => rfl
    | true =>
      cases p.flushFails with
      | false => rfl
      | true => rfl

theorem writer_write (p : Pipe) (bs : Bytes) : (p.write bs).writer = p.writer := by
  unfold Pipe.write
  rw [writeAll_writer]
  dsimp only
  split
  · rfl
  · rfl

theorem sink_writes (cs : List Bytes) (p : Pipe) :
    (cs.foldl write p).sink = cs.foldl (Sink.write p.writer) p.sink := by
  induction cs generalizing p with
  | nil => rfl
  | cons c cs ih => rw [List.foldl_cons, ih, writer_write, sink_write, List.foldl_cons]

theorem sink_writeLines (ls : List String) (p : Pipe) :
    (ls.foldl writeLine p).sink = ls.foldl (Sink.writeLine p.writer) p.sink := by
  have hchunks : ∀ p : Pipe, ls.foldl writeLine p =
      (Write.allChunks (ls.map .line)).foldl write p := by
    induction ls with
    | nil => exact fun _ => rfl
    | cons l ls ih => exact fun p => ih (p.writeLine l)
  rw [hchunks, sink_writes, Sink.foldl_writeLine]

end Pipe

namespace Sink

/-- A new sink delivers the beginning of its lines, and is cancelled for good by the first loss or
failed flush. -/
theorem lines_delivered (ls : List String) :
    (∀ (W : Type) (w : Writer W) (taken : W → Bytes) (room short : Nat) (flushFails : Bool)
        (s : W),
      w.Limited taken room short → (∀ t, (w.flush t).1 = !flushFails) → taken s = [] →
        Delivered room flushFails ls (taken (ls.foldl (writeLine w) ⟨s, false⟩).out)
          (ls.foldl (writeLine w) ⟨s, false⟩).cancelled ∧
        ∀ ms, (ls.foldl (writeLine w) ⟨s, false⟩).cancelled = true →
          ((ls ++ ms).foldl (writeLine w) ⟨s, false⟩).cancelled = true) ∧
    ∀ p : Pipe, 0 < p.short → p.accepted = [] → p.cancelled = false →
      Delivered p.room p.flushFails ls (ls.foldl Pipe.writeLine p).accepted
        (ls.foldl Pipe.writeLine p).cancelled ∧
      ∀ ms, (ls.foldl Pipe.writeLine p).cancelled = true →
        ((ls ++ ms).foldl Pipe.writeLine p).cancelled = true := by
  constructor
  · intro W w taken room short flushFails s h hf hs
    refine ⟨delivered_lines h hf hs ls, fun ms hq => ?_⟩
    rw [List.foldl_append]
    exact lines_keep_cancelled hq ms
  · intro p hshort hempty hnew
    have hq : p.sink = ⟨[], false⟩ := by rw [Pipe.sink, hempty, hnew]
    refine ⟨?_, fun ms hc => ?_⟩
    · have hd := delivered_lines (p.limited_writer hshort) (fun _ => rfl) (s := []) rfl ls
      rw [← hq, ← p.sink_writeLines ls] at hd
      exact hd
    · rw [List.foldl_append]
      generalize ls.foldl Pipe.writeLine p = p' at hc
      have hk := lines_keep_cancelled (w := p'.writer) (q := p'.sink) hc ms
      rw [← p'.sink_writeLines ms] at hk
      exact hk

/-- Room for the first line, the empty one, and nothing of the third. -/
theorem lines_delivered_short :
    let p : Pipe := { room := 4, short := 2, zero := true }
    (0 < p.short ∧ p.accepted = [] ∧ p.cancelled = false ∧
      p.writer.Limited id p.room p.short ∧ ∀ t, (p.writer.flush t).1 = !false) ∧
      (["ab", "", "cd"].foldl Pipe.writeLine p).accepted = [97, 98, 10, 10] ∧
      (["ab", "", "cd"].foldl Pipe.writeLine p).cancelled = true ∧
      (["ab", "", "cd"].foldl (writeLine p.writer) ⟨[], false⟩).out = [97, 98, 10, 10] := by
  intro p
  have htext : linesText ["ab", "", "cd"] = [97, 98, 10, 10, 99, 100, 10] := by decide
  have hlimited : p.writer.Limited id p.room p.short := p.limited_writer (by decide)
  have hflush : ∀ t, (p.writer.flush t).1 = !false := fun _ => rfl
  obtain ⟨hany, hpipe⟩ := lines_delivered ["ab", "", "cd"]
  have hp := (hpipe p (by decide) rfl rfl).1
  have hw := (hany Bytes p.writer id p.room p.short false [] hlimited hflush rfl).1
  refine ⟨⟨by decide, rfl, rfl, hlimited, hflush⟩, ?_, ?_, ?_⟩
  · rw [hp.taken, htext]
    rfl
  · rw [hp.cancelled, htext]
    decide
  · exact hw.taken.trans (by rw [htext]; rfl)

end Sink
end NodeConsole
