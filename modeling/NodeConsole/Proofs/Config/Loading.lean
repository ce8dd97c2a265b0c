import NodeConsole.Proofs.Config.Document
import NodeConsole.Proofs.Text.Utf8

/-! Loading layer by layer, and who decides each setting. -/
namespace NodeConsole.Config
open Text (encode)

variable {files : String → Found} {path p q : String} {paths ps : List String} {c d : Config}
  {cs : List Config} {fault : LoadFault} {l : Loaded} {s : Setting} {v : s.Value}

/-- The file at `path` is the document of `c`. -/
inductive Gives (files : String → Found) (path : String) (c : Config) : Prop
  | document {t : List Char} (hf : files path = .file (encode t))
      (hd : ofDocument (String.ofList t) = .ok c) : Gives files path c

/-- What is wrong with what is found at `path`. -/
inductive Faulty (files : String → Found) (path : String) : LoadFault → Prop
  | unreadable (hf : files path = .unreadable) : Faulty files path (.unreadable path)
  | garbled {bs : Text.Bytes} (hf : files path = .file bs) (hn : ∀ t, bs ≠ encode t) :
      Faulty files path (.unreadable path)
  | invalid {t : List Char} {f : Json.Fault} (hf : files path = .file (encode t))
      (hd : ofDocument (String.ofList t) = .error f) : Faulty files path (.invalid path f)

theorem layer_none_iff : layer path (files path) = .ok none ↔ files path = .missing := by
  unfold layer
  constructor
  · intro h
    split at h
    · assumption
    · contradiction
    · split at h
      · contradiction
      · split at h <;> simp at h
  · intro h
    rw [h]

theorem layer_some_iff : layer path (files path) = .ok (some c) ↔ Gives files path c := by
  constructor
  · intro h
    unfold layer at h
    split at h
    · simp at h
    · contradiction
    · rename_i bs hf
      split at h
      · contradiction
      · rename_i t ht
        obtain rfl := Text.decode?_eq_some_iff.mp ht
        split at h
        · rename_i d hd
          obtain rfl := Option.some.inj (Except.ok.inj h)
          exact .document hf hd
        · contradiction
  · rintro ⟨hf, hd⟩
    simp only [layer, hf, Text.decode?_eq_some_iff.mpr rfl, hd]

theorem layer_error_iff : layer path (files path) = .error fault ↔ Faulty files path fault := by
  constructor
  · intro h
    unfold layer at h
    split at h
    · contradiction
    · rename_i hf
      exact Except.error.inj h ▸ .unreadable hf
    · rename_i bs hf
      split at h
      · rename_i hn
        exact Except.error.inj h ▸ .garbled hf (Text.decode?_eq_none_iff.mp hn)
      · rename_i t ht
        obtain rfl := Text.decode?_eq_some_iff.mp ht
        split at h
        · contradiction
        · rename_i f hd
          exact Except.error.inj h ▸ .invalid hf hd
  · rintro (hf | ⟨hf, hn⟩ | ⟨hf, hd⟩)
    · simp only [layer, hf]
    · simp only [layer, hf, Text.decode?_eq_none_iff.mpr hn]
    · simp only [layer, hf, Text.decode?_eq_some_iff.mpr rfl, hd]

theorem in_order_iff :
    (∃ o, layer p (files p) = .ok o) ↔ ∀ fault, ¬ Faulty files p fault := by
  simp only [← layer_error_iff]
  cases layer p (files p) <;> simp

theorem found_eq_some_iff : found files p = some c ↔ Gives files p c := by
  rw [← layer_some_iff, found]
  cases layer p (files p) <;> simp

/-- Of the files at `paths`, the last one that makes the setting makes it `v`. -/
def LastMade (files : String → Found) (paths : List String) (s : Setting) (v : s.Value) : Prop :=
  ∃ before p after c, paths = before ++ p :: after ∧ Gives files p c ∧ c.get s = some v ∧
    ∀ q ∈ after, ∀ d, Gives files q d → d.get s = none

theorem lastMade_cons : LastMade files (p :: ps) s v ↔ LastMade files ps s v ∨
    ∃ c, Gives files p c ∧ c.get s = some v ∧ ∀ q ∈ ps, ∀ d, Gives files q d → d.get s = none := by
  constructor
  · rintro ⟨before, r, after, c, he, hc, hv, hn⟩
    cases before with
    | nil =>
      obtain ⟨rfl, rfl⟩ := List.cons.inj he
      exact .inr ⟨c, hc, hv, hn⟩
    | cons _ before =>
      obtain ⟨-, rfl⟩ := List.cons.inj he
      exact .inl ⟨before, r, after, c, rfl, hc, hv, hn⟩
  · rintro (⟨before, r, after, c, rfl, hc, hv, hn⟩ | ⟨c, hc, hv, hn⟩)
    · exact ⟨p :: before, r, after, c, rfl, hc, hv, hn⟩
    · exact ⟨[], p, ps, c, rfl, hc, hv, hn⟩

theorem get_merged_singleton :
    (merged files [p]).get s = some v ↔ ∃ c, Gives files p c ∧ c.get s = some v := by
  simp only [← found_eq_some_iff]
  cases h : found files p with
  | none => simp [merged, List.filterMap_cons_none h, merge, get_empty]
  | some c => simp [merged_singleton h]

theorem get_merged_eq_none_iff : (merged files ps).get s = none ↔
    ∀ q ∈ ps, ∀ d, Gives files q d → d.get s = none := by
  induction ps with
  | nil => simp [merged, merge, get_empty]
  | cons p ps ih =>
    have hp : (merged files [p]).get s = none ↔ ∀ d, Gives files p d → d.get s = none := by
      simp only [Option.eq_none_iff_forall_ne_some, ne_eq, get_merged_singleton, not_exists,
        not_and]
      exact ⟨fun h d hd v => h v d hd, fun h v d hd => h d hd v⟩
    rw [← List.singleton_append, merged_append, get_overlay, Option.or_eq_none_iff, ih, hp,
      List.singleton_append, List.forall_mem_cons, and_comm]

/-- Of files laid over each other, a setting has the value of the last one that makes it. -/
theorem get_merged_eq_some_iff : (merged files ps).get s = some v ↔ LastMade files ps s v := by
  induction ps with
  | nil => simp [merged, merge, get_empty, LastMade]
  | cons p ps ih =>
    rw [← List.singleton_append, merged_append, get_overlay, Option.or_eq_some_iff, ih,
      List.singleton_append, lastMade_cons, get_merged_eq_none_iff, get_merged_singleton]
    constructor
    · rintro (h | ⟨hn, c, hc, hv⟩)
      · exact .inl h
      · exact .inr ⟨c, hc, hv, hn⟩
    · rintro (h | ⟨c, hc, hv, hn⟩)
      · exact .inl h
      · exact .inr ⟨hn, c, hc, hv⟩

theorem loadOnto_of_error (hp : layer p (files p) = .error fault) (l : Loaded) (ps : List String) :
    loadOnto files l (p :: ps) = .error fault := by
  rw [loadOnto, hp]
  rfl

theorem loadOnto_of_ok {o : Option Config} (hp : layer p (files p) = .ok o) (l : Loaded)
    (ps : List String) : ∃ l', loadOnto files l (p :: ps) = loadOnto files l' ps := by
  cases o <;> exact ⟨_, by rw [loadOnto, hp]; rfl⟩

theorem in_order_of_loadOnto {l l' : Loaded} (h : loadOnto files l paths = .ok l') :
    ∀ p ∈ paths, ∃ o, layer p (files p) = .ok o := by
  induction paths generalizing l with
  | nil => nofun
  | cons p ps ih =>
    cases hp : layer p (files p) with
    | error f =>
      rw [loadOnto_of_error hp] at h
      contradiction
    | ok o =>
      obtain ⟨m, hm⟩ := loadOnto_of_ok hp l ps
      exact List.forall_mem_cons.mpr ⟨⟨o, hp⟩, ih (hm ▸ h)⟩

/-- The failure is that of the first file that is not in order. -/
theorem loadOnto_error_iff : loadOnto files l paths = .error fault ↔
    ∃ before p after, paths = before ++ p :: after ∧
      (∀ q ∈ before, ∀ f, ¬ Faulty files q f) ∧ Faulty files p fault := by
  induction paths generalizing l with
  | nil => simp [loadOnto]
  | cons p ps ih =>
    cases hp : layer p (files p) with
    | error f =>
      have hf : Faulty files p f := layer_error_iff.mp hp
      rw [loadOnto_of_error hp, Except.error.injEq]
      constructor
      · rintro rfl
        exact ⟨[], p, ps, rfl, fun q hq => absurd hq List.not_mem_nil, hf⟩
      · rintro ⟨before, q, after, he, hb, hq⟩
        cases before with
        | nil =>
          obtain ⟨rfl, -⟩ := List.cons.inj he
          rw [← layer_error_iff, hp] at hq
          exact Except.error.inj hq
        | cons r before =>
          obtain ⟨rfl, -⟩ := List.cons.inj he
          exact absurd hf (hb p List.mem_cons_self f)
    | ok o =>
      have hn : ∀ f, ¬ Faulty files p f := in_order_iff.mp ⟨o, hp⟩
      obtain ⟨l', hl⟩ := loadOnto_of_ok hp l ps
      rw [hl, ih]
      constructor
      · rintro ⟨before, q, after, rfl, hb, hq⟩
        exact ⟨p :: before, q, after, rfl, List.forall_mem_cons.mpr ⟨hn, hb⟩, hq⟩
      · rintro ⟨before, q, after, he, hb, hq⟩
        cases before with
        | nil =>
          obtain ⟨rfl, -⟩ := List.cons.inj he
          exact absurd hq (hn fault)
        | cons r before =>
          obtain ⟨-, rfl⟩ := List.cons.inj he
          exact ⟨before, q, after, rfl, (List.forall_mem_cons.mp hb).2, hq⟩

theorem found_isSome_iff (ho : ∃ o, layer p (files p) = .ok o) :
    (found files p).isSome ↔ files p ≠ .missing := by
  obtain ⟨o, ho⟩ := ho
  rw [found_of_layer ho]
  cases o with
  | none => simp [layer_none_iff.mp ho]
  | some c =>
    obtain ⟨hf, -⟩ := layer_some_iff.mp ho
    simp [hf]

theorem filter_found (hv : ∀ p ∈ paths, ∃ o, layer p (files p) = .ok o) :
    paths.filter (fun p => (found files p).isSome) = paths.filter (files · ≠ .missing) := by
  apply List.filter_congr
  intro p hp
  rw [Bool.eq_iff_iff, decide_eq_true_iff, found_isSome_iff (hv p hp)]

/-- Files in order, and what they come to, setting by setting. -/
theorem load_ok_iff : load files paths = .ok l ↔
    (∀ p ∈ paths, ∀ f, ¬ Faulty files p f) ∧ l.searched = paths ∧
      l.loaded = paths.filter (files · ≠ .missing) ∧
      ∀ s v, l.config.get s = some v ↔ LastMade files paths s v := by
  have hiff : (∀ p ∈ paths, ∃ o, layer p (files p) = .ok o) ↔
      ∀ p ∈ paths, ∀ f, ¬ Faulty files p f := by
    simp only [in_order_iff]
  by_cases hv : ∀ p ∈ paths, ∃ o, layer p (files p) = .ok o
  · rw [load_eq hv, filter_found hv, Except.ok.injEq]
    constructor
    · rintro rfl
      exact ⟨hiff.mp hv, rfl, rfl, fun s v => get_merged_eq_some_iff⟩
    · rintro ⟨-, hs, hl, hc⟩
      have he : merged files paths = l.config := by
        apply ext_get
        intro s
        apply Option.ext
        intro v
        rw [hc, get_merged_eq_some_iff]
      obtain ⟨config, searched, loaded⟩ := l
      dsimp only at hs hl he
      rw [he, hs, hl]
  · constructor
    · intro h
      exact absurd (in_order_of_loadOnto h) hv
    · rintro ⟨hn, -⟩
      exact absurd (hiff.mpr hn) hv

/-- The first faulty file is the failure; without one, each setting is that of the last document
that makes it. -/
theorem load_last_made (files : String → Found) (paths : List String) :
    (∀ fault, load files paths = .error fault ↔ ∃ before p after, paths = before ++ p :: after ∧
      (∀ q ∈ before, ∀ f, ¬ Faulty files q f) ∧ Faulty files p fault) ∧
    (∀ l, load files paths = .ok l ↔
      (∀ p ∈ paths, ∀ f, ¬ Faulty files p f) ∧ l.searched = paths ∧
        l.loaded = paths.filter (files · ≠ .missing) ∧
        ∀ s v, l.config.get s = some v ↔ LastMade files paths s v) ∧
    (∀ (is : List Item) (w b : List Char), (∀ i ∈ is, i.Proper) → (is.map (·.json.1)).Nodup →
      (Json.object (is.map Item.json)).Written w → Json.Blanks b →
        ∃ c, ofDocument (String.ofList (w ++ b)) = .ok c ∧
          ∀ s v, c.get s = some v ↔ ⟨s, some v⟩ ∈ is.flatMap Item.entries) ∧
    (∀ c d e : Config, (c.overlay d).overlay e = c.overlay (d.overlay e)) ∧
    (∀ c : Config, c.overlay {} = c ∧ ({} : Config).overlay c = c) ∧
    ∀ c d : Config, d.overlay (d.overlay c) = d.overlay c := by
  refine ⟨fun _ => loadOnto_error_iff, fun _ => load_ok_iff,
    fun is w b hi hn h hb => ofDocument_items hi hn h hb, overlay_assoc,
    fun c => ⟨overlay_empty c, empty_overlay c⟩, ?_⟩
  intro c d
  rw [← overlay_assoc, overlay_self]

/-- A null, five missing sections, an empty list and a missing one. -/
theorem load_last_made_open :
    let is : List Item := [.group .peer [⟨.peerPort, none⟩], .table ⟨.filters, some []⟩]
    (∀ i ∈ is, i.Proper) ∧ (is.map (·.json.1)).Nodup ∧
      ∃ c, ofDocument "\x7b\"peer\":\x7b\"default_port\":null\x7d,\"filters\":[]\x7d" = .ok c ∧
        c.peerPort = none ∧ c.httpTimeout = none ∧ c.filters = some [] ∧ c.channels = none := by
  intro is
  have hi : ∀ i ∈ is, i.Proper := by simp [is, Item.Proper, Setting.section?]
  have hn : (is.map (·.json.1)).Nodup := by decide
  obtain ⟨-, -, hdoc, -⟩ := load_last_made (fun _ => .missing) []
  obtain ⟨c, hc, hs⟩ := hdoc is _ [] hi hn (Json.written_compact _) Json.blanks_nil
  have hopen (s : Setting) (h : ∀ v, ⟨s, some v⟩ ∉ is.flatMap Item.entries) : c.get s = none :=
    Option.eq_none_iff_forall_ne_some.mpr fun v hv => h v ((hs s v).mp hv)
  refine ⟨hi, hn, c, hc, hopen .peerPort ?_, hopen .httpTimeout ?_, (hs .filters []).mpr ?_,
    hopen .channels ?_⟩
  · simp [is, Item.entries]
  · simp [is, Item.entries]
  · simp [is, Item.entries]
  · simp [is, Item.entries]

end NodeConsole.Config
