import Mathlib.Data.List.Nodup
import NodeConsole.Proofs.Config.Settings
import NodeConsole.Proofs.Json.Records
import NodeConsole.Proofs.PeerId

/-! A configuration read from its document, however that is laid out. -/
namespace NodeConsole

theorem ChannelStatus.ofName_name (s : ChannelStatus) : ofName? s.name = some s := by
  cases s <;> rfl

namespace Json.Reader

theorem reads_uint64 : Reads uint64 fun n => .nat n.toNat := by
  intro n w t h ht
  have hr := map_of_ok Nat.toUInt64 (nat_written n.toNat_lt (Nat.le_refl _) h ht)
  rwa [Nat.toUInt64_eq, UInt64.ofNat_toNat] at hr

theorem reads_uint16 : Reads uint16 fun n => .nat n.toNat := by
  intro n w t h ht
  have hr := map_of_ok Nat.toUInt16 (nat_written n.toNat_lt (by decide) h ht)
  rwa [Nat.toUInt16_eq, UInt16.ofNat_toNat] at hr

theorem reads_peerId : Reads peerId PeerId.toJson := reads_textOf PeerId.ofText_text

theorem reads_status : Reads (choice ChannelStatus.ofName?) fun s => .text s.name :=
  reads_choice ChannelStatus.ofName_name

/-- What a filter writes, and what each part of it sets when it is read. -/
def filterParts (f : FilterSpec) : List (Part FilterSpec) :=
  [.of "pattern" .text (fun p f => { f with pattern := p }) f.pattern,
    .of "flags" (fun l => .list (l.map .text)) (fun l f => { f with flags := l }) f.flags]

def channelParts (c : Channel) : List (Part Channel) :=
  [.of "name" .text (fun n c => { c with name := n }) c.name,
    .of "id" PeerId.toJson (fun i c => { c with id := i }) c.id,
    .of "status" (fun s => .text s.name) (fun s c => { c with status := s }) c.status]

theorem reads_filterSpec : Reads filterSpec FilterSpec.toJson := by
  intro f w t h _
  have hn : ["pattern", "flags"].Nodup := by decide
  refine record_written (filterParts f) ?_ hn ?_ h {}
  · simp only [filterParts, List.forall_mem_cons]
    refine ⟨?_, ?_, nofun⟩
    · exact fits_of_reads rfl rfl reads_text _
    · exact fits_of_reads rfl rfl (reads_list reads_text) _
  · simp [filterParts, required, defaulted, Part.of]

theorem reads_channel : Reads channel Channel.toJson := by
  intro c w t h _
  have hn : ["name", "id", "status"].Nodup := by decide
  refine record_written (channelParts c) ?_ hn ?_ h {}
  · simp only [channelParts, List.forall_mem_cons]
    refine ⟨?_, ?_, ?_, nofun⟩
    · exact fits_of_reads rfl rfl reads_text _
    · exact fits_of_reads rfl rfl reads_peerId _
    · exact fits_of_reads rfl rfl reads_status _
  · simp [channelParts, required, defaulted, Part.of]

/-- A section is a record of its own. -/
def groupPart (name : String) (settings : List (Part Config)) : Part Config :=
  ⟨name, .object (settings.map fun p => (p.name, p.value)),
    Config.overlay (settings.foldl (fun c p => p.set c) {})⟩

theorem fits_setting {σ α : Type} {fields : List (Field σ)} {name : String} {read : Reader α}
    {put : α → Json} {set : Option α → σ → σ}
    (hf : fields.find? (·.name = name) = some (setting name read set))
    (hr : Reads read put) (hn : ∀ a, put a ≠ .null) (o : Option α) :
    (Part.of name (.ofOption put) set o).Fits fields :=
  fits_of_reads hf rfl (reads_optional hr hn) o

theorem fits_group {fields settings : List (Field Config)} {name : String}
    {parts : List (Part Config)} (hf : fields.find? (·.name = name) = some (group name settings))
    (hp : ∀ p ∈ parts, p.Fits settings) (hn : (parts.map (·.name)).Nodup)
    (ho : ∀ f ∈ settings, f.optional) : (groupPart name parts).Fits fields := by
  refine ⟨_, hf, ?_⟩
  intro w t h _
  exact map_of_ok Config.overlay (record_written parts hp hn (fun f hf => .inl (ho f hf)) h {})

theorem fits_table {α : Type} {fields : List (Field Config)} {name : String} {read : Reader α}
    {put : α → Json} {set : Option (List α) → Config → Config}
    (hf : fields.find? (·.name = name) = some (defaulted name (Reader.optional (list read)) set))
    (hr : Reads read put) (o : Option (List α)) :
    (Part.of name (.ofOption fun l => .list (l.map put)) set o).Fits fields :=
  fits_of_reads hf rfl (reads_optional (reads_list hr) fun _ => nofun) o

end Json.Reader

namespace Config

inductive Section
  | console | server | http | dns | peer | log
  deriving DecidableEq, Repr

def Section.name : Section → String
  | .console => "console"
  | .server => "server"
  | .http => "http"
  | .dns => "dns"
  | .peer => "peer"
  | .log => "log"

/-- The lists stand in no section. -/
def Setting.section? : Setting → Option Section
  | .pollInterval => some .console
  | .socketPath => some .server
  | .httpTimeout => some .http
  | .dnsTimeout => some .dns
  | .peerPort | .peerTimeout | .peerAgent => some .peer
  | .logCapacity => some .log
  | .filters | .channels => none

def Setting.name : Setting → String
  | .pollInterval => "poll_interval_ms"
  | .socketPath => "socket_path"
  | .httpTimeout | .dnsTimeout | .peerTimeout => "timeout_ms"
  | .peerPort => "default_port"
  | .peerAgent => "agent"
  | .logCapacity => "capacity"
  | .filters => "filters"
  | .channels => "channels"

def Setting.toJson : (s : Setting) → s.Value → Json
  | .pollInterval, (n : UInt64) | .httpTimeout, (n : UInt64) | .dnsTimeout, (n : UInt64)
  | .peerTimeout, (n : UInt64) | .logCapacity, (n : UInt64) => .nat n.toNat
  | .peerPort, (n : UInt16) => .nat n.toNat
  | .socketPath, (t : String) | .peerAgent, (t : String) => .text t
  | .filters, (l : List FilterSpec) => .list (l.map FilterSpec.toJson)
  | .channels, (l : List Channel) => .list (l.map Channel.toJson)

/-- The configuration with one setting made or left open. -/
def put : (s : Setting) → Option s.Value → Config → Config
  | .pollInterval, n, c => { c with pollInterval := n }
  | .socketPath, p, c => { c with socketPath := p }
  | .httpTimeout, n, c => { c with httpTimeout := n }
  | .dnsTimeout, n, c => { c with dnsTimeout := n }
  | .peerPort, n, c => { c with peerPort := n }
  | .peerTimeout, n, c => { c with peerTimeout := n }
  | .peerAgent, t, c => { c with peerAgent := t }
  | .logCapacity, n, c => { c with logCapacity := n }
  | .filters, l, c => { c with filters := l }
  | .channels, l, c => { c with channels := l }

theorem get_put (s : Setting) (o : Option s.Value) (c : Config) : (put s o c).get s = o := by
  cases s <;> rfl

theorem get_put_other {s t : Setting} (h : s ≠ t) (o : Option t.Value) (c : Config) :
    (put t o c).get s = c.get s := by
  cases s <;> cases t <;> first | rfl | contradiction

/-- What a document says of a setting: a value or a null. -/
structure Entry where
  setting : Setting
  value : Option setting.Value

def Entry.json (e : Entry) : String × Json :=
  (e.setting.name, .ofOption e.setting.toJson e.value)

/-- A section with some of its settings, or a list. -/
inductive Item
  | group (g : Section) (entries : List Entry)
  | table (e : Entry)

namespace Item

def entries : Item → List Entry
  | group _ es => es
  | table e => [e]

def json : Item → String × Json
  | group g es => (g.name, .object (es.map Entry.json))
  | table e => e.json

/-- The settings of a section are its own, and none stands there twice. -/
def Proper : Item → Prop
  | group g es => (∀ e ∈ es, e.setting.section? = some g) ∧ (es.map (·.setting)).Nodup
  | table e => e.setting.section? = none

end Item

/-- The configuration makes just the settings to which the entries give a value. -/
def Makes (c : Config) (es : List Entry) : Prop := ∀ s v, c.get s = some v ↔ ⟨s, some v⟩ ∈ es

variable {c d : Config} {es fs : List Entry} {e : Entry} {g : Section} {i : Item}
  {is : List Item} {s : Setting}

theorem Makes.get_eq_none (h : c.Makes es) (hs : s ∉ es.map (·.setting)) : c.get s = none := by
  rw [Option.eq_none_iff_forall_ne_some]
  intro v hv
  exact hs (List.mem_map_of_mem ((h s v).mp hv))

theorem makes_empty : ({} : Config).Makes [] := by
  intro s v
  simp [get_empty]

theorem Makes.put (h : c.Makes es) (he : e.setting ∉ es.map (·.setting)) :
    (put e.setting e.value c).Makes (es ++ [e]) := by
  obtain ⟨t, o⟩ := e
  intro s v
  rw [List.mem_append, List.mem_singleton]
  by_cases hs : s = t
  · subst hs
    have hn : ⟨s, some v⟩ ∉ es := fun hm => he (List.mem_map.mpr ⟨_, hm, rfl⟩)
    rw [get_put, or_iff_right hn, Entry.mk.injEq]
    simp [eq_comm]
  · rw [get_put_other hs, h s v, or_iff_left fun hm => hs (congrArg Entry.setting hm)]

theorem Makes.overlay (hc : c.Makes es) (hd : d.Makes fs)
    (hn : ∀ s ∈ fs.map (·.setting), s ∉ es.map (·.setting)) :
    (d.overlay c).Makes (es ++ fs) := by
  intro s v
  rw [get_overlay, Option.or_eq_some_iff, List.mem_append, ← hc s v, ← hd s v, or_comm]
  refine or_congr_left (and_iff_right_of_imp fun hv => ?_)
  apply hd.get_eq_none
  intro hs
  exact hn s hs (List.mem_map_of_mem ((hc s v).mp hv))

def Entry.part (e : Entry) : Json.Reader.Part Config := ⟨e.json.1, e.json.2, put e.setting e.value⟩

def Item.part : Item → Json.Reader.Part Config
  | group g es => Json.Reader.groupPart g.name (es.map Entry.part)
  | table e => e.part

theorem makes_parts (hn : (es.map (·.setting)).Nodup) :
    ((es.map Entry.part).foldl (fun c (p : Json.Reader.Part Config) => p.set c) {}).Makes es := by
  induction es using List.reverseRecOn with
  | nil => exact makes_empty
  | append_singleton es e ih =>
    rw [List.map_append, List.nodup_append] at hn
    rw [List.map_append, List.foldl_append]
    exact (ih hn.1).put fun he => hn.2.2 _ he _ List.mem_cons_self rfl

theorem Item.part_makes (hi : i.Proper) (hc : c.Makes es)
    (hn : ∀ s ∈ i.entries.map (·.setting), s ∉ es.map (·.setting)) :
    (i.part.set c).Makes (es ++ i.entries) := by
  cases i with
  | group g fs => exact hc.overlay (makes_parts hi.2) hn
  | table e => exact hc.put (hn _ List.mem_cons_self)

/-- Where a setting stands in a document. -/
def Setting.place (s : Setting) : String :=
  match s.section? with
  | some g => g.name
  | none => s.name

theorem Item.place_eq (hi : i.Proper) : ∀ s ∈ i.entries.map (·.setting), s.place = i.json.1 := by
  intro s hs
  obtain ⟨e, he, rfl⟩ := List.mem_map.mp hs
  cases i with
  | group g es =>
    rw [Setting.place, hi.1 e he]
    rfl
  | table f =>
    obtain rfl := List.mem_singleton.mp he
    have hf : e.setting.section? = none := hi
    rw [Setting.place, hf]
    rfl

theorem makes_items (hi : ∀ i ∈ is, i.Proper) (hn : (is.map (·.json.1)).Nodup) :
    ((is.map Item.part).foldl (fun c (p : Json.Reader.Part Config) => p.set c) {}).Makes
      (is.flatMap Item.entries) := by
  induction is using List.reverseRecOn with
  | nil => exact makes_empty
  | append_singleton is i ih =>
    obtain ⟨his, hi⟩ := List.forall_mem_append.mp hi
    have hi := hi i List.mem_cons_self
    rw [List.map_append, List.nodup_append] at hn
    rw [List.map_append, List.foldl_append, List.flatMap_append, List.flatMap_singleton]
    refine Item.part_makes hi (ih his hn.1) ?_
    -- A setting has one place, and two items stand in two places.
    intro s hs hm
    simp only [List.map_flatMap, List.mem_flatMap] at hm
    obtain ⟨j, hj, hm⟩ := hm
    have hp := (Item.place_eq (his j hj) s hm).symm.trans (Item.place_eq hi s hs)
    exact hn.2.2 _ (List.mem_map_of_mem hj) _ List.mem_cons_self hp

open Json.Reader

def Section.fields : Section → List (Json.Reader.Field Config)
  | .console => [setting "poll_interval_ms" uint64 (put .pollInterval)]
  | .server => [setting "socket_path" text (put .socketPath)]
  | .http => [setting "timeout_ms" uint64 (put .httpTimeout)]
  | .dns => [setting "timeout_ms" uint64 (put .dnsTimeout)]
  | .peer =>
    [setting "default_port" uint16 (put .peerPort), setting "timeout_ms" uint64 (put .peerTimeout),
      setting "agent" text (put .peerAgent)]
  | .log => [setting "capacity" uint64 (put .logCapacity)]

theorem fits_entry (h : e.setting.section? = some g) : e.part.Fits g.fields := by
  obtain ⟨s, o⟩ := e
  have hn (n : Nat) : Json.nat n ≠ .null := nofun
  have ht (t : String) : Json.text t ≠ .null := nofun
  cases s with
  | pollInterval | httpTimeout | dnsTimeout | peerTimeout | logCapacity =>
    cases h
    exact fits_setting rfl reads_uint64 (fun _ => hn _) o
  | peerPort =>
    cases h
    exact fits_setting rfl reads_uint16 (fun _ => hn _) o
  | socketPath | peerAgent =>
    cases h
    exact fits_setting rfl reads_text ht o
  | filters | channels => contradiction

theorem name_injective {t : Setting} (hs : s.section? = some g) (ht : t.section? = some g)
    (h : s.name = t.name) : s = t := by
  cases s <;> cases hs <;> cases t <;> cases ht <;> first | rfl | contradiction

theorem Item.part_json (i : Item) : (i.part.name, i.part.value) = i.json := by
  cases i with
  | group g es => simp [part, groupPart, json, Entry.part, Function.comp_def]
  | table e => rfl

theorem fits_section {fields : List (Json.Reader.Field Config)}
    (hf : fields.find? (·.name = g.name) = some (Json.Reader.group g.name g.fields))
    (hi : (Item.group g es).Proper) : (Item.group g es).part.Fits fields := by
  obtain ⟨hg, hn⟩ := hi
  refine fits_group hf ?_ ?_ ?_
  · intro p hp
    obtain ⟨e, he, rfl⟩ := List.mem_map.mp hp
    exact fits_entry (hg e he)
  · have hnames : (es.map Entry.part).map (·.name) = (es.map (·.setting)).map Setting.name := by
      rw [List.map_map, List.map_map]
      rfl
    rw [hnames]
    refine List.Nodup.map_on ?_ hn
    intro s hs t ht h
    obtain ⟨e, he, rfl⟩ := List.mem_map.mp hs
    obtain ⟨f, hf, rfl⟩ := List.mem_map.mp ht
    exact name_injective (hg e he) (hg f hf) h
  · cases g <;> simp [Section.fields, setting]

theorem config_items (hi : ∀ i ∈ is, i.Proper) (hn : (is.map (·.json.1)).Nodup) {w t : List Char}
    (h : (Json.object (is.map Item.json)).Written w) :
    config (w ++ t) = .ok ((is.map Item.part).foldl (fun c p => p.set c) {}, t) := by
  have hjson : (is.map Item.part).map (fun p => (p.name, p.value)) = is.map Item.json := by
    rw [List.map_map]
    exact List.map_congr_left fun i _ => i.part_json
  have hnames : (is.map Item.part).map (·.name) = is.map (·.json.1) := by
    rw [List.map_map]
    exact List.map_congr_left fun i _ => congrArg Prod.fst i.part_json
  rw [← hjson] at h
  rw [← hnames] at hn
  refine record_written (is.map Item.part) ?_ hn ?_ h {}
  · intro p hp
    obtain ⟨i, hm, rfl⟩ := List.mem_map.mp hp
    have hi := hi i hm
    cases i with
    | group g es => exact fits_section (by cases g <;> rfl) hi
    | table e =>
      obtain ⟨s, o⟩ := e
      cases s with
      | filters => exact fits_table rfl reads_filterSpec o
      | channels => exact fits_table rfl reads_channel o
      | _ => contradiction
  · simp [Json.Reader.group, defaulted]

/-- The items of a document that is written: all sections with all their settings, and the lists
that are there. -/
def items (c : Config) : List Item :=
  [.group .console [⟨.pollInterval, c.pollInterval⟩], .group .server [⟨.socketPath, c.socketPath⟩],
      .group .http [⟨.httpTimeout, c.httpTimeout⟩], .group .dns [⟨.dnsTimeout, c.dnsTimeout⟩],
      .group .peer [⟨.peerPort, c.peerPort⟩, ⟨.peerTimeout, c.peerTimeout⟩,
        ⟨.peerAgent, c.peerAgent⟩],
      .group .log [⟨.logCapacity, c.logCapacity⟩]]
    ++ (c.filters.map fun (l : List FilterSpec) => Item.table ⟨.filters, some l⟩).toList
    ++ (c.channels.map fun (l : List Channel) => Item.table ⟨.channels, some l⟩).toList

theorem toJson_eq (c : Config) : c.toJson = .object (c.items.map Item.json) := by
  obtain ⟨_, _, _, _, _, _, _, _, filters, channels⟩ := c
  cases filters <;> cases channels <;> rfl

theorem proper_items (c : Config) : ∀ i ∈ c.items, i.Proper := by
  obtain ⟨_, _, _, _, _, _, _, _, filters, channels⟩ := c
  cases filters <;> cases channels <;> simp [items, Item.Proper, Setting.section?]

theorem nodup_items (c : Config) : (c.items.map (·.json.1)).Nodup := by
  obtain ⟨_, _, _, _, _, _, _, _, filters, channels⟩ := c
  cases filters <;> cases channels <;>
    simp [items, Item.json, Entry.json, Section.name, Setting.name]

theorem fold_items (c : Config) :
    (c.items.map Item.part).foldl (fun d (p : Json.Reader.Part Config) => p.set d) {} = c := by
  obtain ⟨_, _, _, _, _, _, _, _, filters, channels⟩ := c
  cases filters <;> cases channels <;>
    simp [items, Item.part, groupPart, Entry.part, overlay, put] <;> rfl

theorem reads_config : Reads config toJson := by
  intro c w t h _
  rw [toJson_eq] at h
  rw [config_items (proper_items c) (nodup_items c) h, fold_items]

theorem ofDocument_items (hi : ∀ i ∈ is, i.Proper) (hn : (is.map (·.json.1)).Nodup)
    {w b : List Char} (h : (Json.object (is.map Item.json)).Written w) (hb : Json.Blanks b) :
    ∃ c, ofDocument (String.ofList (w ++ b)) = .ok c ∧ c.Makes (is.flatMap Item.entries) :=
  ⟨_, run_of_read (config_items hi hn h) hb, makes_items hi hn⟩

theorem ofDocument_written {w b : List Char} (h : c.toJson.Written w) (hb : Json.Blanks b) :
    ofDocument (String.ofList (w ++ b)) = .ok c :=
  run_written reads_config h hb

end Config
end NodeConsole
