import NodeConsole.Config.Layers

/-! The settings of a configuration one by one. -/
namespace NodeConsole.Config

inductive Setting
  | pollInterval | socketPath | httpTimeout | dnsTimeout | peerPort | peerTimeout | peerAgent
  | logCapacity | filters | channels
  deriving DecidableEq, Repr

def Setting.Value : Setting → Type
  | .pollInterval | .httpTimeout | .dnsTimeout | .peerTimeout | .logCapacity => UInt64
  | .peerPort => UInt16
  | .socketPath | .peerAgent => String
  | .filters => List FilterSpec
  | .channels => List Channel

/-- A setting, if it is made. -/
def get (c : Config) : (s : Setting) → Option s.Value
  | .pollInterval => c.pollInterval
  | .socketPath => c.socketPath
  | .httpTimeout => c.httpTimeout
  | .dnsTimeout => c.dnsTimeout
  | .peerPort => c.peerPort
  | .peerTimeout => c.peerTimeout
  | .peerAgent => c.peerAgent
  | .logCapacity => c.logCapacity
  | .filters => c.filters
  | .channels => c.channels

/-- Every setting that `c` makes is made the same way in `d`. -/
def Within (c d : Config) : Prop := ∀ s v, c.get s = some v → d.get s = some v

/-- No setting is made in one way by `c` and in another by `d`. -/
def Agrees (c d : Config) : Prop := ∀ s v w, c.get s = some v → d.get s = some w → v = w

/-- Each configuration laid over those before it. -/
def merge : List Config → Config
  | [] => {}
  | c :: cs => (merge cs).overlay c

/-- The layer at a path, if something is found there and it is in order. -/
def found (files : String → Found) (path : String) : Option Config :=
  match layer path (files path) with
  | .ok c => c
  | .error _ => none

/-- What the files at the paths come to. -/
def merged (files : String → Found) (paths : List String) : Config :=
  merge (paths.filterMap (found files))

variable {c d e : Config} {cs ds : List Config} {s : Setting}
  {files : String → Found} {p q : String} {ps qs : List String}

theorem get_overlay (upper lower : Config) (s : Setting) :
    (upper.overlay lower).get s = (upper.get s).or (lower.get s) := by
  cases s <;> exact Option.orElse_eq_or

theorem get_empty (s : Setting) : ({} : Config).get s = none := by
  cases s <;> rfl

theorem ext_get (h : ∀ s, c.get s = d.get s) : c = d := by
  cases c
  cases d
  rw [mk.injEq]
  exact ⟨h .pollInterval, h .socketPath, h .httpTimeout, h .dnsTimeout, h .peerPort,
    h .peerTimeout, h .peerAgent, h .logCapacity, h .filters, h .channels⟩

theorem empty_overlay (c : Config) : ({} : Config).overlay c = c := by
  apply ext_get
  intro s
  rw [get_overlay, get_empty, Option.none_or]

theorem overlay_empty (c : Config) : c.overlay {} = c := by
  apply ext_get
  intro s
  rw [get_overlay, get_empty, Option.or_none]

theorem overlay_self (c : Config) : c.overlay c = c := by
  apply ext_get
  intro s
  rw [get_overlay, Option.or_self]

theorem overlay_assoc (c d e : Config) : (c.overlay d).overlay e = c.overlay (d.overlay e) := by
  apply ext_get
  intro s
  simp only [get_overlay, Option.or_assoc]

theorem within_overlay (c d : Config) : c.Within (c.overlay d) := by
  intro s v h
  rw [get_overlay, h, Option.some_or]

/-- What is laid over `c` leaves its settings alone if it agrees with them, and not otherwise. -/
theorem within_overlay_overlay_iff : c.Within (e.overlay (c.overlay d)) ↔ c.Agrees e := by
  constructor
  · intro h s v w hv hw
    have hs := h s v hv
    rw [get_overlay, hw, Option.some_or] at hs
    exact (Option.some.inj hs).symm
  · intro h s v hv
    rw [get_overlay, get_overlay, hv, Option.some_or]
    cases hw : e.get s with
    | none => rfl
    | some w => rw [h s v w hv hw, Option.some_or]

theorem agrees_empty (c : Config) : c.Agrees {} := by
  intro s v w _ hw
  rw [get_empty] at hw
  contradiction

theorem merge_append (cs ds : List Config) :
    merge (cs ++ ds) = (merge ds).overlay (merge cs) := by
  induction cs with
  | nil => exact (overlay_empty _).symm
  | cons c cs ih => rw [List.cons_append, merge, ih, merge, overlay_assoc]

theorem merged_append (ps qs : List String) :
    merged files (ps ++ qs) = (merged files qs).overlay (merged files ps) := by
  rw [merged, List.filterMap_append, merge_append]
  rfl

theorem merged_singleton (h : found files p = some c) : merged files [p] = c := by
  rw [merged, List.filterMap_cons_some h]
  exact empty_overlay c

/-- A file that counts twice in a row counts once. -/
theorem merged_repeat (h : found files p = found files q) :
    merged files (p :: q :: ps) = merged files (q :: ps) := by
  cases hq : found files q with
  | none =>
    rw [hq] at h
    rw [merged, List.filterMap_cons_none h]
    rfl
  | some c =>
    rw [hq] at h
    rw [merged, List.filterMap_cons_some h, merged, List.filterMap_cons_some hq, merge, merge,
      overlay_assoc, overlay_self]

/-- Whether a file is in order does not depend on its path. -/
theorem found_congr (h : files p = files q) : found files p = found files q := by
  unfold found layer
  rw [h]
  cases files q with
  | missing => rfl
  | unreadable => rfl
  | file bs =>
    dsimp only
    cases Text.decode? bs with
    | none => rfl
    | some s =>
      dsimp only
      cases ofDocument (String.ofList s) <;> rfl

theorem found_of_layer {o : Option Config} (h : layer p (files p) = .ok o) : found files p = o := by
  rw [found, h]

theorem loadOnto_eq (hv : ∀ p ∈ ps, ∃ o, layer p (files p) = .ok o) (l : Loaded) :
    loadOnto files l ps = .ok { l with
      config := (merged files ps).overlay l.config
      loaded := l.loaded ++ ps.filter fun p => (found files p).isSome } := by
  induction ps generalizing l with
  | nil =>
    rw [merged, List.filterMap_nil, merge, empty_overlay, List.filter_nil, List.append_nil]
    rfl
  | cons p ps ih =>
    obtain ⟨⟨o, ho⟩, hv⟩ := List.forall_mem_cons.mp hv
    have hf : found files p = o := found_of_layer ho
    cases o with
    | none =>
      have hl : loadOnto files l (p :: ps) = loadOnto files l ps := by
        rw [loadOnto, ho]
        rfl
      rw [hl, ih hv, merged, merged, List.filterMap_cons_none hf]
      simp [hf]
    | some c =>
      have hl : loadOnto files l (p :: ps) = loadOnto files
          { l with config := c.overlay l.config, loaded := l.loaded ++ [p] } ps := by
        rw [loadOnto, ho]
        rfl
      rw [hl, ih hv, merged, merged, List.filterMap_cons_some hf, merge, overlay_assoc]
      simp [hf]

/-- Files in order are loaded, and each setting is that of the last file that makes it. -/
theorem load_eq (hv : ∀ p ∈ ps, ∃ o, layer p (files p) = .ok o) :
    load files ps = .ok {
      config := merged files ps
      searched := ps
      loaded := ps.filter fun p => (found files p).isSome } := by
  rw [load, loadOnto_eq hv, overlay_empty, List.nil_append]

end NodeConsole.Config
