import NodeConsole.Config.Inspection
import NodeConsole.Proofs.Config.Loading

/-! A configuration is what is loaded from its document. -/
namespace NodeConsole.Config

variable {c : Config} {cs : List Config} {files : String → Found} {paths : List String}

theorem merge_copies (hc : ∀ d ∈ cs, d = c) (hn : cs ≠ []) : merge cs = c := by
  induction cs with
  | nil => contradiction
  | cons d cs ih =>
    obtain ⟨rfl, hc⟩ := List.forall_mem_cons.mp hc
    by_cases he : cs = []
    · rw [he, merge, merge, empty_overlay]
    · rw [merge, ih hc he, overlay_self]

/-- Files that all give the same come to what one of them gives. -/
theorem load_copies {t : List Char} (hd : ofDocument (String.ofList t) = .ok c)
    (hf : ∀ p ∈ paths, files p = .missing ∨ files p = .file (Text.encode t))
    (he : ∃ p ∈ paths, files p ≠ .missing) :
    load files paths = .ok {
      config := c, searched := paths, loaded := paths.filter (files · ≠ .missing) } := by
  have hgives {p : String} (hp : files p = .file (Text.encode t)) :
      layer p (files p) = .ok (some c) :=
    layer_some_iff.mpr (.document hp hd)
  have hv : ∀ p ∈ paths, ∃ o, layer p (files p) = .ok o := by
    intro p hp
    obtain hm | hg := hf p hp
    · exact ⟨none, layer_none_iff.mpr hm⟩
    · exact ⟨some c, hgives hg⟩
  have hmerge : merged files paths = c := by
    apply merge_copies
    · intro d hd
      obtain ⟨p, hp, hd⟩ := List.mem_filterMap.mp hd
      obtain hm | hg := hf p hp
      · rw [found_of_layer (layer_none_iff.mpr hm)] at hd
        contradiction
      · rw [found_of_layer (hgives hg)] at hd
        exact (Option.some.inj hd).symm
    · obtain ⟨p, hp, hne⟩ := he
      have hg := (hf p hp).resolve_left hne
      exact List.ne_nil_of_mem (List.mem_filterMap.mpr ⟨p, hp, found_of_layer (hgives hg)⟩)
  rw [load_eq hv, filter_found hv, hmerge]

theorem inspect_shows (runtimeDir : String) (l : Loaded) : ∃ before after,
    (inspect runtimeDir l).toList =
      before ++ Json.writeText "config" ++ ':' :: ' ' :: l.config.toJson.prettyAt 1
        ++ ',' :: after := by
  obtain ⟨before, hb⟩ := Json.prettyFields_append 1
    [("searched_paths", .list (l.searched.map .text)), ("loaded_paths", .list (l.loaded.map .text))]
    "config" l.config.toJson ("effective", effectiveJson runtimeDir l.config) []
  have hi : (inspect runtimeDir l).toList = '\x7b' :: Json.prettyFields 1
      ([("searched_paths", .list (l.searched.map .text)),
          ("loaded_paths", .list (l.loaded.map .text))]
        ++ [("config", l.config.toJson), ("effective", effectiveJson runtimeDir l.config)])
      ++ Json.indent 0 ++ ['\x7d'] := by
    rw [inspect, String.toList_ofList]
    rfl
  refine ⟨'\x7b' :: before, Json.prettyFields 1 [("effective", effectiveJson runtimeDir l.config)]
    ++ Json.indent 0 ++ ['\x7d'], ?_⟩
  rw [hi, hb]
  simp

/-- A configuration is read back from its document, with any blanks, and so it is loaded and
inspected. -/
theorem ofDocument_toJson (c : Config) :
    ofDocument (String.ofList c.toJson.compact) = .ok c ∧
    ofDocument (String.ofList c.toJson.pretty) = .ok c ∧
    (∀ w b, c.toJson.Written w → Json.Blanks b →
      ofDocument (String.ofList (w ++ b)) = .ok c ∧
      ∀ files paths,
        (∀ p ∈ paths, files p = .missing ∨ files p = .file (Text.encode (w ++ b))) →
        (∃ p ∈ paths, files p ≠ .missing) →
        load files paths = .ok {
          config := c, searched := paths, loaded := paths.filter (files · ≠ .missing) }) ∧
    ∀ runtimeDir searched loaded, ∃ before shown after,
      (inspect runtimeDir ⟨c, searched, loaded⟩).toList =
        before ++ Json.writeText "config" ++ ':' :: ' ' :: shown ++ ',' :: after ∧
      c.toJson.Written shown := by
  have hw {w : List Char} (h : c.toJson.Written w) : ofDocument (String.ofList w) = .ok c := by
    rw [← List.append_nil w]
    exact ofDocument_written h Json.blanks_nil
  refine ⟨hw (Json.written_compact _), hw (Json.written_prettyAt 0 _), ?_, ?_⟩
  · intro w b h hb
    have hd : ofDocument (String.ofList (w ++ b)) = .ok c := ofDocument_written h hb
    exact ⟨hd, fun files paths hf he => load_copies hd hf he⟩
  · intro runtimeDir searched loaded
    obtain ⟨before, after, hs⟩ := inspect_shows runtimeDir ⟨c, searched, loaded⟩
    exact ⟨before, _, after, hs, Json.written_prettyAt 1 _⟩

/-- A setting left open is a null, a list left open is left out, and an empty list is written. -/
example :
    String.ofList ({ peerPort := some 7, channels := some [] } : Config).toJson.compact =
      "\x7b\"console\":\x7b\"poll_interval_ms\":null\x7d,\"server\":\x7b\"socket_path\":null\x7d,"
        ++ "\"http\":\x7b\"timeout_ms\":null\x7d,\"dns\":\x7b\"timeout_ms\":null\x7d,"
        ++ "\"peer\":\x7b\"default_port\":7,\"timeout_ms\":null,\"agent\":null\x7d,"
        ++ "\"log\":\x7b\"capacity\":null\x7d,\"channels\":[]\x7d" := by
  decide +kernel

end NodeConsole.Config
