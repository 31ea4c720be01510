import ChatMarkup.Config.Bundled
import ChatMarkup.Proofs.Decoding
import ChatMarkup.Proofs.Settings

/-!
# Configurations as They are Written

A configuration that was written as a document is read back.

A document need not hold every setting. It has some of the sections in some
order, each with some of its keys in some order, and may have comments and blank
lines in between. What is read back has the settings that the document holds,
and the defaults otherwise.

That is so for every decoder that obeys the laws of decoding. They tell what a
decoder makes of lines; here the lines of a document are told, and what is above
any one of them.

## Main definitions

* `Layout`: Which settings a document holds, and in which order.
* `Style`: How a document is written.
* `Style.document`: The document.

## Theorems

* `Style.outline_sections`: What the lines of a document describe.
* `fromToml_document_eq`: A written configuration is read back.
* `exists_error_of_table`, `exists_error_of_entry`: What makes a text one that is
  refused.
* `fromToml_document`: The law of configurations as documents.
* `fromToml_bundled`: The bundled document is the default configuration.
-/

namespace ChatMarkup.Config

open Toml (Line Note Spelling)

variable {ε : Type} {decoder : Decoder ε}

/-! ### Documents -/

/-- A document: its sections in the order in which they stand. -/
structure Layout where
  groups : List Group
  nodup : (groups.map Group.header).Nodup

/-- The settings that a document holds. -/
def Layout.keys (layout : Layout) : List Key :=
  layout.groups.flatMap Group.keys

/-- How a document is written: its strings, and what stands above its lines. -/
structure Style where
  spelling : Spelling
  aboveHeader : Section → List Note
  aboveKey : Key → List Note

namespace Style

variable (style : Style) (config : Config)

/-- The line of a setting, and what stands above it. -/
def setting (key : Key) : List Line :=
  (style.aboveKey key).map Line.note ++ [.setting key.name.toList (key.setting config)]

/-- The lines of settings. -/
def settings (keys : List Key) : List Line :=
  keys.flatMap (style.setting config)

/-- The header of a section, and what stands above it. -/
def header (s : Section) : List Line :=
  (style.aboveHeader s).map Line.note ++ [.header s.name.toList]

/-- The sections, each below its header. -/
def sections (groups : List Group) : List Line :=
  groups.flatMap fun group => style.header group.header ++ style.settings config group.keys

/-- The text of the sections. -/
def document (groups : List Group) : Text :=
  style.spelling.lines (style.sections config groups)

variable {style config}

theorem outline_notes (notes : List Note) (lines : List Line) :
    Toml.outline (notes.map Line.note ++ lines) = Toml.outline lines := by
  induction notes with
  | nil => rfl
  | cons note notes ih => exact ih

theorem outline_settings (keys : List Key) (lines : List Line) :
    Toml.outline (style.settings config keys ++ lines) =
      (keys.map (Key.entry config) ++ (Toml.outline lines).1, (Toml.outline lines).2) := by
  induction keys with
  | nil => rfl
  | cons key keys ih =>
      rw [settings, List.flatMap_cons, setting, List.append_assoc, List.append_assoc,
        outline_notes, List.singleton_append, Toml.outline, ← settings, ih]
      rfl

/-- The sections are the tables that the lines describe. -/
theorem outline_sections (groups : List Group) :
    Toml.outline (style.sections config groups) = ([], groups.map (Group.table config)) := by
  induction groups with
  | nil => rfl
  | cons group groups ih =>
      rw [sections, List.flatMap_cons, header, List.append_assoc, List.append_assoc,
        outline_notes, List.singleton_append, Toml.outline, outline_settings, ← sections, ih,
        List.append_nil]
      rfl

theorem current_notes (table : Option Text) (notes : List Note) :
    Toml.current table (notes.map Line.note) = table := by
  induction notes with
  | nil => rfl
  | cons note notes ih => exact ih

/-- Settings do not end the section that they are in. -/
theorem current_settings (table : Option Text) (keys : List Key) :
    Toml.current table (style.settings config keys) = table := by
  induction keys with
  | nil => rfl
  | cons key keys ih =>
      rw [settings, List.flatMap_cons, setting, Toml.current_append, Toml.current_append,
        current_notes]
      exact ih

theorem current_header (table : Option Text) (s : Section) :
    Toml.current table (style.header s) = some s.name.toList := by
  rw [header, Toml.current_append]
  rfl

theorem exists_setting_eq {groups : List Group} {name : Text} {setting : Toml.Setting}
    (h : Line.setting name setting ∈ style.sections config groups) :
    ∃ key : Key, key.setting config = setting := by
  simp only [sections, header, settings, Style.setting, List.mem_flatMap, List.mem_append,
    List.mem_map, List.mem_singleton, reduceCtorEq, and_false, exists_false, or_false, false_or,
    Line.setting.injEq] at h
  rcases h with ⟨group, -, key, -, -, hsetting⟩
  exact ⟨key, hsetting.symm⟩

/-- No section and no setting is there twice. -/
theorem orderly_sections (h : config.rules.length < 2 ^ 63) (layout : Layout) :
    Toml.Orderly (style.sections config layout.groups) where
  names := by
    rw [outline_sections]
    exact names_nodup config layout.nodup
  tables table htable := by
    rw [outline_sections] at htable
    rcases List.mem_map.mp htable with ⟨group, -, rfl⟩
    exact group.names_nodup config
  counts name n hmem := by
    -- The only count among the settings is the length of rules.
    rcases exists_setting_eq hmem with ⟨key, hkey⟩
    cases key <;> simp only [Key.setting, reduceCtorEq, Toml.Setting.count.injEq] at hkey
    exact hkey ▸ h

end Style

/-! ### Reading back -/

/-- A written configuration is read back. -/
theorem fromToml_document_eq (htoml : decoder.ReadsToml) (hfills : decoder.FillsRecords)
    (style : Style) {config : Config} (h : config.rules.length < 2 ^ 63) (layout : Layout) :
    fromToml decoder (style.document config layout.groups) =
      .ok (blend fun key => if key ∈ layout.keys then config else {}) := by
  rcases htoml.document style.spelling _ (Style.orderly_sections h layout) with
    ⟨entries, htable, hdescribes⟩
  rw [fromToml, Style.document, htable]
  exact record_groups hfills h layout.nodup (Style.outline_sections layout.groups) .header
    hdescribes

/-- A text is refused if no document that it may be is a configuration. -/
theorem exists_error_of_table {s : Text}
    (h : ∀ entries, decoder.table s = .ok entries →
      ∃ cause, decoder.record (record decoder) (.table .header entries) = .error cause) :
    ∃ cause, fromToml decoder s = .error cause := by
  rw [fromToml]
  split
  · next cause _ => exact ⟨cause, rfl⟩
  · next entries htable => exact h entries htable

/-- A key that the section above it does not know is refused, whatever is written
    behind it. -/
theorem exists_error_of_entry (htoml : decoder.ReadsToml) (hfills : decoder.FillsRecords)
    (spelling : Spelling) {lines : List Line} {s : Section}
    (hcurrent : Toml.current none lines = some s.name.toList) {name : Text}
    (hname : ∀ key : Key, key.home = s → key.name.toList ≠ name) (rest : Text) :
    ∃ cause, fromToml decoder (spelling.lines lines ++ spelling.entry name rest) =
      .error cause := by
  refine exists_error_of_table fun entries htable => ?_
  have hheld := htoml.key spelling lines name rest entries htable
  rw [hcurrent] at hheld
  exact exists_error_of_key hfills hheld hname .header

/-- A configuration can be written as a document with any of its settings, its
    sections and the settings in each section in any order, and is read back
    with these settings and the defaults otherwise. With one more key that the
    section does not know, or one more section that is not known, the document
    is refused, whatever the key is set to or the section holds. -/
theorem fromToml_document (decoder : Decoder ε) (htoml : decoder.ReadsToml)
    (hfills : decoder.FillsRecords) (style : Style) (config : Config)
    (h : config.rules.length < 2 ^ 63) (layout : Layout) :
    fromToml decoder (style.document config layout.groups) =
        .ok (blend fun key => if key ∈ layout.keys then config else {}) ∧
      (∀ earlier group later kept others,
        layout.groups = earlier ++ group :: later → group.keys = kept ++ others →
        ∀ name value : Text, (∀ key : Key, key.home = group.header → key.name.toList ≠ name) →
          ∃ cause, fromToml decoder (style.spelling.lines (style.sections config earlier ++
              (style.header group.header ++ style.settings config kept)) ++
            style.spelling.entry name value ++ '\n' ::
              style.spelling.lines (style.settings config others ++
                style.sections config later)) = .error cause) ∧
      (∀ earlier later, layout.groups = earlier ++ later →
        ∀ name content : Text, (∀ s : Section, s.name.toList ≠ name) →
          ∃ cause, fromToml decoder (style.document config earlier ++
            style.spelling.header name ++ content ++ style.document config later) =
              .error cause) ∧
      ∀ name value : Text, (∀ s : Section, s.name.toList ≠ name) →
        ∃ cause, fromToml decoder (style.spelling.entry name value ++ '\n' ::
          style.document config layout.groups) = .error cause := by
  refine ⟨fromToml_document_eq htoml hfills style h layout, ?_, ?_, ?_⟩
  · intro earlier group later kept others _ _ name value hname
    -- Whatever the sections above are, the key belongs to the last header.
    have hcurrent : Toml.current none (style.sections config earlier ++
        (style.header group.header ++ style.settings config kept)) =
          some group.header.name.toList := by
      rw [Toml.current_append, Toml.current_append, Style.current_header, Style.current_settings]
    have hrefused := exists_error_of_entry htoml hfills style.spelling hcurrent hname
      (value ++ '\n' :: style.spelling.lines (style.settings config others ++
        style.sections config later))
    simpa [Spelling.entry] using hrefused
  · intro earlier later _ name content hname
    refine exists_error_of_table fun entries htable => ?_
    rw [List.append_assoc, List.append_assoc] at htable
    have hheld := htoml.header style.spelling (style.sections config earlier) name
      (content ++ style.document config later) entries htable
    exact exists_error_of_section hfills (h := hheld) hname .header
  · intro name value hname
    refine exists_error_of_table fun entries htable => ?_
    have hheld := htoml.key style.spelling [] name
      (value ++ '\n' :: style.document config layout.groups) entries
      (by simpa [Spelling.entry] using htable)
    exact exists_error_of_section hfills hheld hname .header

/-- Sections and settings in another order than usual, a bullet of characters that
    need an escape, and a key with a slip in its name. -/
theorem fromToml_document_out_of_order :
    Config.decoder.ReadsToml ∧ Config.decoder.FillsRecords ∧ (10 : Nat) < 2 ^ 63 ∧
      ofToml ("[lists]\nbullet = \"\\\"\\\\\\u000a\"\n".toList ++
          "[headings]\nmarker = \"#\"\nstyle = \"prefix\"\n".toList) =
        .ok { headings := { style := .signed, marker := ['#'] },
              lists := { bullet := ['"', '\\', '\n'] } } ∧
      ∃ cause, ofToml ("[lists]\nbullet = \"\\\"\\\\\\u000a\"\n".toList ++
        "[headings]\nmarker = \"#\"\nstile = \"plain\"\nstyle = \"prefix\"\n".toList) =
          .error cause := by
  let config : Config :=
    { headings := { style := .signed, marker := ['#'] }, lists := { bullet := ['"', '\\', '\n'] } }
  let lists : Group := ⟨.lists, [.bullet], by decide, by decide⟩
  let headings : Group := ⟨.headings, [.headingMarker, .headingStyle], by decide, by decide⟩
  have hlength : config.rules.length < 2 ^ 63 := by decide
  have hname : ∀ key : Key, key.home = .headings → key.name.toList ≠ "stile".toList := by
    intro key
    cases key <;> decide
  rcases fromToml_document Config.decoder decoder_readsToml decoder_fillsRecords
    ⟨.short, fun _ => [], fun _ => []⟩ config hlength ⟨[lists, headings], by decide⟩ with
    ⟨hread, hkey, -, -⟩
  have hslip := hkey [lists] headings [] [.headingMarker] [.headingStyle] rfl rfl "stile".toList
    "\"plain\"".toList hname
  refine ⟨decoder_readsToml, decoder_fillsRecords, by decide, ?_, ?_⟩
  · refine Eq.trans (congrArg ofToml ?_) hread
    decide
  · rcases hslip with ⟨cause, hcause⟩
    refine ⟨cause, Eq.trans (congrArg ofToml ?_) hcause⟩
    decide

/-- How the bundled document is written. -/
def bundledStyle : Style where
  spelling := .short
  aboveHeader
    | .headings =>
      [.comment " Default md2mrkdwn configuration.".toList (by decide),
        .comment
          " Copy to md2mrkdwn.toml and change what you need; missing keys keep these values.".toList
          (by decide),
        .blank]
    | _ => [.blank]
  aboveKey
    | .headingStyle =>
      [.comment " bold-only | bold-with-marker | plain | prefix".toList (by decide)]
    | .headingMarker =>
      [.comment " Repeated once per heading level when style = \"bold-with-marker\"".toList
        (by decide)]
    | .linkFormat => [.comment " slack | url-only | text-only".toList (by decide)]
    | .tableMode => [.comment " code-block | preserve".toList (by decide)]
    | _ => []

/-- All settings in the usual order. -/
def Layout.full : Layout where
  groups :=
    [.headings, .lists, .rules, .links, .tables, .convert].map fun s =>
      ⟨s, s.keys, by cases s <;> decide, s.home_eq_of_mem_keys⟩
  nodup := by decide

set_option maxRecDepth 20000 in
/-- The bundled document is the default configuration with all its settings. -/
theorem ofList_document_full :
    String.ofList (bundledStyle.document {} Layout.full.groups) = bundled := by
  with_unfolding_all rfl

/-- Read as a configuration, the bundled document is the default. -/
theorem fromToml_bundled (htoml : decoder.ReadsToml) (hfills : decoder.FillsRecords) :
    fromToml decoder bundled.toList = .ok {} := by
  rw [← ofList_document_full, String.toList_ofList,
    fromToml_document_eq htoml hfills bundledStyle (by decide) Layout.full]
  simp only [ite_self]
  rfl

end ChatMarkup.Config
