import ChatMarkup.Proofs.Decoders

/-!
# Settings by Name

What the tables of a document say about a configuration, in whatever order they
say it.

The sections have types of their own, so a law about all of them is about a
family. `Section` is its index. `Key` lists the settings, each with the section
that is its home, its name and its value. With that, what a configuration takes
from where is a function of keys: `blend` takes each setting from the
configuration that is given for its key.

The settings are the fields of records, and a decoder that obeys the laws of
decoding fills these. What remains is to go through the fields, once for each
section and once for the sections themselves, and to say which entry there is
for each. No order plays a part in that.

## Main definitions

* `Section`, `Key`: The sections and the settings by name.
* `blend`: A configuration with settings from several others.
* `Group`: Settings of one section, in some order.

## Theorems

* `forall₂_names`: The fields of a section are its settings.
* `record_group`, `record_groups`: Settings and sections are read in any order.
* `exists_error_of_section`, `exists_error_of_key`: Unknown names are refused.
-/

namespace ChatMarkup.Config

open Toml (Describes Entries Line Reflects Setting)

variable {ε : Type} {decoder : Decoder ε}

/-! ### Sections and keys -/

/-- The sections of a configuration. -/
inductive Section
  | headings
  | lists
  | rules
  | links
  | tables
  | convert
  deriving DecidableEq

namespace Section

/-- The name of the section in a document. -/
def name : Section → String
  | headings => "headings"
  | lists => "lists"
  | rules => "rules"
  | links => "links"
  | tables => "tables"
  | convert => "convert"

/-- What the settings of the section are. -/
def Settings : Section → Type
  | headings => Headings
  | lists => Lists
  | rules => Rules
  | links => Links
  | tables => Tables
  | convert => Conversions

/-- The settings as a record. -/
def record (decoder : Decoder ε) : (s : Section) → Record ε s.Settings
  | headings => headingRecord decoder
  | lists => listRecord decoder
  | rules => ruleRecord decoder
  | links => linkRecord decoder
  | tables => tableRecord decoder
  | convert => conversionRecord decoder

theorem eq_of_name_eq {s t : Section} (h : s.name.toList = t.name.toList) : s = t := by
  revert h
  cases s <;> cases t <;> decide

end Section

/-- The settings of a section. -/
def part (config : Config) : (s : Section) → s.Settings
  | .headings => config.headings
  | .lists => config.lists
  | .rules => config.rules
  | .links => config.links
  | .tables => config.tables
  | .convert => config.convert

/-- The configuration with other settings in a section. -/
def withPart (config : Config) : (s : Section) → s.Settings → Config
  | .headings, settings => { config with headings := settings }
  | .lists, settings => { config with lists := settings }
  | .rules, settings => { config with rules := settings }
  | .links, settings => { config with links := settings }
  | .tables, settings => { config with tables := settings }
  | .convert, settings => { config with convert := settings }

/-- The section as a field of the configuration. -/
def Section.field (decoder : Decoder ε) (s : Section) : Field ε Config where
  key := s.name
  Content := s.Settings
  read := decoder.record (s.record decoder)
  get config := config.part s
  set config settings := config.withPart s settings

theorem fields_record (decoder : Decoder ε) :
    (record decoder).fields = [Section.headings, .lists, .rules, .links, .tables,
      .convert].map (Section.field decoder) :=
  rfl

theorem mem_fields_record {field : Field ε Config} :
    field ∈ (record decoder).fields ↔ ∃ s, Section.field decoder s = field := by
  rw [fields_record, List.mem_map]
  constructor
  · rintro ⟨s, -, hs⟩
    exact ⟨s, hs⟩
  · rintro ⟨s, hs⟩
    exact ⟨s, by cases s <;> decide, hs⟩

/-- The settings of a configuration. -/
inductive Key
  | headingStyle
  | headingMarker
  | bullet
  | checkboxChecked
  | checkboxUnchecked
  | ruleChar
  | ruleLength
  | linkFormat
  | tableMode
  | bold
  | italic
  | strikethrough
  | links
  | images
  | lists
  | taskLists
  | headings
  | rules
  | tables
  deriving DecidableEq

namespace Key

/-- The section that the setting belongs to. -/
def home : Key → Section
  | headingStyle | headingMarker => .headings
  | bullet | checkboxChecked | checkboxUnchecked => .lists
  | ruleChar | ruleLength => .rules
  | linkFormat => .links
  | tableMode => .tables
  | bold | italic | strikethrough | links | images | lists | taskLists | headings | rules
  | tables => .convert

/-- The name of the setting in its section. -/
def name : Key → String
  | headingStyle => "style"
  | headingMarker => "marker"
  | bullet => "bullet"
  | checkboxChecked => "checkbox-checked"
  | checkboxUnchecked => "checkbox-unchecked"
  | ruleChar => "char"
  | ruleLength => "length"
  | linkFormat => "format"
  | tableMode => "mode"
  | bold => "bold"
  | italic => "italic"
  | strikethrough => "strikethrough"
  | links => "links"
  | images => "images"
  | lists => "lists"
  | taskLists => "task-lists"
  | headings => "headings"
  | rules => "rules"
  | tables => "tables"

/-- The value of the setting. -/
def setting (config : Config) : Key → Setting
  | headingStyle => .text (Choice.name config.headings.style).toList
  | headingMarker => .text config.headings.marker
  | bullet => .text config.lists.bullet
  | checkboxChecked => .text config.lists.checkboxChecked
  | checkboxUnchecked => .text config.lists.checkboxUnchecked
  | ruleChar => .text config.rules.char
  | ruleLength => .count config.rules.length
  | linkFormat => .text (Choice.name config.links.format).toList
  | tableMode => .text (Choice.name config.tables.mode).toList
  | bold => .flag config.convert.bold
  | italic => .flag config.convert.italic
  | strikethrough => .flag config.convert.strikethrough
  | links => .flag config.convert.links
  | images => .flag config.convert.images
  | lists => .flag config.convert.lists
  | taskLists => .flag config.convert.taskLists
  | headings => .flag config.convert.headings
  | rules => .flag config.convert.rules
  | tables => .flag config.convert.tables

/-- The setting by its name. -/
def entry (config : Config) (key : Key) : Text × Setting :=
  (key.name.toList, key.setting config)

end Key

/-- The settings of a section. -/
def Section.keys : Section → List Key
  | headings => [.headingStyle, .headingMarker]
  | lists => [.bullet, .checkboxChecked, .checkboxUnchecked]
  | rules => [.ruleChar, .ruleLength]
  | links => [.linkFormat]
  | tables => [.tableMode]
  | convert =>
    [.bold, .italic, .strikethrough, .links, .images, .lists, .taskLists, .headings, .rules,
      .tables]

theorem Section.home_eq_of_mem_keys (s : Section) : ∀ key ∈ s.keys, key.home = s := by
  cases s <;> decide

/-- The configuration that has each setting from the configuration given for its
    key. -/
def blend (source : Key → Config) : Config where
  headings :=
    { style := (source .headingStyle).headings.style
      marker := (source .headingMarker).headings.marker }
  lists :=
    { bullet := (source .bullet).lists.bullet
      checkboxChecked := (source .checkboxChecked).lists.checkboxChecked
      checkboxUnchecked := (source .checkboxUnchecked).lists.checkboxUnchecked }
  rules :=
    { char := (source .ruleChar).rules.char
      length := (source .ruleLength).rules.length }
  links := { format := (source .linkFormat).links.format }
  tables := { mode := (source .tableMode).tables.mode }
  convert :=
    { bold := (source .bold).convert.bold
      italic := (source .italic).convert.italic
      strikethrough := (source .strikethrough).convert.strikethrough
      links := (source .links).convert.links
      images := (source .images).convert.images
      lists := (source .lists).convert.lists
      taskLists := (source .taskLists).convert.taskLists
      headings := (source .headings).convert.headings
      rules := (source .rules).convert.rules
      tables := (source .tables).convert.tables }

@[simp]
theorem setting_blend (source : Key → Config) (key : Key) :
    key.setting (blend source) = key.setting (source key) := by
  cases key <;> rfl

/-- A section of a blend depends on the sources of its own settings only. -/
theorem part_blend_congr {s : Section} {source other : Key → Config}
    (h : ∀ key : Key, key.home = s → source key = other key) :
    (blend source).part s = (blend other).part s := by
  cases s <;> simp only [part, blend]
  case headings => rw [h .headingStyle rfl, h .headingMarker rfl]
  case lists => rw [h .bullet rfl, h .checkboxChecked rfl, h .checkboxUnchecked rfl]
  case rules => rw [h .ruleChar rfl, h .ruleLength rfl]
  case links => rw [h .linkFormat rfl]
  case tables => rw [h .tableMode rfl]
  case convert =>
    rw [h .bold rfl, h .italic rfl, h .strikethrough rfl, h .links rfl, h .images rfl,
      h .lists rfl, h .taskLists rfl, h .headings rfl, h .rules rfl, h .tables rfl]

/-! ### Fields -/

theorem ofName?_eq_of_ofName {α : Type} [Choice α] {name : Text} {value : α}
    (h : Choice.ofName name = .ok value) : Choice.ofName? name = some value := by
  rw [Choice.ofName] at h
  split at h
  · next found hfound => rw [hfound, Except.ok.inj h]
  · exact absurd h (by simp only [reduceCtorEq, not_false_eq_true])

theorem Key.mem_keys_home (key : Key) : key ∈ key.home.keys := by
  cases key <;> decide

/-- Settings of one section have different names. -/
theorem Key.eq_of_name_eq {key other : Key} (hhome : key.home = other.home)
    (hname : key.name.toList = other.name.toList) : key = other := by
  have hnodup (s : Section) : (s.keys.map fun key => key.name.toList).Nodup := by
    cases s <;> decide
  exact List.inj_on_of_nodup_map (hnodup other.home) (hhome ▸ key.mem_keys_home)
    other.mem_keys_home hname

/-- The key is that of the field. It is read as it is written, and a blend has it
    from where it should. -/
structure Key.Names (key : Key) {s : Section} (field : Field ε s.Settings) : Prop where
  home : key.home = s
  name : field.key = key.name
  get_blend : ∀ source : Key → Config,
    field.get ((blend source).part s) = field.get ((source key).part s)
  read : ∀ config : Config, config.rules.length < 2 ^ 63 →
    field.read (key.setting config).value = .ok (field.get (config.part s))

/-- The fields of a section are its settings, one by one. -/
theorem forall₂_names (hfills : decoder.FillsRecords) (s : Section) :
    List.Forall₂ (fun key field => Key.Names key field) s.keys (s.record decoder).fields := by
  cases s with
  | headings =>
      exact .cons ⟨rfl, rfl, fun _ => rfl, fun _ _ =>
          hfills.choice _ _ (ofName?_eq_of_ofName (HeadingStyle.ofName_name _))⟩
        (.cons ⟨rfl, rfl, fun _ => rfl, fun _ _ => hfills.text _⟩ .nil)
  | lists =>
      iterate 3 refine .cons ⟨rfl, rfl, fun _ => rfl, fun _ _ => hfills.text _⟩ ?_
      exact .nil
  | rules =>
      exact .cons ⟨rfl, rfl, fun _ => rfl, fun _ _ => hfills.text _⟩
        (.cons ⟨rfl, rfl, fun _ => rfl, fun _ hlength => hfills.count _ hlength⟩ .nil)
  | links =>
      exact .cons ⟨rfl, rfl, fun _ => rfl, fun _ _ =>
        hfills.choice _ _ (ofName?_eq_of_ofName (LinkFormat.ofName_name _))⟩ .nil
  | tables =>
      exact .cons ⟨rfl, rfl, fun _ => rfl, fun _ _ =>
        hfills.choice _ _ (ofName?_eq_of_ofName (TableMode.ofName_name _))⟩ .nil
  | convert =>
      iterate 10 refine .cons ⟨rfl, rfl, fun _ => rfl, fun _ _ => hfills.flag _⟩ ?_
      exact .nil

/-- Every field of a section is that of a setting. -/
theorem exists_key_of_field (hfills : decoder.FillsRecords) {s : Section}
    {field : Field ε s.Settings} (h : field ∈ (s.record decoder).fields) :
    ∃ key : Key, key.Names field := by
  have hnames := forall₂_names hfills s
  generalize s.keys = keys, (s.record decoder).fields = fields at h hnames
  induction hnames with
  | nil => exact absurd h List.not_mem_nil
  | cons hname _ ih =>
      rcases List.mem_cons.mp h with rfl | hmore
      · exact ⟨_, hname⟩
      · exact ih hmore

/-- Every setting is that of a field. -/
theorem exists_field_of_key (decoder : Decoder ε) {key : Key} {s : Section} (h : key.home = s) :
    ∃ field ∈ (s.record decoder).fields, field.key = key.name := by
  subst h
  have hkeys (s : Section) : (s.record decoder).fields.map Field.key = s.keys.map Key.name := by
    cases s <;> rfl
  have hmem : key.name ∈ (key.home.record decoder).fields.map Field.key :=
    hkeys key.home ▸ List.mem_map_of_mem key.mem_keys_home
  exact List.mem_map.mp hmem

theorem default_record (decoder : Decoder ε) (s : Section) :
    (s.record decoder).default = part {} s := by
  cases s <;> rfl

/-! ### Sections in any order -/

/-- A section of a document: its settings in the order in which they stand. -/
structure Group where
  header : Section
  keys : List Key
  nodup : keys.Nodup
  home_eq : ∀ key ∈ keys, key.home = header

/-- The settings of the section. -/
def Group.settings (config : Config) (group : Group) : Toml.Settings :=
  group.keys.map (Key.entry config)

/-- The settings of the section, with its name. -/
def Group.table (config : Config) (group : Group) : Text × Toml.Settings :=
  (group.header.name.toList, group.settings config)

theorem Group.names_nodup (config : Config) (group : Group) :
    ((group.settings config).map Prod.fst).Nodup := by
  rw [settings, List.map_map]
  exact List.Nodup.map_on (fun key hkey other hother hname => Key.eq_of_name_eq
    ((group.home_eq key hkey).trans (group.home_eq other hother).symm) hname) group.nodup

theorem names_nodup (config : Config) {groups : List Group}
    (h : (groups.map Group.header).Nodup) :
    ((groups.map (Group.table config)).map Prod.fst).Nodup := by
  have hnames := List.Nodup.map (f := fun s : Section => s.name.toList)
    (fun s t => Section.eq_of_name_eq) h
  rw [List.map_map] at hnames ⊢
  exact hnames

/-- A section is read in any order. -/
theorem record_group (hfills : decoder.FillsRecords) {config : Config}
    (hlength : config.rules.length < 2 ^ 63) (group : Group) (origin : Toml.Origin)
    {content : Entries} (hcontent : Reflects (group.settings config) content) :
    decoder.record (group.header.record decoder) (.table origin content) =
      .ok ((blend fun key => if key ∈ group.keys then config else {}).part group.header) := by
  refine hfills.record _ _ _ _ hcontent.nodup (fun name hname => ?_) fun field hfield => ?_
  · rcases List.mem_map.mp (hcontent.known name hname) with ⟨_, hentry, rfl⟩
    rcases List.mem_map.mp hentry with ⟨key, hkey, rfl⟩
    obtain ⟨field, hfield, hname⟩ := exists_field_of_key decoder (group.home_eq key hkey)
    exact ⟨field, hfield, congrArg String.toList hname⟩
  · rcases exists_key_of_field hfills hfield with ⟨key, hnames⟩
    rw [hnames.name]
    by_cases hkey : key ∈ group.keys
    · rw [hcontent.lookup _ _ (List.mem_map_of_mem hkey)]
      refine .given _ ?_
      rw [hnames.read config hlength, hnames.get_blend, if_pos hkey]
    · -- No other setting of the section has the name of this one.
      have hnone : key.name.toList ∉ content.map Prod.fst := by
        intro hmem
        rcases List.mem_map.mp (hcontent.known _ hmem) with ⟨_, hentry, heq⟩
        rcases List.mem_map.mp hentry with ⟨other, hother, rfl⟩
        have hhome := (group.home_eq other hother).trans hnames.home.symm
        exact hkey (Key.eq_of_name_eq hhome heq ▸ hother)
      rw [Toml.lookup_eq_none hnone]
      refine .missing ?_
      rw [hnames.get_blend, if_neg hkey, default_record]

/-- A setting that is there at all is in its own section. -/
theorem exists_group_of_mem {groups : List Group} {key : Key}
    (h : key ∈ groups.flatMap Group.keys) :
    ∃ group ∈ groups, key ∈ group.keys ∧ group.header = key.home := by
  rcases List.mem_flatMap.mp h with ⟨group, hgroup, hkey⟩
  exact ⟨group, hgroup, hkey, (group.home_eq key hkey).symm⟩

theorem mem_keys_iff {groups : List Group} (hnodup : (groups.map Group.header).Nodup)
    {group : Group} (hgroup : group ∈ groups) {key : Key} (hkey : key.home = group.header) :
    key ∈ group.keys ↔ key ∈ groups.flatMap Group.keys := by
  constructor
  · exact fun hmem => List.mem_flatMap.mpr ⟨group, hgroup, hmem⟩
  · intro hmem
    rcases exists_group_of_mem hmem with ⟨other, hother, hmem, heq⟩
    exact List.inj_on_of_nodup_map hnodup hother hgroup (heq.trans hkey) ▸ hmem

/-- Sections are read in any order. -/
theorem record_groups (hfills : decoder.FillsRecords) {config : Config}
    (hlength : config.rules.length < 2 ^ 63) {groups : List Group}
    (hnodup : (groups.map Group.header).Nodup) {lines : List Line}
    (houtline : Toml.outline lines = ([], groups.map (Group.table config))) (origin : Toml.Origin)
    {entries : Entries} (hentries : Describes lines entries) :
    decoder.record (record decoder) (.table origin entries) =
      .ok (blend fun key => if key ∈ groups.flatMap Group.keys then config else {}) := by
  have hknown : ∀ name ∈ entries.map Prod.fst,
      ∃ group ∈ groups, group.header.name.toList = name := by
    intro name hname
    have htables := hentries.known name hname
    rw [houtline, List.map_nil, List.nil_append] at htables
    rcases List.mem_map.mp htables with ⟨_, htable, rfl⟩
    rcases List.mem_map.mp htable with ⟨group, hgroup, rfl⟩
    exact ⟨group, hgroup, rfl⟩
  refine hfills.record _ _ _ _ hentries.nodup (fun name hname => ?_) fun field hfield => ?_
  · rcases hknown name hname with ⟨group, -, rfl⟩
    exact ⟨_, mem_fields_record.mpr ⟨group.header, rfl⟩, rfl⟩
  · rcases mem_fields_record.mp hfield with ⟨s, rfl⟩
    have hkey : (Section.field decoder s).key.toList = s.name.toList := rfl
    by_cases hs : ∃ group ∈ groups, group.header = s
    · rcases hs with ⟨group, hgroup, rfl⟩
      have htable : group.table config ∈ (Toml.outline lines).2 := by
        rw [houtline]
        exact List.mem_map_of_mem hgroup
      rcases hentries.table _ _ htable with ⟨origin, content, hlookup, hcontent⟩
      have hpart : (blend fun key => if key ∈ group.keys then config else {}).part group.header =
          (blend fun key => if key ∈ groups.flatMap Group.keys then config else {}).part
            group.header :=
        part_blend_congr fun key hkey => if_congr (mem_keys_iff hnodup hgroup hkey) rfl rfl
      rw [hkey, hlookup]
      exact .given _ ((record_group hfills hlength group origin hcontent).trans
        (congrArg Except.ok hpart))
    · -- The document says nothing of the section, and neither does any of its settings.
      have hnone : s.name.toList ∉ entries.map Prod.fst := by
        intro hmem
        rcases hknown _ hmem with ⟨group, hgroup, heq⟩
        exact hs ⟨group, hgroup, Section.eq_of_name_eq heq⟩
      have hpart :
          (blend fun key => if key ∈ groups.flatMap Group.keys then config else {}).part s =
            (blend fun _ => {}).part s := by
        refine part_blend_congr fun key hkey => if_neg fun hmem => ?_
        rcases exists_group_of_mem hmem with ⟨group, hgroup, -, heq⟩
        exact hs ⟨group, hgroup, heq.trans hkey⟩
      rw [hkey, Toml.lookup_eq_none hnone]
      refine .missing (hpart.trans ?_)
      cases s <;> rfl

/-! ### What is refused -/

/-- A name that no section has is refused in the document. -/
theorem exists_error_of_section (hfills : decoder.FillsRecords) {entries : Entries} {name : Text}
    (h : Toml.Has entries none name) (hname : ∀ s : Section, s.name.toList ≠ name)
    (origin : Toml.Origin) :
    ∃ cause, decoder.record (record decoder) (.table origin entries) = .error cause := by
  refine hfills.unknown _ _ _ name h fun field hfield => ?_
  rcases mem_fields_record.mp hfield with ⟨s, rfl⟩
  exact hname s

/-- A name that no setting of a section has is refused there. -/
theorem exists_error_of_key (hfills : decoder.FillsRecords) {entries : Entries} {s : Section}
    {name : Text} (h : Toml.Has entries (some s.name.toList) name)
    (hname : ∀ key : Key, key.home = s → key.name.toList ≠ name) (origin : Toml.Origin) :
    ∃ cause, decoder.record (record decoder) (.table origin entries) = .error cause := by
  rcases h with ⟨inner, content, hmem, hheld⟩
  have hsection : ∃ cause, decoder.record (s.record decoder) (.table inner content) =
      .error cause := by
    refine hfills.unknown _ _ _ name hheld fun field hfield => ?_
    rcases exists_key_of_field hfills hfield with ⟨key, hnames⟩
    rw [hnames.name]
    exact hname key hnames.home
  rcases hsection with ⟨problem, hproblem⟩
  exact hfills.refused _ _ _ (Section.field decoder s) _ problem
    (mem_fields_record.mpr ⟨s, rfl⟩) hmem hproblem

end ChatMarkup.Config
