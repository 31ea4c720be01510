import ChatMarkup.CommandLine.Run
import ChatMarkup.Proofs.FileTrees
import ChatMarkup.Proofs.Scripts
import ChatMarkup.Proofs.WrittenConfig

/-!
# The Configuration of a Run

Where the configuration of a run comes from, and what may be wrong with it.

There are three sources. A file that is named replaces all others; else there is
the file of the fixed name, and where that is no file, the default. What an option
gives is put on top. A configuration from a file must be valid before that, so an
option cannot mend a file, and the outcome must be valid too.

All this is said by three relations that do not follow the steps of the
computation: what loading a file brings, what the base is, and what is made of it.
Each of them lists the ways in which things can go, failures in the order in which
they count. Whatever is related is computed, and something always is related; so
the computation has exactly the outcomes that the relations allow.

A run settles its configuration first. What it does on the way is a list of
actions, and if the configuration fails, the run has done nothing else.

Nothing is assumed of the decoder here. It may refuse what it likes.

## Main definitions

* `Loads`: What loading a configuration file brings.
* `Options.Base`: The configuration before options change it, or why there is
  none.
* `Options.Changes`: The configuration differs from its base as was asked for.
* `Options.Resolves`: The configuration of a run, or why there is none.
* `Options.Consults`: What is done to settle the configuration.
* `Options.ReadsInput`, `Options.WritesOutput`: What may be done afterwards.

## Theorems

* `Loads.eq`, `exists_loads`: What loading a file brings is computed.
* `Options.Base.perform_eq`, `Options.exists_base`: So is the base.
* `perform_loadConfig_iff`: So is the configuration.
* `run_resolves_config`: The law of configurations.
-/

namespace ChatMarkup

theorem HeadingStyle.ofName?_eq_none_iff {name : Text} :
    Choice.ofName? (α := HeadingStyle) name = none ↔
      ∀ style : HeadingStyle, (Choice.name style).toList ≠ name := by
  rw [Choice.ofName?, List.find?_eq_none]
  constructor
  · intro h style
    have hall : style ∈ (Choice.all : List HeadingStyle) := by cases style <;> decide
    exact fun heq => h style hall (beq_iff_eq.mpr heq)
  · intro h style _ heq
    exact h style (beq_iff_eq.mp heq)

namespace CommandLine

variable {ε : Type} {decoder : Decoder ε} {options : Options} {files : FileTree}
  {standardInput : Except SystemError ByteArray} {world : World}

/-! ### Texts -/

/-- Bytes are read as the text that they encode. -/
theorem textOf_encodeText (s : Text) : textOf (.ok (encodeText s)) = .ok s := by
  have hread : String.fromUTF8? (String.ofList s).toUTF8 = some (String.ofList s) :=
    dif_pos (String.ofList s).isValidUTF8
  simp only [textOf, decodeText, encodeText, hread, String.toList_ofList]

/-- Other bytes are not read as any. -/
theorem textOf_of_forall_ne {content : ByteArray} (h : ∀ s, encodeText s ≠ content) :
    textOf (.ok content) = .error .notText := by
  have hread : String.fromUTF8? content = none := by
    refine dif_neg fun hvalid => h (String.fromUTF8 content hvalid).toList ?_
    rw [encodeText, String.ofList_toList]
    rfl
  simp only [textOf, decodeText, hread]

/-! ### Loading a file -/

/-- What loading a configuration file brings: a valid configuration, or the first
    thing that is wrong with the file. -/
inductive Loads (decoder : Decoder ε) (files : FileTree) (path : Text) :
    Except (RunError ε) Config → Prop
  /-- The file cannot be read. -/
  | unreadable (cause : SystemError) : files.read path = .error cause →
    Loads decoder files path (.error (.unreadableConfig path cause))
  /-- Its content is no text. -/
  | notText (content : ByteArray) : files.Holds path content →
    (∀ s, encodeText s ≠ content) →
    Loads decoder files path (.error (.unreadableConfig path .notText))
  /-- The text is no configuration. -/
  | malformed (s : Text) (cause : ε) : files.Holds path (encodeText s) →
    Config.fromToml decoder s = .error cause →
    Loads decoder files path (.error (.malformedConfig path cause))
  /-- The configuration is not valid. -/
  | invalid (s : Text) (config : Config) (cause : Unsupported) :
    files.Holds path (encodeText s) → Config.fromToml decoder s = .ok config →
    config.validate = .error cause → Loads decoder files path (.error (.unsupported cause))
  /-- Nothing is wrong. -/
  | valid (s : Text) (config : Config) : files.Holds path (encodeText s) →
    Config.fromToml decoder s = .ok config → config.validate = .ok () →
    Loads decoder files path (.ok config)

/-- What loading a file brings is what is computed. -/
theorem Loads.eq {path : Text} {result : Except (RunError ε) Config}
    (h : Loads decoder files path result) :
    configOf decoder path (files.read path) = result := by
  cases h with
  | unreadable cause hread => rw [hread]; rfl
  | notText content hholds hother =>
      simp only [configOf, FileTree.read_eq_ok_iff.mpr hholds, textOf_of_forall_ne hother]
  | malformed s cause hholds htoml =>
      simp only [configOf, FileTree.read_eq_ok_iff.mpr hholds, textOf_encodeText, htoml]
  | invalid s config cause hholds htoml hvalid =>
      simp only [configOf, FileTree.read_eq_ok_iff.mpr hholds, textOf_encodeText, htoml, hvalid]
  | valid s config hholds htoml hvalid =>
      simp only [configOf, FileTree.read_eq_ok_iff.mpr hholds, textOf_encodeText, htoml, hvalid]

theorem exists_loads (decoder : Decoder ε) (files : FileTree) (path : Text) :
    ∃ result, Loads decoder files path result := by
  cases hread : files.read path with
  | error cause => exact ⟨_, .unreadable cause hread⟩
  | ok content =>
      have hholds := FileTree.read_eq_ok_iff.mp hread
      by_cases htext : ∃ s, encodeText s = content
      · rcases htext with ⟨s, rfl⟩
        cases htoml : Config.fromToml decoder s with
        | error cause => exact ⟨_, .malformed s cause hholds htoml⟩
        | ok config =>
            cases hvalid : config.validate with
            | error cause => exact ⟨_, .invalid s config cause hholds htoml hvalid⟩
            | ok => exact ⟨_, .valid s config hholds htoml hvalid⟩
      · exact ⟨_, .notText content hholds (not_exists.mp htext)⟩

/-- Loading a file depends on nothing but what reading it brings. -/
theorem Loads.of_read_eq {path : Text} {result : Except (RunError ε) Config} {other : FileTree}
    (hread : other.read path = files.read path) (h : Loads decoder files path result) :
    Loads decoder other path result := by
  rcases exists_loads decoder other path with ⟨found, hfound⟩
  -- Both are computed from what was read, so they are the same.
  have heq := h.eq
  rw [← hread, hfound.eq] at heq
  exact heq ▸ hfound

/-! ### The base -/

/-- The configuration before options change it, or why there is none. The fixed
    name counts only if no file was named, and only if it is that of a file. -/
inductive Options.Base (decoder : Decoder ε) (options : Options) (files : FileTree) :
    Except (RunError ε) Config → Prop
  | named (path : Text) (result : Except (RunError ε) Config) : options.config = some path →
    Loads decoder files path result → Base decoder options files result
  | found (result : Except (RunError ε) Config) : options.config = none →
    files.HasFile localConfig → Loads decoder files localConfig result →
    Base decoder options files result
  | absent : options.config = none → ¬ files.HasFile localConfig →
    Base decoder options files (.ok {})

/-- The base is what is computed. -/
theorem Options.Base.perform_eq {result : Except (RunError ε) Config}
    (h : options.Base decoder world.files result) :
    (options.baseConfig decoder).perform standardInput world = (result, world) := by
  unfold Options.baseConfig
  cases h with
  | named path result hconfig hloads =>
      rw [hconfig]
      exact congrArg (·, world) hloads.eq
  | found result hconfig hfile hloads =>
      rw [hconfig]
      simp only [Script.perform, FileTree.isFile_iff.mpr hfile, if_true]
      exact congrArg (·, world) hloads.eq
  | absent hconfig hfile =>
      rw [hconfig]
      simp only [Script.perform, mt FileTree.isFile_iff.mp hfile]
      rfl

theorem Options.exists_base (decoder : Decoder ε) (options : Options) (files : FileTree) :
    ∃ result, options.Base decoder files result := by
  cases hconfig : options.config with
  | some path =>
      rcases exists_loads decoder files path with ⟨result, hloads⟩
      exact ⟨result, .named path result hconfig hloads⟩
  | none =>
      by_cases hfile : files.HasFile localConfig
      · rcases exists_loads decoder files localConfig with ⟨result, hloads⟩
        exact ⟨result, .found result hconfig hfile hloads⟩
      · exact ⟨.ok {}, .absent hconfig hfile⟩

/-- The base is that of the named file, as long as reading it brings the same. -/
theorem Options.Base.of_read_eq {path : Text} {result : Except (RunError ε) Config}
    {other : FileTree} (hconfig : options.config = some path)
    (hread : other.read path = files.read path) (h : options.Base decoder files result) :
    options.Base decoder other result := by
  cases h with
  | named named result hnamed hloads =>
      obtain rfl : path = named := Option.some.inj (hconfig.symm.trans hnamed)
      exact .named path result hconfig (hloads.of_read_eq hread)
  | found result hnone => exact absurd (hconfig.symm.trans hnone) (Option.some_ne_none _)
  | absent hnone => exact absurd (hconfig.symm.trans hnone) (Option.some_ne_none _)

/-! ### Options on top -/

/-- The configuration has the style and the bullet that were asked for. Whatever
    was not asked for is as in the base. -/
structure Options.Changes (options : Options) (base config : Config) : Prop where
  style : options.headingStyle = none → config.headings.style = base.headings.style
  style_name : ∀ name, options.headingStyle = some name →
    (Choice.name config.headings.style).toList = name
  bullet : config.lists.bullet = options.listBullet.getD base.lists.bullet
  others : config =
    { base with
      headings := { base.headings with style := config.headings.style }
      lists := { base.lists with bullet := config.lists.bullet } }

/-- Options ask for a style that does not exist, or for some configuration. -/
theorem Options.exists_changes (options : Options) (base : Config) :
    (∃ name, options.headingStyle = some name ∧
        ∀ style : HeadingStyle, (Choice.name style).toList ≠ name) ∨
      ∃ config, options.Changes base config := by
  -- The configuration asked for, if it is known which style that is.
  let config (style : HeadingStyle) : Config :=
    { base with
      headings := { base.headings with style := style }
      lists := { base.lists with bullet := options.listBullet.getD base.lists.bullet } }
  cases hstyle : options.headingStyle with
  | none =>
      exact .inr ⟨config base.headings.style, fun _ => rfl,
        fun name h => absurd (hstyle.symm.trans h).symm (Option.some_ne_none name), rfl, rfl⟩
  | some name =>
      by_cases hname : ∃ style : HeadingStyle, (Choice.name style).toList = name
      · rcases hname with ⟨style, hname⟩
        refine .inr ⟨config style, fun h => absurd (hstyle.symm.trans h) (Option.some_ne_none _),
          fun other h => ?_, rfl, rfl⟩
        exact hname.trans (Option.some.inj (hstyle.symm.trans h))
      · exact .inl ⟨name, rfl, not_exists.mp hname⟩

theorem applyTo_of_unknown {name : Text} (hname : options.headingStyle = some name)
    (hunknown : ∀ style : HeadingStyle, (Choice.name style).toList ≠ name) (base : Config) :
    options.applyTo (ε := ε) base = .error (.unsupported
      (.unknownName (Choice.option HeadingStyle) (Choice.names HeadingStyle) name)) := by
  have hnone := HeadingStyle.ofName?_eq_none_iff.mpr hunknown
  rw [Options.applyTo, hname]
  simp only [Choice.ofName, hnone]
  rfl

/-- What was asked for is put to the test. -/
theorem Options.Changes.applyTo_eq {base config : Config} (h : options.Changes base config) :
    options.applyTo (ε := ε) base =
      match config.validate with
      | .error cause => .error (.unsupported cause)
      | .ok () => .ok config := by
  -- What is put together from the base is the configuration that was asked for.
  have hbullet : { base with
        headings := { base.headings with style := config.headings.style }
        lists := { base.lists with bullet := options.listBullet.getD base.lists.bullet } } =
      config := by
    rw [← h.bullet]
    exact h.others.symm
  rw [Options.applyTo]
  cases hstyle : options.headingStyle with
  | none =>
      rw [h.style hstyle] at hbullet
      cases hgiven : options.listBullet <;> rw [hgiven] at hbullet <;> rw [← hbullet] <;> rfl
  | some name =>
      have hname := HeadingStyle.ofName_name config.headings.style
      rw [h.style_name name hstyle] at hname
      simp only [hname]
      cases hgiven : options.listBullet <;> rw [hgiven] at hbullet <;> rw [← hbullet] <;> rfl

/-- The configuration of a run, or why there is none. -/
inductive Options.Resolves (decoder : Decoder ε) (options : Options) (files : FileTree) :
    Except (RunError ε) Config → Prop
  /-- There is no base. -/
  | base (cause : RunError ε) : options.Base decoder files (.error cause) →
    Resolves decoder options files (.error cause)
  /-- There is no style of the name that was asked for. -/
  | style (base : Config) (name : Text) : options.Base decoder files (.ok base) →
    options.headingStyle = some name →
    (∀ style : HeadingStyle, (Choice.name style).toList ≠ name) →
    Resolves decoder options files (.error (.unsupported
      (.unknownName (Choice.option HeadingStyle) (Choice.names HeadingStyle) name)))
  /-- The outcome is not valid. -/
  | invalid (base config : Config) (cause : Unsupported) :
    options.Base decoder files (.ok base) → options.Changes base config →
    config.validate = .error cause → Resolves decoder options files (.error (.unsupported cause))
  /-- The outcome is valid. -/
  | valid (base config : Config) : options.Base decoder files (.ok base) →
    options.Changes base config → config.validate = .ok () →
    Resolves decoder options files (.ok config)

/-- The configuration is what is computed. -/
theorem Options.Resolves.perform_eq {result : Except (RunError ε) Config}
    (h : options.Resolves decoder world.files result) :
    (options.loadConfig decoder).perform standardInput world = (result, world) := by
  rw [Options.loadConfig, Script.perform_andThen]
  cases h with
  | base cause hbase =>
      rw [hbase.perform_eq]
      rfl
  | style base name hbase hname hunknown =>
      rw [hbase.perform_eq]
      exact congrArg (·, world) (applyTo_of_unknown hname hunknown base)
  | invalid base config cause hbase hchanges hvalid =>
      rw [hbase.perform_eq]
      refine congrArg (·, world) (hchanges.applyTo_eq.trans ?_)
      rw [hvalid]
  | valid base config hbase hchanges hvalid =>
      rw [hbase.perform_eq]
      refine congrArg (·, world) (hchanges.applyTo_eq.trans ?_)
      rw [hvalid]

theorem Options.exists_resolves (decoder : Decoder ε) (options : Options) (files : FileTree) :
    ∃ result, options.Resolves decoder files result := by
  rcases options.exists_base decoder files with ⟨cause | base, hbase⟩
  · exact ⟨_, .base cause hbase⟩
  · rcases options.exists_changes base with ⟨name, hname, hunknown⟩ | ⟨config, hchanges⟩
    · exact ⟨_, .style base name hbase hname hunknown⟩
    · cases hvalid : config.validate with
      | error cause => exact ⟨_, .invalid base config cause hbase hchanges hvalid⟩
      | ok => exact ⟨_, .valid base config hbase hchanges hvalid⟩

/-- Settling the configuration changes nothing, and brings what is related. -/
theorem perform_loadConfig_iff {result : Except (RunError ε) Config} :
    (options.loadConfig decoder).perform standardInput world = (result, world) ↔
      options.Resolves decoder world.files result := by
  constructor
  · intro h
    rcases options.exists_resolves decoder world.files with ⟨found, hfound⟩
    have heq : (options.loadConfig decoder).perform standardInput world = (found, world) :=
      hfound.perform_eq
    rw [h] at heq
    obtain rfl := congrArg Prod.fst heq
    exact hfound
  · exact Options.Resolves.perform_eq

theorem Options.Resolves.of_read_eq {path : Text} {result : Except (RunError ε) Config}
    {other : FileTree} (hconfig : options.config = some path)
    (hread : other.read path = files.read path) (h : options.Resolves decoder files result) :
    options.Resolves decoder other result := by
  cases h with
  | base cause hbase => exact .base cause (hbase.of_read_eq hconfig hread)
  | style base name hbase hname hunknown =>
      exact .style base name (hbase.of_read_eq hconfig hread) hname hunknown
  | invalid base config cause hbase hchanges hvalid =>
      exact .invalid base config cause (hbase.of_read_eq hconfig hread) hchanges hvalid
  | valid base config hbase hchanges hvalid =>
      exact .valid base config (hbase.of_read_eq hconfig hread) hchanges hvalid

/-! ### What a run does -/

/-- What is done to settle the configuration. The fixed name is not asked for if a
    file was named. -/
inductive Options.Consults (options : Options) (files : FileTree) : List Action → Prop
  | named (path : Text) : options.config = some path → Consults options files [.readFile path]
  | found : options.config = none → files.HasFile localConfig →
    Consults options files [.askFile localConfig, .readFile localConfig]
  | absent : options.config = none → ¬ files.HasFile localConfig →
    Consults options files [.askFile localConfig]

/-- What may be done to read the input: it comes from the file that was named, or
    from the standard input if none was or a hyphen was. -/
inductive Options.ReadsInput (options : Options) : Action → Prop
  | file (path : Text) : options.input = some path → pathParts path ≠ [['-']] →
    ReadsInput options (.readFile path)
  | standard : (∀ path, options.input = some path → pathParts path = [['-']]) →
    ReadsInput options .readInput

/-- What may be done to write the output. -/
inductive Options.WritesOutput (options : Options) : Action → Prop
  | file (path : Text) : options.output = some path → WritesOutput options (.writeFile path)
  | standard : options.output = none → WritesOutput options .print

theorem consults_loadConfig (decoder : Decoder ε) (options : Options)
    (standardInput : Except SystemError ByteArray) (world : World) :
    options.Consults world.files ((options.loadConfig decoder).actions standardInput world) := by
  -- To apply the options takes no actions.
  have happly (result : Except (RunError ε) Config) :
      (Script.follow (fun config => .finish (options.applyTo config)) result).actions
        standardInput world = [] := by
    cases result <;> rfl
  rw [Options.loadConfig, Script.actions_andThen]
  rcases options.exists_base decoder world.files with ⟨result, hbase⟩
  rw [hbase.perform_eq, happly, List.append_nil, Options.baseConfig]
  cases hconfig : options.config with
  | some path => exact .named path hconfig
  | none =>
      by_cases hfile : world.files.HasFile localConfig
      · simp only [Script.actions, FileTree.isFile_iff.mpr hfile, if_true]
        exact .found hconfig hfile
      · simp only [Script.actions, mt FileTree.isFile_iff.mp hfile]
        exact .absent hconfig hfile

theorem isStandardInput_iff {path : Text} :
    isStandardInput path = true ↔ pathParts path = [['-']] :=
  beq_iff_eq

theorem uses_readInput (ε : Type) (options : Options) :
    (options.readInput (ε := ε)).Uses options.ReadsInput := by
  rw [Options.readInput]
  split
  · next path hpath =>
      rw [Option.filter_eq_some_iff] at hpath
      refine ⟨.file path hpath.1 fun hhyphen => ?_, fun _ => trivial⟩
      rw [isStandardInput_iff.mpr hhyphen] at hpath
      exact absurd hpath.2 (by decide)
  · next hnone =>
      refine ⟨.standard fun path hpath => ?_, fun _ => trivial⟩
      rw [hpath, Option.filter_eq_none_iff] at hnone
      exact isStandardInput_iff.mp (by simpa using hnone path rfl)

theorem uses_writeOutput (ε : Type) (options : Options) (text : Text) :
    (options.writeOutput (ε := ε) text).Uses options.WritesOutput := by
  rw [Options.writeOutput]
  split
  · next hnone => exact ⟨.standard hnone, trivial⟩
  · next path hpath =>
      refine ⟨.file path hpath, fun written => ?_⟩
      cases written <;> trivial

/-- The configuration of a run is settled by the sources that count, in the order in
    which they count, and it is valid. If a file was named, the file of the fixed
    name does not matter and nobody asks for it. If there is no configuration, the
    run fails with the first thing that is wrong, and it has done nothing else: it
    has not asked for its input, whatever that would have been. If there is one, the
    run reads its input and writes its output afterwards. -/
theorem run_resolves_config (decoder : Decoder ε) (options : Options)
    (standardInput : Except SystemError ByteArray) (world : World) :
    (∀ result, (options.loadConfig decoder).perform standardInput world = (result, world) ↔
        options.Resolves decoder world.files result) ∧
      (∀ config, options.Resolves decoder world.files (.ok config) → config.validate = .ok ()) ∧
      (∀ path files, options.config = some path → files.read path = world.files.read path →
        ∀ result, options.Resolves decoder files result ↔
          options.Resolves decoder world.files result) ∧
      options.Consults world.files ((options.loadConfig decoder).actions standardInput world) ∧
      (∀ cause, options.Resolves decoder world.files (.error cause) →
        run decoder options standardInput world = (.error cause, world) ∧
          (options.script decoder).actions standardInput world =
            (options.loadConfig decoder).actions standardInput world) ∧
      ∀ config, options.Resolves decoder world.files (.ok config) →
        ∃ more, (options.script decoder).actions standardInput world =
            (options.loadConfig decoder).actions standardInput world ++ more ∧
          ∀ action ∈ more, options.ReadsInput action ∨ options.WritesOutput action := by
  refine ⟨fun result => perform_loadConfig_iff, fun config h => ?_, ?_,
    consults_loadConfig decoder options standardInput world, fun cause h => ⟨?_, ?_⟩,
    fun config h => ?_⟩
  · cases h with
    | valid _ _ _ _ hvalid => exact hvalid
  · intro path files hconfig hread result
    exact ⟨fun h => h.of_read_eq hconfig hread.symm, fun h => h.of_read_eq hconfig hread⟩
  · rw [run, Options.script, Script.perform_andThen, h.perform_eq]
    rfl
  · rw [Options.script, Script.actions_andThen, h.perform_eq]
    exact List.append_nil _
  · rw [Options.script, Script.actions_andThen, h.perform_eq]
    refine ⟨_, rfl, fun action hmem => ?_⟩
    have huses := Script.Uses.andThen
      ((uses_readInput ε options).mono fun action => Or.inl (b := options.WritesOutput action))
      fun markdown => (uses_writeOutput ε options (outputText config markdown)).mono
        fun action => Or.inr (a := options.ReadsInput action)
    exact huses.of_mem_actions hmem

/-- Nothing is right here but the bullet that is asked for, and it does not mend the
    file that lacks one. That counts first. -/
theorem run_resolves_config_first_fault :
    let options : Options :=
      { input := some "missing".toList, config := some "/etc/a.toml".toList,
        headingStyle := some "huge".toList, listBullet := some ['-'] }
    let files : FileTree :=
      { entries :=
          [(["etc".toList], .directory), (["home".toList], .directory),
            (["etc".toList, "a.toml".toList],
              .file (encodeText "[lists]\nbullet = \"\"\n".toList)),
            (["home".toList, localConfig], .file (encodeText "[".toList))]
        here := ["home".toList] }
    run Config.decoder options (.error (.other "Input/output error" 5)) ⟨[], files⟩ =
        (.error (.unsupported (.emptyText .listBullet)), ⟨[], files⟩) ∧
      (options.script Config.decoder).actions (.error (.other "Input/output error" 5))
        ⟨[], files⟩ = [.readFile "/etc/a.toml".toList] := by
  intro options files
  have hleads : files.Leads "/etc/a.toml".toList ["etc".toList, "a.toml".toList] := by
    have hnames : Text.splitOn '/' "/etc/a.toml".toList =
        [[], "etc".toList, "a.toml".toList] := by decide
    rw [FileTree.Leads, FileTree.resolve, hnames]
    simp only [FileTree.start, FileTree.walk]
    rfl
  have hholds : files.Holds "/etc/a.toml".toList
      (encodeText "[lists]\nbullet = \"\"\n".toList) := ⟨_, hleads, rfl, rfl⟩
  have htoml : Config.fromToml Config.decoder "[lists]\nbullet = \"\"\n".toList =
      .ok { lists := { bullet := [] } } := by
    let lists : Config.Group := ⟨.lists, [.bullet], by decide, by decide⟩
    let config : Config := { lists := { bullet := [] } }
    have hlength : config.rules.length < 2 ^ 63 := by decide
    have hread := Config.fromToml_document_eq Config.decoder_readsToml Config.decoder_fillsRecords
      ⟨.short, fun _ => [], fun _ => []⟩ hlength ⟨[lists], by decide⟩
    exact Eq.trans (congrArg _ (by decide)) hread
  have hresolves : options.Resolves Config.decoder files
      (.error (.unsupported (.emptyText .listBullet))) :=
    .base _ (.named _ _ rfl (.invalid _ _ _ hholds htoml rfl))
  have hlaw := run_resolves_config Config.decoder options
    (.error (.other "Input/output error" 5)) ⟨[], files⟩
  rcases hlaw with ⟨-, -, -, hconsults, hfails, -⟩
  rcases hfails _ hresolves with ⟨hrun, hactions⟩
  refine ⟨hrun, hactions.trans ?_⟩
  generalize (options.loadConfig Config.decoder).actions _ _ = actions at hconsults
  cases hconsults with
  | named path hpath => rw [← Option.some.inj hpath]
  | found hnone => exact absurd hnone (by simp [options])
  | absent hnone => exact absurd hnone (by simp [options])

end CommandLine

end ChatMarkup
