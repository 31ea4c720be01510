import ChatMarkup.Proofs.Resolution

/-!
# All or Nothing

A run does what it is for, or it does nothing at all.

What a run is to do is said here without following it. The configuration is the
one that the sources of configurations settle. The input comes from the file that
was named, or from the standard input; if it can be read and encodes a text, that
text is converted. The outcome belongs into the file that was named for it, which
is possible if there can be a file at that place. All of this is about the files
as they are in front of the run, even if one of them will be overwritten, under
this name or another one.

That a run which fails leaves everything as it was does not depend on any of
this. Its script changes the world last, and this is enough.

## Main definitions

* `Options.Input`: What reading the input brings, as bytes.
* `Options.Receives`: The text that is converted, or why there is none.
* `Options.Produces`: The text that a run makes.
* `Options.Delivers`: The world after a run, with the text where it belongs.
* `Options.Fails`: What keeps a run from succeeding.

## Theorems

* `changesLast_script`: Every run changes the world last.
* `Options.Receives.perform_eq`: The text is what is computed.
* `Options.Fails.run_eq`: Whatever keeps a run from succeeding is reported.
* `exists_of_run_eq_ok`: A run that succeeds has delivered its text.
* `run_all_or_nothing`: The law of runs.
-/

namespace ChatMarkup.CommandLine

variable {ε : Type} {decoder : Decoder ε} {options : Options} {files : FileTree}
  {standardInput : Except SystemError ByteArray} {world : World}

/-! ### The input -/

/-- What reading the input brings, and what the input is called in messages. It
    comes from the file that was named. If none was, or if a hyphen stands in its
    place, it comes from the standard input. -/
inductive Options.Input (options : Options) (standardInput : Except SystemError ByteArray)
    (files : FileTree) : Text → Except SystemError ByteArray → Prop
  | file (path : Text) : options.input = some path → pathParts path ≠ [['-']] →
    Input options standardInput files path (files.read path)
  | standard : (∀ path, options.input = some path → pathParts path = [['-']]) →
    Input options standardInput files inputName standardInput

/-- The text that is converted, or why there is none. -/
inductive Options.Receives (ε : Type) (options : Options)
    (standardInput : Except SystemError ByteArray) (files : FileTree) :
    Except (RunError ε) Text → Prop
  /-- The input cannot be read. -/
  | unreadable (name : Text) (cause : SystemError) :
    options.Input standardInput files name (.error cause) →
    Receives ε options standardInput files (.error (.unreadableInput name cause))
  /-- It encodes no text. -/
  | notText (name : Text) (content : ByteArray) :
    options.Input standardInput files name (.ok content) → (∀ s, encodeText s ≠ content) →
    Receives ε options standardInput files (.error (.unreadableInput name .notText))
  /-- It encodes a text. -/
  | text (name markdown : Text) :
    options.Input standardInput files name (.ok (encodeText markdown)) →
    Receives ε options standardInput files (.ok markdown)

theorem Options.Input.perform_eq {name : Text} {found : Except SystemError ByteArray}
    (h : options.Input standardInput world.files name found) :
    (options.readInput (ε := ε)).perform standardInput world = (markdownOf name found, world) := by
  rw [Options.readInput]
  cases h with
  | file path hinput hpath =>
      have hfile : isStandardInput name = false :=
        Bool.eq_false_iff.mpr (mt isStandardInput_iff.mp hpath)
      simp only [hinput, Option.filter_some, hfile]
      rfl
  | standard hinput =>
      cases hnamed : options.input with
      | none => rfl
      | some path =>
          have hhyphen := isStandardInput_iff.mpr (hinput path hnamed)
          simp only [Option.filter_some, hhyphen]
          rfl

/-- The text is what is computed. -/
theorem Options.Receives.perform_eq {result : Except (RunError ε) Text}
    (h : options.Receives ε standardInput world.files result) :
    options.readInput.perform standardInput world = (result, world) := by
  cases h with
  | unreadable name cause hinput => exact hinput.perform_eq
  | notText name content hinput hother =>
      rw [hinput.perform_eq, markdownOf, textOf_of_forall_ne hother]
  | text name markdown hinput =>
      rw [hinput.perform_eq, markdownOf, textOf_encodeText]

theorem Options.exists_receives (ε : Type) (options : Options)
    (standardInput : Except SystemError ByteArray) (files : FileTree) :
    ∃ result, options.Receives ε standardInput files result := by
  have hinput : ∃ name found, options.Input standardInput files name found := by
    by_cases hstandard : ∀ path, options.input = some path → pathParts path = [['-']]
    · exact ⟨_, _, .standard hstandard⟩
    · simp only [not_forall] at hstandard
      rcases hstandard with ⟨path, hnamed, hpath⟩
      exact ⟨_, _, .file path hnamed hpath⟩
  rcases hinput with ⟨name, cause | content, hinput⟩
  · exact ⟨_, .unreadable name cause hinput⟩
  · by_cases htext : ∃ s, encodeText s = content
    · rcases htext with ⟨s, rfl⟩
      exact ⟨_, .text name s hinput⟩
    · exact ⟨_, .notText name content hinput (not_exists.mp htext)⟩

/-! ### The output -/

/-- The text is what the run is to write: under the configuration of the run, the
    message that the input makes, and a line feed behind it unless it is empty. -/
def Options.Produces (decoder : Decoder ε) (options : Options)
    (standardInput : Except SystemError ByteArray) (files : FileTree) (text : Text) : Prop :=
  ∃ config markdown, options.Resolves decoder files (.ok config) ∧
    options.Receives ε standardInput files (.ok markdown) ∧
    text = if convert config markdown = [] then [] else convert config markdown ++ ['\n']

/-- The text is where it belongs, and nothing else has changed. -/
inductive Options.Delivers (options : Options) (text : Text) (world after : World) : Prop
  /-- It has been printed, and no file has changed. -/
  | printed : options.output = none → after.printed = world.printed ++ text →
    after.files = world.files → Delivers options text world after
  /-- It is in the file that was named, and nothing has been printed. -/
  | written (path : Text) (place : Place) : options.output = some path →
    world.files.Writable path place → after.files.Leads path place →
    after.files.find? place = some (.file (encodeText text)) →
    FileTree.SameBut place world.files after.files → after.printed = world.printed →
    Delivers options text world after

/-- What keeps the run from succeeding: its configuration, its input, or, if the
    text has been made, that there can be no file of the name given for it. -/
inductive Options.Fails (decoder : Decoder ε) (options : Options)
    (standardInput : Except SystemError ByteArray) (files : FileTree) : RunError ε → Prop
  | config (cause : RunError ε) : options.Resolves decoder files (.error cause) →
    Fails decoder options standardInput files cause
  | input (config : Config) (cause : RunError ε) : options.Resolves decoder files (.ok config) →
    options.Receives ε standardInput files (.error cause) →
    Fails decoder options standardInput files cause
  | output (text path : Text) (cause : SystemError) :
    options.Produces decoder standardInput files text → options.output = some path →
    (∀ place, ¬ files.Writable path place) →
    files.write path (encodeText text) = .error cause →
    Fails decoder options standardInput files (.unwritableOutput path cause)

theorem outputText_eq (config : Config) (markdown : Text) :
    outputText config markdown =
      if convert config markdown = [] then [] else convert config markdown ++ ['\n'] := by
  rw [outputText]
  simp only [List.isEmpty_iff]

/-- Once the text is there, what is left of the run is to write it. -/
theorem Options.Produces.run_eq {text : Text}
    (h : options.Produces decoder standardInput world.files text) :
    run decoder options standardInput world =
      (options.writeOutput text).perform standardInput world := by
  rcases h with ⟨config, markdown, hconfig, hmarkdown, rfl⟩
  rw [run, Options.script, Script.perform_andThen, hconfig.perform_eq, Script.follow,
    Script.perform_andThen, hmarkdown.perform_eq, Script.follow, outputText_eq]

/-- Whatever keeps a run from succeeding is reported. -/
theorem Options.Fails.run_eq {cause : RunError ε}
    (h : options.Fails decoder standardInput world.files cause) :
    run decoder options standardInput world = (.error cause, world) := by
  cases h with
  | config cause hconfig =>
      rw [run, Options.script, Script.perform_andThen, hconfig.perform_eq]
      rfl
  | input config cause hconfig hmarkdown =>
      rw [run, Options.script, Script.perform_andThen, hconfig.perform_eq, Script.follow,
        Script.perform_andThen, hmarkdown.perform_eq]
      rfl
  | output text path cause hproduces hpath hplace hwrite =>
      rw [hproduces.run_eq, Options.writeOutput, hpath]
      simp only [Script.perform, hwrite]

/-- The text is delivered unless there can be no file of the name given for it. -/
theorem ends_writeOutput {text : Text}
    (h : options.Produces decoder standardInput world.files text) :
    (∃ after, run decoder options standardInput world = (.ok (), after) ∧
        options.Delivers text world after) ∨
      ∃ cause, options.Fails decoder standardInput world.files cause := by
  rw [h.run_eq, Options.writeOutput]
  cases hpath : options.output with
  | none => exact .inl ⟨_, rfl, .printed hpath rfl rfl⟩
  | some path =>
      simp only [Script.perform]
      cases hwrite : world.files.write path (encodeText text) with
      | ok after =>
          rcases FileTree.write_eq_ok_iff.mp hwrite with ⟨place, hwritable, rfl⟩
          rcases hwritable.set (encodeText text) with ⟨hleads, hfind, hsame⟩
          exact .inl ⟨_, rfl, .written path place hpath hwritable hleads hfind hsame rfl⟩
      | error cause =>
          refine .inr ⟨_, .output text path cause h hpath (fun place hwritable => ?_) hwrite⟩
          have hwritten : world.files.write path (encodeText text) =
              .ok (world.files.set place (.file (encodeText text))) :=
            FileTree.write_eq_ok_iff.mpr ⟨place, hwritable, rfl⟩
          exact absurd (hwrite.symm.trans hwritten) (by simp)

/-- A run delivers its text, or there is something that keeps it from that. -/
theorem delivers_or_fails (decoder : Decoder ε) (options : Options)
    (standardInput : Except SystemError ByteArray) (world : World) :
    (∃ after text, run decoder options standardInput world = (.ok (), after) ∧
        options.Produces decoder standardInput world.files text ∧
        options.Delivers text world after) ∨
      ∃ cause, options.Fails decoder standardInput world.files cause := by
  rcases options.exists_resolves decoder world.files with ⟨cause | config, hconfig⟩
  · exact .inr ⟨cause, .config cause hconfig⟩
  · rcases options.exists_receives ε standardInput world.files with ⟨cause | markdown, hmarkdown⟩
    · exact .inr ⟨cause, .input config cause hconfig hmarkdown⟩
    · have hproduces : options.Produces decoder standardInput world.files _ :=
        ⟨config, markdown, hconfig, hmarkdown, rfl⟩
      rcases ends_writeOutput hproduces with ⟨after, hrun, hdelivers⟩ | hfails
      · exact .inl ⟨after, _, hrun, hproduces, hdelivers⟩
      · exact .inr hfails

/-! ### Changes come last -/

/-- To settle the configuration changes nothing. -/
theorem uses_loadConfig (decoder : Decoder ε) (options : Options) :
    (options.loadConfig decoder).Uses fun action => ¬ action.Changes := by
  have hread (path : Text) : (readConfig decoder path).Uses fun action => ¬ action.Changes :=
    ⟨not_false, fun _ => trivial⟩
  refine .andThen ?_ fun _ => trivial
  rw [Options.baseConfig]
  split
  · exact hread _
  · refine ⟨not_false, fun found => ?_⟩
    cases found with
    | false => trivial
    | true => exact hread localConfig

theorem changesLast_writeOutput (options : Options) (text : Text) :
    (options.writeOutput (ε := ε) text).ChangesLast := by
  rw [Options.writeOutput]
  split
  · exact .print text ()
  · exact .writeFile _ _ _ () rfl fun cause => ⟨_, rfl⟩

/-- Every run changes the world last. -/
theorem changesLast_script (decoder : Decoder ε) (options : Options) :
    (options.script decoder).ChangesLast := by
  have hinput : (options.readInput (ε := ε)).Uses fun action => ¬ action.Changes :=
    (uses_readInput ε options).mono fun action hreads => by cases hreads <;> exact not_false
  exact .andThen (uses_loadConfig decoder options) fun config =>
    .andThen hinput fun markdown => changesLast_writeOutput options _

/-- A run does all or nothing. If it succeeds, the text that its input makes,
    under its configuration, both taken from the files as they were, is in the file
    that was named and everything else is as before. If no file was named, the text
    has been printed and no file has changed. If the run fails, the world is as it
    was, and it fails exactly for the reasons that there are. -/
theorem run_all_or_nothing (decoder : Decoder ε) (options : Options)
    (standardInput : Except SystemError ByteArray) (world : World) :
    (∀ after, run decoder options standardInput world = (.ok (), after) →
        ∃ text, options.Produces decoder standardInput world.files text ∧
          options.Delivers text world after) ∧
      ∀ cause after, run decoder options standardInput world = (.error cause, after) ↔
        after = world ∧ options.Fails decoder standardInput world.files cause := by
  have hends := delivers_or_fails decoder options standardInput world
  refine ⟨fun after hrun => ?_, fun cause after => ⟨fun hrun => ⟨?_, ?_⟩, ?_⟩⟩
  · rcases hends with ⟨found, text, hfound, hproduces, hdelivers⟩ | ⟨cause, hfails⟩
    · obtain rfl : found = after := congrArg Prod.snd (hfound.symm.trans hrun)
      exact ⟨text, hproduces, hdelivers⟩
    · exact absurd (hfails.run_eq.symm.trans hrun) (by simp)
  · exact (changesLast_script decoder options).unchanged hrun
  · rcases hends with ⟨found, text, hfound, -⟩ | ⟨found, hfails⟩
    · exact absurd (hfound.symm.trans hrun) (by simp)
    · -- Two failures of one run are the same.
      have heq := congrArg Prod.fst (hfails.run_eq.symm.trans hrun)
      exact Except.error.inj heq ▸ hfails
  · rintro ⟨rfl, hfails⟩
    exact hfails.run_eq

/-- The file that is written may be the one that is read. -/
example :
    let options : Options := { input := some "/d/a".toList, output := some "../d/a".toList }
    let files : FileTree :=
      { entries := [([['d']], .directory), ([['d'], ['a']], .file (encodeText "**b**".toList))]
        here := [['d']] }
    (run Config.decoder options (.ok .empty) ⟨[], files⟩).2.files.find? [['d'], ['a']] =
      some (.file (encodeText "*b*\n".toList)) := by
  cbv

end ChatMarkup.CommandLine
