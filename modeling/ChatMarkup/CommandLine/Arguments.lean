import ChatMarkup.Text.Basic

/-!
# Arguments

What the words of a command line ask for.

The words are read from left to right, and the first thing that is wrong or
that ends the reading decides. An option takes its value from the same word or
from the next one, unless the next one looks like an option itself. Short
options can share a word until one of them takes a value. After two hyphens
alone, every word is an input, and there can be only one.

No option may be given twice. Paths must not be empty, while the other values
may be; whether they are of use is decided later.

This is one way to come by options. What is proved of runs is proved for any
options, whoever has read them from what words.

## Main definitions

* `Setting`: The options that take a value.
* `Options`: What was asked for.
* `Stop`: Why nothing will be converted.
* `Options.ofWords`: The options that the words give.
-/

namespace ChatMarkup.CommandLine

/-- The options that take a value. -/
inductive Setting
  | output
  | config
  | headingStyle
  | listBullet
  deriving DecidableEq, Repr

/-- What was asked for. -/
structure Options where
  /-- The file to read. -/
  input : Option Text := none
  /-- The file to write. -/
  output : Option Text := none
  /-- The configuration to use. -/
  config : Option Text := none
  /-- The name of a style for headings. -/
  headingStyle : Option Text := none
  /-- A bullet for list items. -/
  listBullet : Option Text := none
  /-- Whether to tell what is done. -/
  verbose : Bool := false
  deriving DecidableEq, Repr

/-- What is wrong with the words. -/
inductive UsageError
  /-- There is no such option. -/
  | unknown (word : Text)
  /-- An option is given twice. -/
  | repeated
  /-- An option lacks its value. -/
  | missingValue
  /-- An option that takes no value is given one. -/
  | needlessValue
  /-- A path is empty. -/
  | emptyPath
  /-- There is a second input. -/
  | secondInput (word : Text)
  deriving DecidableEq, Repr

/-- What is said about the words. -/
def UsageError.message : UsageError → String
  | unknown word => "unexpected argument '" ++ String.ofList word ++ "' found"
  | repeated => "an argument cannot be used multiple times"
  | missingValue => "a value is required for an argument but none was supplied"
  | needlessValue => "a value was supplied for an argument that takes none"
  | emptyPath => "a path must not be empty"
  | secondInput word => "unexpected argument '" ++ String.ofList word ++ "' found"

/-- Why nothing will be converted. -/
inductive Stop
  | usage (problem : UsageError)
  | help
  | version
  deriving DecidableEq, Repr

namespace Options

/-- The value that an option was given. -/
def value? (options : Options) : Setting → Option Text
  | .output => options.output
  | .config => options.config
  | .headingStyle => options.headingStyle
  | .listBullet => options.listBullet

/-- Whether the value of an option is a path. -/
def isPath : Setting → Bool
  | .output => true
  | .config => true
  | .headingStyle => false
  | .listBullet => false

/-- The options after one more has been given its value. -/
def give (options : Options) (setting : Setting) (value : Text) : Except Stop Options :=
  if (options.value? setting).isSome then .error (.usage .repeated)
  else if isPath setting && value.isEmpty then .error (.usage .emptyPath)
  else .ok <| match setting with
    | .output => { options with output := some value }
    | .config => { options with config := some value }
    | .headingStyle => { options with headingStyle := some value }
    | .listBullet => { options with listBullet := some value }

/-- The options after it was asked to tell what is done. -/
def tell (options : Options) : Except Stop Options :=
  if options.verbose then .error (.usage .repeated) else .ok { options with verbose := true }

/-- The options after an input has been named. -/
def takeInput (options : Options) (word : Text) : Except Stop Options :=
  if options.input.isSome then .error (.usage (.secondInput word))
  else if word.isEmpty then .error (.usage .emptyPath)
  else .ok { options with input := some word }

/-- The options after the letters of a word, and the option among them that
    waits for the next word. An option that takes a value takes the rest of the
    word, without an equals sign in front of it. -/
def takeLetters (word : Text) (options : Options) :
    Text → Except Stop (Options × Option Setting)
  | [] => .ok (options, none)
  | letter :: rest =>
    let giveRest (setting : Setting) : Except Stop (Options × Option Setting) :=
      if rest.isEmpty then .ok (options, some setting)
      else (options.give setting (Text.dropFirstIf '=' rest)).map fun options => (options, none)
    if letter = 'o' then giveRest .output
    else if letter = 'c' then giveRest .config
    else if letter = 'v' then
      match options.tell with
      | .ok options => takeLetters word options rest
      | .error stop => .error stop
    else if letter = 'h' then .error .help
    else if letter = 'V' then .error .version
    else .error (.usage (.unknown word))

/-- The option of the given long name that takes a value. -/
def settingNamed? (name : Text) : Option Setting :=
  [("output", Setting.output), ("config", .config), ("heading-style", .headingStyle),
    ("list-bullet", .listBullet)].findSome? fun (known, setting) =>
      if known.toList = name then some setting else none

/-- The options after a long option, and that option if it waits for the next
    word. The value, if there is one in the word, stands behind an equals
    sign. -/
def takeLong (options : Options) (name : Text) (value : Option Text) :
    Except Stop (Options × Option Setting) :=
  match settingNamed? name with
  | some setting =>
    match value with
    | some value => (options.give setting value).map fun options => (options, none)
    | none => .ok (options, some setting)
  | none =>
    let alone (result : Except Stop Options) : Except Stop (Options × Option Setting) :=
      if value.isSome then .error (.usage .needlessValue)
      else result.map fun options => (options, none)
    if name = "verbose".toList then alone options.tell
    else if name = "help".toList then alone (.error .help)
    else if name = "version".toList then alone (.error .version)
    else .error (.usage (.unknown name))

/-- The options after a word, and the option that waits for the next word. -/
def takeWord (options : Options) (word : Text) : Except Stop (Options × Option Setting) :=
  match word with
  | '-' :: '-' :: long =>
    match long.dropWhile fun c => c != '=' with
    | [] => options.takeLong long none
    | _ :: value => options.takeLong (long.takeWhile fun c => c != '=') (some value)
  | '-' :: letter :: rest => takeLetters word options (letter :: rest)
  -- A hyphen alone is an input too.
  | _ => (options.takeInput word).map fun options => (options, none)

/-- Whether a word can be the value of the option before it. -/
def canBeValue (word : Text) : Bool :=
  word == ['-'] || word.head? != some '-'

/-- The options after words that are inputs. -/
def takeInputs (options : Options) : List Text → Except Stop Options
  | [] => .ok options
  | word :: rest =>
    match options.takeInput word with
    | .ok options => takeInputs options rest
    | .error stop => .error stop

/-- The options after all words. -/
def takeWords (options : Options) : List Text → Except Stop Options
  | [] => .ok options
  | word :: rest =>
    if word = ['-', '-'] then options.takeInputs rest
    else
      match options.takeWord word with
      | .error stop => .error stop
      | .ok (options, none) => takeWords options rest
      | .ok (options, some setting) =>
        match rest with
        | [] => .error (.usage .missingValue)
        | value :: rest =>
          if canBeValue value then
            match options.give setting value with
            | .ok options => takeWords options rest
            | .error stop => .error stop
          else .error (.usage .missingValue)

/-- The options that the words give. -/
def ofWords (words : List Text) : Except Stop Options :=
  takeWords {} words

end Options

end ChatMarkup.CommandLine
