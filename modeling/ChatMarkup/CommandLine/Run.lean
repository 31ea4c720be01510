import ChatMarkup.CommandLine.Arguments
import ChatMarkup.CommandLine.Path
import ChatMarkup.CommandLine.Script
import ChatMarkup.Config.Decoder
import ChatMarkup.Document.Convert

/-!
# Runs of the Program

What a run does with the files and with its input and output, given its options.

A run settles its configuration first, then reads its input, and writes at the
very end, when nothing else can fail any more. Each of the three is a script of
its own, and the run is these scripts one behind the other, so it is the same
whether the files are a value or those of the machine.

The configuration comes from the file that was named, or from a file of a
fixed name if there is one, or is the default. It must be valid before options
change it, and valid afterwards. What a file says is left to a decoder, whatever
decoder that may be.

Options are taken as they come. Where they come from is not asked here.

## Main definitions

* `RunError`: Why a run fails.
* `Options.baseConfig`: The configuration before options change it.
* `Options.applyTo`: The configuration after options have changed it.
* `Options.loadConfig`, `Options.readInput`, `Options.writeOutput`: The parts of a run.
* `Options.script`: What a run does.
* `run`: A run on a file tree.
-/

namespace ChatMarkup.CommandLine

variable {ε : Type}

/-- Why a run fails. -/
inductive RunError (ε : Type)
  | unreadableConfig (path : Text) (cause : SystemError)
  | malformedConfig (path : Text) (cause : ε)
  | unsupported (cause : Unsupported)
  | unreadableInput (name : Text) (cause : SystemError)
  | unwritableOutput (path : Text) (cause : SystemError)
  deriving DecidableEq, Repr

/-- What is said about the failure. -/
def RunError.message (decoder : Decoder ε) : RunError ε → String
  | unreadableConfig path cause =>
    "failed to read config " ++ String.ofList path ++ ": " ++ cause.message
  | malformedConfig path cause =>
    "invalid config " ++ String.ofList path ++ ": " ++ decoder.describe cause
  | unsupported cause => cause.message
  | unreadableInput name cause =>
    "failed to read " ++ String.ofList name ++ ": " ++ cause.message
  | unwritableOutput path cause =>
    "failed to write " ++ String.ofList path ++ ": " ++ cause.message

/-- The text that bytes encode. -/
def decodeText (bytes : ByteArray) : Except SystemError Text :=
  match String.fromUTF8? bytes with
  | some s => .ok s.toList
  | none => .error .notText

/-- The bytes that encode a text. -/
def encodeText (s : Text) : ByteArray :=
  (String.ofList s).toUTF8

/-- The text that was read, if bytes were read and they encode one. -/
def textOf (found : Except SystemError ByteArray) : Except SystemError Text :=
  match found with
  | .error cause => .error cause
  | .ok content => decodeText content

/-! ### The configuration -/

/-- The configuration that is used if there is a file of this name. -/
def localConfig : Text := "md2mrkdwn.toml".toList

/-- A valid configuration from what reading its file has brought. -/
def configOf (decoder : Decoder ε) (path : Text) (found : Except SystemError ByteArray) :
    Except (RunError ε) Config :=
  match textOf found with
  | .error cause => .error (.unreadableConfig path cause)
  | .ok s =>
    match Config.fromToml decoder s with
    | .error cause => .error (.malformedConfig path cause)
    | .ok config =>
      match config.validate with
      | .error cause => .error (.unsupported cause)
      | .ok () => .ok config

/-- Reads a configuration from a file. -/
def readConfig (decoder : Decoder ε) (path : Text) : Script (Except (RunError ε) Config) :=
  .readFile path fun found => .finish (configOf decoder path found)

/-- Reads the configuration before options change it. A file that was not named
    need not exist. -/
def Options.baseConfig (decoder : Decoder ε) (options : Options) :
    Script (Except (RunError ε) Config) :=
  match options.config with
  | some path => readConfig decoder path
  | none =>
    .askFile localConfig fun present =>
      if present then readConfig decoder localConfig else .finish (.ok {})

/-- The configuration after options have changed it, if it is valid. -/
def Options.applyTo (options : Options) (config : Config) : Except (RunError ε) Config :=
  let styled : Except Unsupported Config :=
    match options.headingStyle with
    | none => .ok config
    | some name =>
      (Choice.ofName name).map fun style =>
        { config with headings := { config.headings with style := style } }
  match styled with
  | .error cause => .error (.unsupported cause)
  | .ok config =>
    let config :=
      match options.listBullet with
      | none => config
      | some bullet => { config with lists := { config.lists with bullet := bullet } }
    match config.validate with
    | .error cause => .error (.unsupported cause)
    | .ok () => .ok config

/-- Settles the configuration. -/
def Options.loadConfig (decoder : Decoder ε) (options : Options) :
    Script (Except (RunError ε) Config) :=
  (options.baseConfig decoder).andThen fun config => .finish (options.applyTo config)

/-! ### Input and output -/

/-- Whether the path is a hyphen, which stands for the standard input. -/
def isStandardInput (path : Text) : Bool :=
  pathParts path == pathParts ['-']

/-- What the standard input is called in messages. -/
def inputName : Text := "<stdin>".toList

/-- The Markdown text of an input from what reading it has brought. -/
def markdownOf (name : Text) (found : Except SystemError ByteArray) : Except (RunError ε) Text :=
  match textOf found with
  | .error cause => .error (.unreadableInput name cause)
  | .ok s => .ok s

/-- Reads the input, which comes from a file or from the standard input. -/
def Options.readInput (options : Options) : Script (Except (RunError ε) Text) :=
  match options.input.filter fun path => !isStandardInput path with
  | some path => .readFile path fun found => .finish (markdownOf path found)
  | none => .readInput fun found => .finish (markdownOf inputName found)

/-- What is written for a Markdown text. A message that is not empty ends with
    a line feed. -/
def outputText (config : Config) (markdown : Text) : Text :=
  let message := convert config markdown
  if message.isEmpty then [] else message ++ ['\n']

/-- Writes the text to where it belongs. -/
def Options.writeOutput (options : Options) (text : Text) : Script (Except (RunError ε) Unit) :=
  match options.output with
  | none => .print text (.finish (.ok ()))
  | some path =>
    .writeFile path (encodeText text) fun written =>
      match written with
      | .ok () => .finish (.ok ())
      | .error cause => .finish (.error (.unwritableOutput path cause))

/-! ### Runs -/

/-- What a run does. -/
def Options.script (decoder : Decoder ε) (options : Options) : Script (Except (RunError ε) Unit) :=
  (options.loadConfig decoder).andThen fun config =>
    options.readInput.andThen fun markdown => options.writeOutput (outputText config markdown)

/-- A run on a file tree: how it ends, and what the world is like after it. -/
def run (decoder : Decoder ε) (options : Options) (standardInput : Except SystemError ByteArray)
    (world : World) : Except (RunError ε) Unit × World :=
  (options.script decoder).perform standardInput world

end ChatMarkup.CommandLine
