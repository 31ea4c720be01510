import ChatMarkup.CommandLine.Run
import ChatMarkup.Config.OfToml

/-!
# Answers to Command Lines

What comes of the words of a command line.

Here the parts that a run leaves open are chosen: the options are those that
this library reads from the words, and configurations are taken from documents
by its own decoder. Words that ask for help or for the version are answered
without a run.

## Main definitions

* `Answer`: What comes of a command line.
* `answer`: The answer to the words, given a standard input and files.
-/

namespace ChatMarkup.CommandLine

/-- What the program says of itself. -/
def versionText : Text := "md2mrkdwn 0.1.0\n".toList

/-- How the program is used. -/
def helpText : Text :=
  "Convert Markdown to Slack mrkdwn

Usage: md2mrkdwn [OPTIONS] [INPUT]

Arguments:
  [INPUT]  Input Markdown file (reads stdin when absent or `-`)

Options:
  -o, --output <OUTPUT>                Output file (writes stdout when absent)
  -c, --config <CONFIG>                TOML config file (defaults to ./md2mrkdwn.toml if present)
      --heading-style <HEADING_STYLE>  Heading style: bold-only, bold-with-marker, plain or prefix
      --list-bullet <LIST_BULLET>      Bullet used for unordered list items
  -v, --verbose                        Log conversion details to stderr
  -h, --help                           Print help
  -V, --version                        Print version
".toList

/-- The answer to a command line. -/
inductive Answer
  /-- The run has succeeded. -/
  | done (printed : Text) (files : FileTree)
  /-- The run has failed, and the files are as they were. -/
  | failed (cause : RunError ReadError)
  /-- The words make no command line. -/
  | refused (cause : UsageError)

/-- The exit code. -/
def Answer.code : Answer → Nat
  | done _ _ => 0
  | failed _ => 1
  | refused _ => 2

/-- The answer to the words of a command line. -/
def answer (words : List Text) (standardInput : ByteArray) (files : FileTree) : Answer :=
  match Options.ofWords words with
  | .error .help => .done helpText files
  | .error .version => .done versionText files
  | .error (.usage cause) => .refused cause
  | .ok options =>
    match run Config.decoder options (.ok standardInput) ⟨[], files⟩ with
    | (.ok (), world) => .done world.printed world.files
    | (.error cause, _) => .failed cause

end ChatMarkup.CommandLine
