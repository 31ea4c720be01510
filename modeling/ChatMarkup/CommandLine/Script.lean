import ChatMarkup.CommandLine.FileTree

/-!
# Scripts

What a program does with files and with its input and output, as a value.

A script says which file is asked for next and what is done with what that has
brought, and so on until the run ends with a result. It can be performed on a
file tree or on the machine. What the run does is said once, in the script, and
the two ways of performing it differ only in where the files are.

Scripts are put together one behind the other. Where the first of two can fail,
the second is performed only if it has not.

## Main definitions

* `World`: The standard output and the files.
* `Script`: What is done, step by step.
* `Script.andThen`: A script and what is done with its result.
* `Script.perform`: The script performed on a file tree.
-/

namespace ChatMarkup.CommandLine

/-- What a run can change: the text on the standard output, and the files. -/
structure World where
  printed : Text
  files : FileTree

/-- What is done, step by step, until there is a result. -/
inductive Script (α : Type)
  /-- The run ends. -/
  | finish (result : α)
  /-- It is asked whether a path names a file. -/
  | askFile (path : Text) (next : Bool → Script α)
  /-- A file is read. -/
  | readFile (path : Text) (next : Except SystemError ByteArray → Script α)
  /-- The standard input is read to its end. -/
  | readInput (next : Except SystemError ByteArray → Script α)
  /-- A file is written. -/
  | writeFile (path : Text) (content : ByteArray) (next : Except SystemError Unit → Script α)
  /-- A text goes to the standard output. -/
  | print (text : Text) (next : Script α)

namespace Script

variable {ε α β : Type}

/-- What is done with a result. If it is a failure, nothing more is done. -/
def follow (more : α → Script (Except ε β)) : Except ε α → Script (Except ε β)
  | .ok result => more result
  | .error cause => finish (.error cause)

/-- The script, and behind it another that depends on its result. -/
def andThen (more : α → Script (Except ε β)) : Script (Except ε α) → Script (Except ε β)
  | finish result => follow more result
  | askFile path next => askFile path fun found => andThen more (next found)
  | readFile path next => readFile path fun found => andThen more (next found)
  | readInput next => readInput fun found => andThen more (next found)
  | writeFile path content next => writeFile path content fun written => andThen more (next written)
  | print text next => print text (andThen more next)

/-- The result of the script, and the world after it. The standard input holds
    what is given, or cannot be read. A file that cannot be written is left as
    it is, and so are all others. -/
def perform (standardInput : Except SystemError ByteArray) : Script α → World → α × World
  | finish result, world => (result, world)
  | askFile path next, world => perform standardInput (next (world.files.isFile path)) world
  | readFile path next, world => perform standardInput (next (world.files.read path)) world
  | readInput next, world => perform standardInput (next standardInput) world
  | writeFile path content next, world =>
    match world.files.write path content with
    | .ok files => perform standardInput (next (.ok ())) { world with files := files }
    | .error cause => perform standardInput (next (.error cause)) world
  | print text next, world =>
    perform standardInput next { world with printed := world.printed ++ text }

end Script

end ChatMarkup.CommandLine
