import ChatMarkup.CommandLine.Answer

/-!
# The Program

The command line of the program, on the files of the machine.

Everything is decided elsewhere. What is left is to perform the script of a run,
and to put the failures of the system into the terms of the library.

## Main definitions

* `main`: The program.
-/

open ChatMarkup ChatMarkup.CommandLine

/-- The cause that the system has described. -/
def systemError : IO.Error → SystemError
  | .noFileOrDirectory _ _ _ => .notFound
  | .inappropriateType _ code details =>
    if code = 20 then .notDirectory
    else if code = 21 then .isDirectory
    else if code = 40 then .tooManyLinks
    else .other details code.toNat
  | .alreadyExists _ code details => .other details code.toNat
  | .permissionDenied _ code details => .other details code.toNat
  | .invalidArgument _ code details => .other details code.toNat
  | .resourceExhausted _ code details => .other details code.toNat
  | .noSuchThing _ code details => .other details code.toNat
  | .otherError code details => .other details code.toNat
  | .resourceBusy code details => .other details code.toNat
  | .resourceVanished code details => .other details code.toNat
  | .unsupportedOperation code details => .other details code.toNat
  | .hardwareFault code details => .other details code.toNat
  | .illegalOperation code details => .other details code.toNat
  | error => .other error.toString 5

/-- The result of an action on files, or the cause of its failure. -/
def attempt {α : Type} (action : IO α) : IO (Except SystemError α) := do
  match ← action.toBaseIO with
  | .ok value => return .ok value
  | .error error => return .error (systemError error)

/-- Whether there is a file, told by what reading it brings: whatever else is
    wrong, there is something to be read. -/
def isFileOnMachine (found : Except SystemError ByteArray) : Bool :=
  match found with
  | .error .notFound => false
  | .error .notDirectory => false
  | .error .isDirectory => false
  | .error .tooManyLinks => false
  | _ => true

/-- The script performed on the files of the machine. -/
def performOnMachine {α : Type} : Script α → IO α
  | .finish result => return result
  | .askFile path next => do
    let found ← attempt (IO.FS.readBinFile (String.ofList path))
    performOnMachine (next (isFileOnMachine found))
  | .readFile path next => do
    performOnMachine (next (← attempt (IO.FS.readBinFile (String.ofList path))))
  | .readInput next => do
    performOnMachine (next (← attempt (do (← IO.getStdin).readBinToEnd)))
  | .writeFile path content next => do
    performOnMachine (next (← attempt (IO.FS.writeBinFile (String.ofList path) content)))
  | .print text next => do
    IO.print (String.ofList text)
    performOnMachine next

/-- A run on the files of the machine. -/
def runOnMachine (options : Options) : IO UInt32 := do
  match ← performOnMachine (options.script Config.decoder) with
  | .ok () => return 0
  | .error cause =>
    IO.eprintln ("Error: " ++ cause.message Config.decoder)
    return 1

/-- The program. -/
def main (words : List String) : IO UInt32 := do
  match Options.ofWords (words.map String.toList) with
  | .ok options => runOnMachine options
  | .error .help =>
    IO.print (String.ofList helpText)
    return 0
  | .error .version =>
    IO.print (String.ofList versionText)
    return 0
  | .error (.usage cause) =>
    IO.eprintln ("error: " ++ cause.message)
    return 2
