import BusFabric.CommandLine.Arguments
import BusFabric.CommandLine.Run

set_option autoImplicit false

namespace BusFabric.CommandLine

/-- What is said about a command line that is refused. -/
def UsageError.message : UsageError → String
  | unknownArgument => "error: unexpected argument"
  | invalidValue => "error: a value is missing or is none of the choices"
  | valueValidation => "error: invalid value"
  | argumentConflict => "error: an option is given more than once"
  | tooManyValues => "error: a value is given to an option that takes none"
  | displayHelp =>
    "Compose an HPS bus fabric and emit its address map\n\nOptions: " ++
      String.intercalate ", " ((ValueOption.all.map fun option => "--" ++ option.name) ++
        Flag.all.map fun flag => "--" ++ flag.name)

def contents? (path : String) : IO (Option ByteArray) := do
  try
    return some (← IO.FS.readBinFile path)
  catch _ =>
    return none

/-- Writes the file of an outcome, and says whether that is done. -/
def writes (outcome : Outcome) : IO Bool := do
  match outcome.file with
  | none => return true
  | some (path, text) =>
    try
      IO.FS.writeFile path text
      return true
    catch _ =>
      return false

/-- Carries the options out in the real file system. -/
def perform (options : Options) : IO UInt32 := do
  let ports ← match options.ports with
    | some path => contents? path
    | none => pure none
  let outcome := run options (fun _ => ports) (fun _ => true)
  let outcome := if ← writes outcome then outcome else run options (fun _ => ports) (fun _ => false)
  (← IO.getStdout).putStr outcome.output
  (← IO.getStderr).putStr outcome.errors
  return outcome.exitCode.toUInt32

end BusFabric.CommandLine

open BusFabric.CommandLine in
def main (arguments : List String) : IO UInt32 := do
  match Options.ofArguments arguments with
  | .ok options => perform options
  | .error error =>
    let stream ← if error.exitCode = 0 then IO.getStdout else IO.getStderr
    stream.putStrLn error.message
    return error.exitCode.toUInt32
