import BusFabric.CommandLine.Run

set_option autoImplicit false

namespace BusFabric.CommandLine

/-- A directory that holds files and no other directory. A place is the list of the names that lead
to it from the root. The directories above it are known, and that of the devices. -/
structure Directory where
  /-- The files by name. -/
  files : List (String × ByteArray) := []
  /-- Where the directory lies. -/
  place : List String := ["tmp", "work"]

namespace Directory

def maxNameBytes : Nat := 255

def maxPathBytes : Nat := 4095

/-- Whether a place is one of the directories that are known. -/
def isDirectory (directory : Directory) (place : List String) : Bool :=
  place = ["dev"] || place.isPrefixOf directory.place

/-- The place that one step of a path leads to. Steps are taken from directories only, also those
that stay where they are. -/
def step? (directory : Directory) (place : List String) (step : String) : Option (List String) :=
  if directory.isDirectory place then
    if step = "" ∨ step = "." then some place
    else if step = ".." then some place.dropLast
    else if step.utf8ByteSize ≤ maxNameBytes then some (place ++ [step])
    else none
  else none

/-- The place that a path leads to: from the root if it starts with a slash, and otherwise from the
directory. -/
def place? (directory : Directory) (path : String) : Option (List String) :=
  if path = "" ∨ path.utf8ByteSize > maxPathBytes then none
  else
    let steps := path.splitOn "/"
    let start := if steps.head? = some "" then [] else directory.place
    steps.foldlM directory.step? start

/-- Where something that is written ends up. -/
inductive Target where
  /-- In a file of the directory. -/
  | file (name : String)
  /-- In the program's own output. -/
  | output
  /-- Among the program's own errors. -/
  | errors
  /-- Where nobody looks. -/
  | elsewhere
  deriving DecidableEq

/-- Where writing at a place ends up, if it is possible. The program's input is empty, so that
writing there is like writing to the null device. -/
def target? (directory : Directory) (place : List String) : Option Target :=
  if directory.isDirectory place then none
  else if place.dropLast = directory.place then place.getLast?.map .file
  else if place.dropLast = directory.place.dropLast then some .elsewhere
  else
    match place with
    | ["dev", "stdout"] => some .output
    | ["dev", "stderr"] => some .errors
    | ["dev", "null"] | ["dev", "zero"] | ["dev", "random"] | ["dev", "urandom"]
    | ["dev", "stdin"] => some .elsewhere
    | _ => none

/-- Where writing at a path ends up, if it is possible. -/
def targetOf? (directory : Directory) (path : String) : Option Target :=
  (directory.place? path).bind directory.target?

def read? (directory : Directory) (path : String) : Option ByteArray :=
  match directory.targetOf? path with
  | some (.file name) => directory.files.lookup name
  | _ => none

/-- Carries the options out in the directory. The file of the outcome is the one that is new in it,
by its name. -/
def run (directory : Directory) (options : Options) : Outcome :=
  let outcome :=
    CommandLine.run options directory.read? fun path => (directory.targetOf? path).isSome
  let seen := { outcome with file := none }
  match outcome.file with
  | none => seen
  | some (path, text) =>
    match directory.targetOf? path with
    | some (.file name) =>
      if (directory.files.lookup name).isNone then { seen with file := some (name, text) } else seen
    | some .output => { seen with output := text ++ seen.output }
    | some .errors => { seen with errors := text ++ seen.errors }
    | some .elsewhere | none => seen

end Directory

end BusFabric.CommandLine
