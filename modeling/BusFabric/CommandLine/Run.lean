import BusFabric.CommandLine.Options
import BusFabric.Fabric.Build
import BusFabric.Fabric.Description
import BusFabric.Fabric.Run
import BusFabric.Port.Reader

set_option autoImplicit false

namespace BusFabric.CommandLine

inductive Failure where
  | badOptions (conflict : Options.Conflict)
  | unreadable (path : String)
  | badPorts (error : Json.ReadError)
  | badConfig (error : ConfigError)
  | badFabric (error : BuildError)
  | unwritable (path : String)
  deriving DecidableEq

def Failure.message : Failure → String
  | badOptions conflict => s!"Error: {conflict.message}"
  | unreadable path => s!"Failed to load ports: {path} cannot be read as text"
  | badPorts .incomplete => "Failed to load ports: the file ends too early"
  | badPorts .malformed => "Failed to load ports: the file is not JSON"
  | badPorts .mismatched => "Failed to load ports: the file is no list of ports"
  | badConfig error => s!"Invalid configuration: {error.message}"
  | badFabric error => s!"Failed to build fabric: {error.message}"
  | unwritable path => s!"Failed to write {path}: it cannot be written"

/-- The exit code of a failure. Arithmetic without a result ends the program on the spot. -/
def Failure.exitCode : Failure → Nat
  | badFabric (.map (.arithmetic _)) => 101
  | _ => 2

/-- How trying a fabric out may end badly. -/
inductive Shortfall where
  | timeout
  | cycleLimit
  | faults (count : Nat)
  | mismatch
  deriving DecidableEq

def Shortfall.message : Shortfall → String
  | timeout => "Timeout reached before traffic completed"
  | cycleLimit => "Cycle limit reached before traffic completed"
  | faults count => s!"{count} protocol fault(s) during the run"
  | mismatch => "SRAM read-back did not match the written pattern"

def shortfallCode : Nat := 1

def portsOf (path : String) (contents : Option ByteArray) : Except Failure (List Port) :=
  match contents.bind String.fromUTF8? with
  | some text => (Port.listOfJson text).mapError .badPorts
  | none => .error (.unreadable path)

/-- The fabric that the options ask for. `readFile` gives the contents of a file. -/
def buildFabric (options : Options) (readFile : String → Option ByteArray) :
    Except Failure Fabric := do
  options.validate.mapError .badOptions
  let ports ← options.ports.mapM fun path => portsOf path (readFile path)
  let config ← (options.config ports).mapError .badConfig
  (Fabric.build config).mapError .badFabric

def publication (fabric : Fabric) : String :=
  fabric.description.toJson.render ++ "\n"

/-- What is written to the on-chip memory. -/
def pattern : Data := 0xC0FFEE00

/-- The operations that write the pattern to the on-chip memory and read it back, if the fabric has
the memory and the bridge, and the bridge reaches the memory. -/
def tryout? (fabric : Fabric) : Option (List Split.Op) := do
  let window ← fabric.map.window? Platform.sramPort
  let (_, bridge) ← fabric.splitMaster? Platform.inboundPort
  let offset ← bridge.conversion.untranslate? window.base
  let address := bridge.origin + offset
  let busBytes := bridge.conversion.sourceBytes
  return [.writeBurst 1 address 2 .incr [pattern] busBytes, .readBurst 2 address 2 .incr 1]

def succeeded (fabric : Fabric) : Bool :=
  match fabric.splitMaster? Platform.inboundPort with
  | none => false
  | some (script, _) =>
    match script.completions.toList with
    | [.write _ written _, .read _ data read _] =>
      written.isOkay && read.isOkay && data = [pattern]
    | _ => false

def pushAll (fabric : Fabric) (ops : List Split.Op) : Fabric :=
  ops.foldl (fun fabric op => (fabric.pushSplit Platform.inboundPort op).toOption.getD fabric)
    fabric

/-- Tries a fabric out: a pattern is written to the on-chip memory through the processor system's
bridge and read back. A fabric without the two is run without traffic. -/
def tryOut (fabric : Fabric) (limits : Fabric.Limits) : Except Shortfall Unit :=
  let ops := tryout? fabric
  match (pushAll fabric (ops.getD [])).run limits with
  | (_, .timeout) => .error .timeout
  | (_, .cycleLimit) => .error .cycleLimit
  | (fabric, .idle) =>
    if !fabric.faults.isEmpty then .error (.faults fabric.faults.size)
    else if ops.isSome && !succeeded fabric then .error .mismatch
    else .ok ()

/-- What the program leaves behind. -/
structure Outcome where
  exitCode : Nat
  output : String := ""
  errors : String := ""
  /-- A file that is written, by its path, with its contents. -/
  file : Option (String × String) := none
  deriving DecidableEq

/-- What remains to be done once the description is published. -/
def concludeRun (options : Options) (fabric : Fabric) : Nat × String :=
  if options.simulate then
    match tryOut fabric options.limits with
    | .ok () => (0, "")
    | .error shortfall => (shortfallCode, shortfall.message ++ "\n")
  else (0, "")

/-- Carries the options out. `canWrite` tells which files can be written. -/
def run (options : Options) (readFile : String → Option ByteArray) (canWrite : String → Bool) :
    Outcome :=
  match buildFabric options readFile with
  | .error failure => { exitCode := failure.exitCode, errors := failure.message ++ "\n" }
  | .ok fabric =>
    match options.emit with
    | none =>
      let (exitCode, errors) := concludeRun options fabric
      { exitCode, errors, output := publication fabric }
    | some path =>
      if canWrite path then
        let (exitCode, errors) := concludeRun options fabric
        { exitCode, errors, file := some (path, publication fabric) }
      else
        let failure := Failure.unwritable path
        { exitCode := failure.exitCode, errors := failure.message ++ "\n" }

end BusFabric.CommandLine
