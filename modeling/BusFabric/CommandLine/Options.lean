import BusFabric.Fabric.Config
import BusFabric.Fabric.Run
import BusFabric.RegisterBank.Text

set_option autoImplicit false

namespace BusFabric.CommandLine

/-- Why a command line is refused, or is not carried out. -/
inductive UsageError where
  | unknownArgument
  /-- A value is missing, or is none of the choices. -/
  | invalidValue
  /-- A value does not read as a number or a bank. -/
  | valueValidation
  /-- An option that may be given once is given again. -/
  | argumentConflict
  /-- A value is given to an option that takes none. -/
  | tooManyValues
  /-- The help text is asked for. -/
  | displayHelp
  deriving DecidableEq

/-- The exit code of a command line that is not carried out. Asking for help is no failure. -/
def UsageError.exitCode : UsageError → Nat
  | displayHelp => 0
  | unknownArgument | invalidValue | valueValidation | argumentConflict | tooManyValues => 2

inductive ValueOption where
  | variant
  | ports
  | fabricWidth
  | csrOrigin
  | csrGranularity
  | bank
  | tieBreak
  | add
  | require
  | emit
  | maxCycles
  | timeoutMs
  | deviceLatency
  deriving DecidableEq

namespace ValueOption

def all : List ValueOption :=
  [variant, ports, fabricWidth, csrOrigin, csrGranularity, bank, tieBreak, add, require, emit,
    maxCycles, timeoutMs, deviceLatency]

def name : ValueOption → String
  | variant => "variant"
  | ports => "ports"
  | fabricWidth => "fabric-width"
  | csrOrigin => "csr-origin"
  | csrGranularity => "csr-granularity"
  | bank => "bank"
  | tieBreak => "tie-break"
  | add => "with"
  | require => "require"
  | emit => "emit"
  | maxCycles => "max-cycles"
  | timeoutMs => "timeout-ms"
  | deviceLatency => "device-latency"

def letter? : ValueOption → Option Char
  | maxCycles => some 'c'
  | _ => none

end ValueOption

/-- The options that take no value. -/
inductive Flag where
  | simulate
  | help
  deriving DecidableEq

namespace Flag

/-- Every option that takes no value. -/
def all : List Flag :=
  [simulate, help]

def name : Flag → String
  | simulate => "simulate"
  | help => "help"

def letter? : Flag → Option Char
  | simulate => none
  | help => some 'h'

end Flag

/-- The values given on a command line. Options that may be given several times keep their values in
order. -/
structure Options where
  variant : Option String := none
  ports : Option String := none
  fabricWidth : Option Nat := none
  csrOrigin : Option Nat := none
  csrGranularity : Option Nat := none
  banks : List RegisterBank.Declaration := []
  tieBreak : Option TieBreak := none
  added : List Peripheral := []
  required : List Peripheral := []
  emit : Option String := none
  simulate : Bool := false
  maxCycles : Option Nat := none
  timeoutMs : Option Nat := none
  deviceLatency : Option Nat := none
  deriving DecidableEq

/-- The value of a number that may have a sign, if it lies below `2 ^ 32`. A minus is allowed before
zero only. -/
def signedCount? (text : String) : Option Nat :=
  let digits? (cs : List Char) : Option Nat :=
    if !cs.isEmpty && cs.all (·.isDigit) then
      some (cs.foldl (fun n c => n * 10 + (c.toNat - '0'.toNat)) 0)
    else none
  match text.toList with
  | '-' :: cs => (digits? cs).filter (· = 0)
  | '+' :: cs | cs => (digits? cs).filter (· < UInt32.size)

def count? (text : String) : Option Nat :=
  (Text.numberInBase 10 text.toList).toOption

/-- A number below `2 ^ 64`, in decimal or in hexadecimal. -/
def number? (text : String) : Option Nat :=
  (Text.number text.toList).toOption

def path? (text : String) : Option String :=
  if text.isEmpty then none else some text

def peripheral? (text : String) : Option Peripheral :=
  Peripheral.all.find? (·.optionName = text)

/-- The order of turns of that name. -/
def tieBreak? : String → Option TieBreak
  | "ascending" => some .ascending
  | "descending" => some .descending
  | _ => none

/-- The value of an option that may be given once. That it was given before is noticed before its
new value is looked at. -/
def once {α : Type} (present : Option α) (value : Option α) (error : UsageError) :
    Except UsageError (Option α) :=
  match present, value with
  | some _, _ => .error .argumentConflict
  | none, some value => .ok (some value)
  | none, none => .error error

/-- The values of an option that may be given several times, with one more. -/
def again {α : Type} (present : List α) (value : Option α) (error : UsageError) :
    Except UsageError (List α) :=
  match value with
  | some value => .ok (present ++ [value])
  | none => .error error

namespace Options

def enter (options : Options) (option : ValueOption) (value : String) :
    Except UsageError Options :=
  match option with
  | .variant => return { options with
      variant := ← once options.variant (some value) .invalidValue }
  | .ports => return { options with
      ports := ← once options.ports (path? value) .invalidValue }
  | .fabricWidth => return { options with
      fabricWidth := ← once options.fabricWidth (signedCount? value) .valueValidation }
  | .csrOrigin => return { options with
      csrOrigin := ← once options.csrOrigin (number? value) .valueValidation }
  | .csrGranularity => return { options with
      csrGranularity := ← once options.csrGranularity (number? value) .valueValidation }
  | .bank => return { options with
      banks := ← again options.banks (RegisterBank.Declaration.ofText value.toList).toOption
        .valueValidation }
  | .tieBreak => return { options with
      tieBreak := ← once options.tieBreak (tieBreak? value) .invalidValue }
  | .add => return { options with
      added := ← again options.added (peripheral? value) .invalidValue }
  | .require => return { options with
      required := ← again options.required (peripheral? value) .invalidValue }
  | .emit => return { options with
      emit := ← once options.emit (path? value) .invalidValue }
  | .maxCycles => return { options with
      maxCycles := ← once options.maxCycles (count? value) .valueValidation }
  | .timeoutMs => return { options with
      timeoutMs := ← once options.timeoutMs (count? value) .valueValidation }
  | .deviceLatency => return { options with
      deviceLatency := ← once options.deviceLatency (signedCount? value) .valueValidation }

/-- Enters an option without a value. -/
def raise (options : Options) : Flag → Except UsageError Options
  | .simulate =>
    if options.simulate then .error .argumentConflict else .ok { options with simulate := true }
  | .help => .error .displayHelp

/-- Options that do not go together. -/
inductive Conflict where
  | limitsWithoutSimulation
  | peripheralsBesidePorts
  | noCycles
  deriving DecidableEq

def Conflict.message : Conflict → String
  | limitsWithoutSimulation => "--max-cycles and --timeout-ms require --simulate"
  | peripheralsBesidePorts => "--with only applies to the built-in profile, not --ports"
  | noCycles => "--max-cycles must be at least 1"

/-- Whether the options go together; of several conflicts the first in this order is named. -/
def validate (options : Options) : Except Conflict Unit :=
  if !options.simulate && (options.maxCycles.isSome || options.timeoutMs.isSome) then
    .error .limitsWithoutSimulation
  else if options.ports.isSome && !options.added.isEmpty then .error .peripheralsBesidePorts
  else if options.maxCycles = some 0 then .error .noCycles
  else .ok ()

def platform (options : Options) : Except ConfigError Platform :=
  (Platform.ofVariant (options.variant.getD Platform.defaultVariant)).map
    (options.added.foldl Platform.add)

/-- The settings of the fabric. Ports that are given take the place of the platform's. -/
def config (options : Options) (ports : Option (List Port)) :
    Except ConfigError Fabric.Config :=
  options.platform.map fun platform =>
    let config := Fabric.Config.ofPlatform platform
    { config with
      ports := ports.getD config.ports
      width := options.fabricWidth.getD config.width
      region := { config.region with
        origin := (options.csrOrigin.map (BitVec.ofNat 64)).getD config.region.origin
        granularity := options.csrGranularity.getD config.region.granularity }
      banks := options.banks
      tieBreak := options.tieBreak.getD config.tieBreak
      deviceLatency := options.deviceLatency.getD config.deviceLatency
      required := options.required }

def limits (options : Options) : Fabric.Limits :=
  { cycles := options.maxCycles, milliseconds := options.timeoutMs }

end Options

end BusFabric.CommandLine
