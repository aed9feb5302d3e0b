import BusFabric.Crossbar.Basic
import BusFabric.Platform
import BusFabric.RegisterBank.Layout

set_option autoImplicit false

namespace BusFabric.Fabric

structure RegisterRegion where
  origin : Address := 0xE0000000
  /-- Bytes in the window of one bank. -/
  granularity : Nat := 0x800
  /-- How many bank indices the region decodes. -/
  maxBanks : Nat := 32
  deriving DecidableEq

/-- Width of the register bus where no port declares one. -/
def defaultRegisterWidth : Nat := 32

/-- The settings of a fabric. -/
structure Config where
  ports : List Port := []
  /-- Width of the shared simple bus in bits. -/
  width : Nat := 32
  region : RegisterRegion := {}
  banks : List RegisterBank.Declaration := []
  tieBreak : TieBreak := .ascending
  /-- Cycles that a simple-bus device takes to acknowledge. -/
  deviceLatency : Nat := 0
  /-- Cycles that a split-bus memory takes for each read beat. -/
  ramLatency : Nat := 1
  platform : Option Platform := none
  /-- Peripherals that the design needs. -/
  required : List Peripheral := []
  /-- Whether grants are kept. -/
  recordsGrants : Bool := false
  deriving DecidableEq

def Config.ofPlatform (platform : Platform) : Config :=
  { ports := platform.defaultPorts, platform := some platform }

/-- Refuses the first peripheral that the design needs and the platform lacks. Without a platform,
every peripheral is lacking. -/
def Config.checkRequired (config : Config) : Except ConfigError Unit :=
  config.required.forM fun peripheral =>
    match config.platform with
    | some platform => platform.require peripheral
    | none => .error (.missingPeripheral "none" peripheral.name)

end BusFabric.Fabric
