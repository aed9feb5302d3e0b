import BusFabric.Fabric.Basic
import BusFabric.RegisterBank.Allocator

set_option autoImplicit false

namespace BusFabric.Fabric

open Bridge (Conversion Inbound Outbound)

/-- Refuses ports that are invalid or that repeat a number, in the order of declaration. -/
def checkPorts : List PortId → List Port → Except ConfigError Unit
  | _, [] => .ok ()
  | seen, port :: rest => do
    port.validate
    if port.id ∈ seen then .error (.duplicatePort port.id)
    else checkPorts (port.id :: seen) rest

/-- Puts a port before the first one whose number is not less. -/
def insertByNumber (port : Port) : List Port → List Port
  | [] => [port]
  | next :: rest =>
    if port.id.number ≤ next.id.number then port :: next :: rest
    else next :: insertByNumber port rest

def sortByNumber (ports : List Port) : List Port :=
  ports.foldr insertByNumber []

def masterAgent (port : Port) (width : Nat) : Except ConfigError MasterAgent :=
  match port.protocol with
  | .wideSplit | .wideSplitLite =>
    (Conversion.between port.protocol port.dataWidth .simpleSync width).map fun conversion =>
      .split { busBytes := port.wordBytes } {}
        { port := port.id, conversion, origin := port.base.getD 0 }
  | .simpleSync =>
    if port.dataWidth ≠ width then .error (.widthMismatch port.id port.dataWidth width)
    else .ok (.simple {})
  | .registerBus => .error (.unsupportedBridge .registerBus .simpleSync)

def slaveAgent (port : Port) (config : Config) : Except ConfigError SlaveAgent :=
  let base := port.base.getD 0
  match port.protocol with
  | .simpleSync =>
    if port.dataWidth ≠ config.width then
      .error (.widthMismatch port.id port.dataWidth config.width)
    else
      .ok <| .device
        { device := .sram
            { name := port.name, size := port.size.getD 0, wordBytes := port.wordBytes }
          base
          latency := config.deviceLatency }
  | protocol =>
    (Conversion.between .simpleSync config.width protocol port.dataWidth).map fun conversion =>
      .split { port := port.id, conversion, windowBase := base } {}
        { name := port.name, busBytes := port.wordBytes, latency := config.ramLatency }

/-- The parts of a fabric, as far as they are put together. -/
structure Parts where
  map : AddressMap := {}
  masters : List (PortId × MasterAgent) := []
  slaves : List (PortId × SlaveAgent) := []
  registerBus : Option Port := none

def Parts.add (parts : Parts) (config : Config) (port : Port) : Except BuildError Parts :=
  match port.role with
  | .master => do
    let agent ← (masterAgent port config.width).mapError .config
    .ok { parts with masters := parts.masters ++ [(port.id, agent)] }
  | .slave =>
    if port.protocol = .registerBus then
      if parts.registerBus.isSome then .error (.config (.multipleRegisterBuses port.id))
      else if port.dataWidth > config.width then
        .error (.config (.widthMismatch port.id port.dataWidth config.width))
      else .ok { parts with registerBus := some port }
    else do
      let map ← parts.map.registerPort? port
      let agent ← (slaveAgent port config).mapError .config
      .ok { parts with map, slaves := parts.slaves ++ [(port.id, agent)] }

def registerAgent (config : Config) (registers : Device.Registers) : SlaveAgent :=
  .device
    { device := .registers registers
      base := config.region.origin
      latency := config.deviceLatency }

/-- Places the register banks and puts the register bus in its place. Without a register bus there
may be no banks. -/
def Parts.addBanks (parts : Parts) (config : Config) :
    Except BuildError (Parts × RegisterBank.Layout) :=
  let region := config.region
  let stride := config.width / 8
  match parts.registerBus with
  | some bus => do
    let allocator ←
      (RegisterBank.Allocator.create bus region.origin region.granularity stride
        region.maxBanks).mapError .config
    let layout := (← allocator.allocateAll config.banks).layout
    let (map, registered) := parts.map.registerBanks bus layout
    registered.mapError .map
    -- The width of a fabric leaves every access of the registers an answer.
    let some registers := Device.Registers.ofLayout? layout
      | .error (.map (.arithmetic .divisionByZero))
    let slaves := parts.slaves ++ [(bus.id, registerAgent config registers)]
    .ok ({ parts with map, slaves }, layout)
  | none =>
    if config.banks.isEmpty then
      .ok (parts, ⟨region.origin, region.granularity, stride, defaultRegisterWidth, []⟩)
    else .error (.config .noRegisterBus)

/-- Builds the fabric that the settings describe, or names the first thing that does not fit. Ports
take their places in the order of their numbers, whatever the order of their declaration: masters
become lanes, slaves other than the register bus become slots with a window each, and the register
bus comes last, with a window for each of its banks. -/
def build (config : Config) : Except BuildError Fabric := do
  config.checkRequired.mapError .config
  let _ ← (Conversion.between .wideSplit config.width .simpleSync config.width).mapError .config
  (checkPorts [] config.ports).mapError .config
  let parts ←
    (sortByNumber config.ports).foldlM (fun parts port => parts.add config port) ({} : Parts)
  let (parts, layout) ← parts.addBanks config
  .ok
    { width := config.width
      crossbar := .create parts.map.freeze parts.masters parts.slaves config.tieBreak
      layout
      platform := config.platform
      recordsGrants := config.recordsGrants }

end BusFabric.Fabric
