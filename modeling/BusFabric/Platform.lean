import BusFabric.Error

set_option autoImplicit false

namespace BusFabric

inductive Peripheral where
  | usb
  | sdCard
  | spi
  | uart
  | i2c0
  | i2c1
  | ethernet
  | qspiFlash
  deriving DecidableEq

namespace Peripheral

def all : List Peripheral :=
  [usb, sdCard, spi, uart, i2c0, i2c1, ethernet, qspiFlash]

def name : Peripheral → String
  | usb => "Usb"
  | sdCard => "SdCard"
  | spi => "Spi"
  | uart => "Uart"
  | i2c0 => "I2c0"
  | i2c1 => "I2c1"
  | ethernet => "Ethernet"
  | qspiFlash => "QspiFlash"

def optionName : Peripheral → String
  | usb => "usb"
  | sdCard => "sd-card"
  | spi => "spi"
  | uart => "uart"
  | i2c0 => "i2c0"
  | i2c1 => "i2c1"
  | ethernet => "ethernet"
  | qspiFlash => "qspi-flash"

def base : List Peripheral :=
  [usb, sdCard, spi, uart, i2c0, i2c1]

end Peripheral

/-- The platform that a fabric is built for: how wide the bridges of the hard processor system are,
and which of its optional peripherals the board wires up. -/
structure Platform where
  name : String
  variant : String
  /-- Width of the bridge from the processor system into the fabric. -/
  inboundWidth : Nat
  /-- Width of the bridges from the fabric into the processor system. -/
  outboundWidth : Nat
  peripherals : List Peripheral
  deriving DecidableEq

namespace Platform

/-- The variants of the bridges: name, width into the fabric, width out of it. -/
def variants : List (String × Nat × Nat) :=
  [("standard", 64, 64), ("linux", 64, 64), ("full", 64, 64),
    ("linuxhh", 32, 32), ("linuxhs", 32, 64), ("linuxhd", 32, 128),
    ("linuxsh", 64, 32), ("linuxss", 64, 64), ("linuxsd", 64, 128),
    ("linuxdh", 128, 32), ("linuxds", 128, 64), ("linuxdd", 128, 128)]

def defaultVariant : String := "standard"

def ofVariant (variant : String) : Except ConfigError Platform :=
  match variants.find? (·.1 = variant) with
  | some (_, inboundWidth, outboundWidth) =>
    .ok ⟨"cyclone_v", variant, inboundWidth, outboundWidth, Peripheral.base⟩
  | none => .error (.unknownVariant variant)

/-- Whether the board wires the peripheral up. -/
def has (platform : Platform) (peripheral : Peripheral) : Bool :=
  platform.peripherals.contains peripheral

/-- The platform on a board that wires exactly the peripherals up that satisfy `wired`. -/
def withPeripherals (platform : Platform) (wired : Peripheral → Bool) : Platform :=
  { platform with peripherals := Peripheral.all.filter wired }

def add (platform : Platform) (peripheral : Peripheral) : Platform :=
  platform.withPeripherals fun other => other = peripheral || platform.has other

def remove (platform : Platform) (peripheral : Peripheral) : Platform :=
  platform.withPeripherals fun other => other ≠ peripheral && platform.has other

/-- Name and variant, as descriptions and messages give them. -/
def title (platform : Platform) : String :=
  s!"{platform.name}/{platform.variant}"

/-- Refuses a peripheral that the board does not wire up. -/
def require (platform : Platform) (peripheral : Peripheral) : Except ConfigError Unit :=
  if platform.has peripheral then .ok ()
  else .error (.missingPeripheral platform.title peripheral.name)

/-- The port of the bridge from the processor system into the fabric. -/
def inboundPort : PortId := ⟨0⟩

def sramPort : PortId := ⟨4⟩

/-- The processor system's bridges, an on-chip memory and a register bus. -/
def defaultPorts (platform : Platform) : List Port :=
  [{ id := inboundPort
     name := "h2f_axi"
     protocol := .wideSplit
     role := .master
     dataWidth := platform.inboundWidth
     addressWidth := 30 },
   { id := ⟨1⟩
     name := "h2f_lw"
     protocol := .wideSplitLite
     role := .master
     dataWidth := 32
     addressWidth := 21 },
   { id := ⟨2⟩
     name := "f2h_axi"
     protocol := .wideSplit
     role := .slave
     dataWidth := platform.outboundWidth
     addressWidth := 32
     base := some 0x40000000
     size := some 0x20000000 },
   { id := ⟨3⟩
     name := "f2h_sdram"
     protocol := .wideSplit
     role := .slave
     dataWidth := platform.outboundWidth
     addressWidth := 32
     base := some 0x60000000
     size := some 0x20000000 },
   { id := sramPort
     name := "sram"
     protocol := .simpleSync
     role := .slave
     dataWidth := 32
     addressWidth := 30
     base := some 0x11000000
     size := some 0x1000 },
   { id := ⟨5⟩
     name := "csr"
     protocol := .registerBus
     role := .slave
     dataWidth := 32
     addressWidth := 14 }]

end Platform

end BusFabric
