import BusFabric.Port
import BusFabric.Text.Number

set_option autoImplicit false

namespace BusFabric

open Text (hex)

/-- The narrowest data path that a bridge accepts, in bits. -/
def minBridgeWidth : Nat := 8

/-- The widest data path that a bridge accepts, in bits. -/
def maxBridgeWidth : Nat := 128

/-- A declaration or setting that no fabric can honour. -/
inductive ConfigError where
  | widthNotPowerOfTwo (width : Nat)
  | widthOutOfRange (width : Nat)
  /-- The protocol of the port does not allow its width. -/
  | portWidth (port : PortId) (protocol : Protocol) (width : Nat)
  | unsupportedBridge (source target : Protocol)
  /-- A port without a bridge has to be as wide as the fabric. -/
  | widthMismatch (port : PortId) (width fabricWidth : Nat)
  | missingWindow (port : PortId)
  | duplicatePort (port : PortId)
  | unknownPort (port : PortId)
  | badGranularity (granularity wordBytes : Nat)
  /-- The words of a bank need more bytes than its window has. -/
  | bankOverflow (name : String) (bytes granularity : Nat)
  | bankIndexOutOfRange (index max : Nat)
  | noRegisterBus
  | multipleRegisterBuses (port : PortId)
  | missingPeripheral (platform peripheral : String)
  | unknownVariant (variant : String)
  deriving DecidableEq

def ConfigError.message : ConfigError → String
  | widthNotPowerOfTwo width => s!"data width {width} is not a power of two"
  | widthOutOfRange width =>
    s!"data width {width} is outside {minBridgeWidth}..={maxBridgeWidth}"
  | portWidth port protocol width =>
    s!"port {port}: data width {width} is not allowed for {protocol.name}"
  | unsupportedBridge source target => s!"no bridge converts {source.name} to {target.name}"
  | widthMismatch port width fabricWidth =>
    s!"port {port}: width {width} does not match fabric width {fabricWidth}"
  | missingWindow port => s!"port {port}: slave has no base address and size"
  | duplicatePort port => s!"port {port} declared twice"
  | unknownPort port => s!"port {port} is not declared"
  | badGranularity granularity wordBytes =>
    s!"register bank granularity {hex granularity} must be a power of two of at least " ++
      s!"{wordBytes} bytes"
  | bankOverflow name bytes granularity =>
    s!"register bank {name} needs {hex bytes} bytes but the bank window is {hex granularity}"
  | bankIndexOutOfRange index max =>
    s!"register bank index {index} is outside the {max} banks the region decodes"
  | noRegisterBus => "register banks declared but no register-bus slave port carries them"
  | multipleRegisterBuses port => s!"port {port} is a second register-bus slave"
  | missingPeripheral platform peripheral =>
    s!"platform profile {platform} does not provide {peripheral}"
  | unknownVariant variant => s!"unknown bridge width variant {variant}"

/-- Arithmetic that has no result. -/
inductive ArithmeticFault where
  | overflow
  | divisionByZero
  deriving DecidableEq

def ArithmeticFault.message : ArithmeticFault → String
  | overflow => "a sum does not fit in its width"
  | divisionByZero => "a division by zero"

/-- A window or register bank that does not fit beside the others. -/
inductive MapError where
  /-- The new window and the existing one share an address; ends are exclusive. -/
  | overlap (name : String) (base finish : Nat) (existing : String)
      (existingBase existingFinish : Nat)
  /-- The size is no power of two or too small, or the base is not aligned. -/
  | alignment (name : String) (base size natural : Nat)
  /-- The port cannot address so large a window, or the window passes the top of the space. -/
  | outOfRange (name : String) (size span : Nat)
  | duplicateName (name : String)
  | indexTaken (index : Nat) (owner : String)
  /-- The map was frozen and takes no more windows. -/
  | frozen
  /-- A check does not come to an end. This is no answer of the call, unlike the others: whoever
  calls stops there. -/
  | arithmetic (fault : ArithmeticFault)
  deriving DecidableEq

def MapError.message : MapError → String
  | overlap name base finish existing existingBase existingFinish =>
    s!"window {name} [{hex base}, {hex finish}) overlaps {existing} [{hex existingBase}, " ++
      s!"{hex existingFinish})"
  | alignment name base size natural =>
    s!"window {name} at {hex base} size {hex size} is misaligned " ++
      s!"(natural alignment {hex natural})"
  | outOfRange name size span =>
    s!"window {name} of size {hex size} does not fit the {hex span} bytes its port can address"
  | duplicateName name => s!"register bank {name} is already allocated"
  | indexTaken index owner => s!"register bank index {index} is already taken by {owner}"
  | frozen => "address map is frozen"
  | arithmetic fault => fault.message

/-- Anything that stops a fabric from being built. -/
inductive BuildError where
  | config (error : ConfigError)
  | map (error : MapError)
  deriving DecidableEq

def BuildError.message : BuildError → String
  | config error => error.message
  | map error => error.message

instance : Coe ConfigError BuildError := ⟨.config⟩

instance : Coe MapError BuildError := ⟨.map⟩

/-- Whether the width of the port and its window are as its protocol and side demand. -/
def Port.validate (port : Port) : Except ConfigError Unit :=
  if port.dataWidth ∉ allowedWidths port.protocol then
    .error (.portWidth port.id port.protocol port.dataWidth)
  else if port.role = .slave ∧ port.protocol ≠ .registerBus ∧
      (port.base.isNone ∨ port.size.isNone) then
    .error (.missingWindow port.id)
  else .ok ()

end BusFabric
