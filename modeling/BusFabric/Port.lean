import BusFabric.Word

set_option autoImplicit false

namespace BusFabric

/-- The number that a port is declared under. Arbitration breaks ties by it. -/
structure PortId where
  number : Nat
  deriving DecidableEq

instance : ToString PortId where
  toString id := s!"#{id.number}"

inductive Protocol where
  /-- Bursts, with address, data and response on channels of their own. -/
  | wideSplit
  /-- Like `wideSplit`, limited to one data beat per transaction. -/
  | wideSplitLite
  /-- One word per request, held until acknowledged. -/
  | simpleSync
  /-- The bus of the register banks. -/
  | registerBus
  deriving DecidableEq

namespace Protocol

/-- The name in port files and messages. -/
def name : Protocol → String
  | wideSplit => "WideSplit"
  | wideSplitLite => "WideSplitLite"
  | simpleSync => "SimpleSync"
  | registerBus => "RegisterBus"

def all : List Protocol :=
  [wideSplit, wideSplitLite, simpleSync, registerBus]

/-- Whether addresses, data and responses travel on channels of their own. -/
def isSplit : Protocol → Bool
  | wideSplit | wideSplitLite => true
  | simpleSync | registerBus => false

end Protocol

inductive Role where
  | master
  | slave
  deriving DecidableEq

namespace Role

def name : Role → String
  | master => "Master"
  | slave => "Slave"

def all : List Role :=
  [master, slave]

end Role

/-- The declaration of one bus endpoint. -/
structure Port where
  id : PortId
  name : String
  protocol : Protocol
  role : Role
  /-- Width of the data path in bits. -/
  dataWidth : Nat
  /-- Number of address lines. -/
  addressWidth : BitVec 32
  /-- A slave's window starts here; a master subtracts it from its addresses. -/
  base : Option Address := none
  /-- Bytes in a slave's window. -/
  size : Option Nat := none
  deriving DecidableEq

namespace Port

def wordBytes (port : Port) : Nat :=
  port.dataWidth / 8

/-- The smallest window that the port can decode: one data word. -/
def naturalAlignment (port : Port) : Nat :=
  max port.wordBytes 1

/-- How many byte-address bits the port's lines span. Split buses carry byte addresses, the other
buses word addresses. -/
def spanBits (port : Port) : Nat :=
  if port.protocol.isSplit then port.addressWidth.toNat
  else port.addressWidth.toNat + trailingZeros port.wordBytes

/-- The bytes that so many address bits tell apart, as a 64-bit count that stops at the largest. -/
def addressableBytes (port : Port) : Nat :=
  if port.spanBits < 64 then 1 <<< port.spanBits else UInt64.size - 1

/-- The largest window that the port's address lines reach, in bytes. The bits are counted in 32
bits, without a check: there is no answer for lines that take the sum past them. -/
def addressableBytes? (port : Port) : Option Nat :=
  if port.spanBits < UInt32.size then some port.addressableBytes else none

def allowedWidths : Protocol → List Nat
  | .registerBus => [8, 16, 32]
  | .wideSplit | .wideSplitLite | .simpleSync => [32, 64, 128]

end Port

/-- A port with its name, protocol, side and width, for a reader. -/
instance : ToString Port where
  toString port :=
    s!"{port.id} {port.name} ({port.protocol.name} {port.role.name}, {port.dataWidth} bits)"

end BusFabric
