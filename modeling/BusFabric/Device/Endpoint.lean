import BusFabric.Device.Sram
import BusFabric.Device.RegisterFile
import BusFabric.Simple.Link

set_option autoImplicit false

namespace BusFabric

/-- The devices that a simple-bus slave may be. -/
inductive Device where
  | sram (sram : Device.Sram)
  | registers (registers : Device.Registers)

namespace Device

def name : Device → String
  | .sram ram => ram.name
  | .registers _ => "csr"

/-- Reads the word at an offset from the device's base. -/
def read (device : Device) (offset : Address) : Except AccessError Data :=
  match device with
  | .sram ram => ram.read offset
  | .registers file => file.read offset

/-- Writes selected lanes of the word at an offset from the device's base. -/
def write (device : Device) (offset : Address) (data : Data) (select : Strobe) :
    Except AccessError Device :=
  match device with
  | .sram ram => (ram.write offset data select).map .sram
  | .registers file => (file.write offset data select).map .registers

/-- Carries out a request at an offset. A refused access changes nothing and answers with an
error. -/
def perform (device : Device) (offset : Address) (request : Simple.Request) :
    Device × Simple.Response :=
  if request.write then
    match device.write offset request.data request.select with
    | .ok device => (device, .ok 0)
    | .error _ => (device, .refused)
  else
    match device.read offset with
    | .ok data => (device, .ok data)
    | .error _ => (device, .refused)

/-- A device, the address it is decoded at, and the wait before each acknowledge. The endpoint owns
the handshake; the device answers single accesses. -/
structure Endpoint where
  device : Device
  base : Address
  /-- Cycles that a request waits before it is carried out. -/
  latency : Nat
  waited : Nat := 0
  /-- Requests carried out so far. -/
  accesses : Nat := 0

namespace Endpoint

/-- One cycle: waits, or carries out the waiting request and acknowledges it. -/
def tick (endpoint : Endpoint) (link : Simple.Link) : Endpoint × Simple.Link :=
  match link.awaiting? with
  | none => (endpoint, link)
  | some request =>
    if endpoint.waited < endpoint.latency then
      ({ endpoint with waited := endpoint.waited + 1 }, link)
    else
      let (device, response) := endpoint.device.perform (request.address - endpoint.base) request
      ({ endpoint with device, waited := 0, accesses := endpoint.accesses + 1 },
        link.acknowledge response)

end Endpoint

end Device

end BusFabric
