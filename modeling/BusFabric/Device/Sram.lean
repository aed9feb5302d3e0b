import BusFabric.Memory
import BusFabric.Device.Error

set_option autoImplicit false

namespace BusFabric.Device

structure Sram where
  name : String
  size : Nat
  wordBytes : Nat
  memory : Memory := {}

namespace Sram

def wordAt (sram : Sram) (offset : Address) : Except AccessError Address :=
  if offset.toNat ≥ sram.size then .error (.unmapped offset)
  else .ok (offset.alignDown sram.wordBytes)

/-- Reads a word. Every lane is driven, selected or not. -/
def read (sram : Sram) (offset : Address) : Except AccessError Data :=
  (sram.wordAt offset).map (sram.memory.readWord · sram.wordBytes)

def write (sram : Sram) (offset : Address) (data : Data) (select : Strobe) :
    Except AccessError Sram :=
  (sram.wordAt offset).map fun address =>
    { sram with memory := sram.memory.writeWord address data select sram.wordBytes }

end Sram

end BusFabric.Device
