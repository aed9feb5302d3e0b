import BusFabric.Word
import BusFabric.Text.Number

set_option autoImplicit false

namespace BusFabric.Device

open Text (hex)

/-- Why a device refuses an access, with the offset that was accessed. On the bus it shows as an
error acknowledge. -/
inductive AccessError where
  | unmapped (offset : Address)
  | readOnly (offset : Address)
  deriving DecidableEq

def AccessError.message : AccessError → String
  | unmapped offset => s!"offset {hex offset.toNat} is outside the device"
  | readOnly offset => s!"write to read-only register at offset {hex offset.toNat}"

end BusFabric.Device
