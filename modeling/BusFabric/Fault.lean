import BusFabric.Port

set_option autoImplicit false

namespace BusFabric

inductive FaultKind where
  /-- A write data beat claims to be the last before the burst's length is reached. -/
  | earlyLast (beat beats : Nat)
  /-- The final write data beat does not claim to be the last. -/
  | missingLast (beat : Nat)
  /-- A response that answers nothing. -/
  | unexpectedWriteResponse
  | unexpectedReadData
  | badWrapLength (beats : Nat)
  | oversizedBeat (bytes busBytes : Nat)
  | burstOnLitePort (beats : Nat)
  /-- The last-beat mark of read data does not agree with the length asked for. -/
  | readLength (received beats : Nat)
  deriving DecidableEq

def FaultKind.message : FaultKind → String
  | earlyLast beat beats =>
    s!"write data beat {beat} carried \x60last\x60 before the burst length {beats}"
  | missingLast beat => s!"final write data beat {beat} is missing \x60last\x60"
  | unexpectedWriteResponse => "write response without an outstanding request"
  | unexpectedReadData => "read response without an outstanding request"
  | badWrapLength beats => s!"wrapping burst of {beats} beats (must be 2, 4, 8 or 16)"
  | oversizedBeat bytes busBytes =>
    s!"beat size {bytes} bytes exceeds the {busBytes}-byte data bus"
  | burstOnLitePort beats => s!"burst of {beats} beats on a single-beat port"
  | readLength received beats => s!"read burst returned {received} beats, expected {beats}"

/-- A violation, the port whose bridge saw it, and when. -/
structure ProtocolFault where
  port : PortId
  cycle : Nat
  kind : FaultKind
  deriving DecidableEq

def ProtocolFault.message (fault : ProtocolFault) : String :=
  s!"protocol fault on port {fault.port} at cycle {fault.cycle}: {fault.kind.message}"

end BusFabric
