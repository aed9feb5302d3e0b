import BusFabric.AddressMap
import BusFabric.Simple.Link

set_option autoImplicit false

namespace BusFabric

/-- In which order of port numbers the masters take their turns. -/
inductive TieBreak where
  | ascending
  | descending
  deriving DecidableEq

def TieBreak.name : TieBreak → String
  | ascending => "Ascending"
  | descending => "Descending"

structure Grant where
  cycle : Nat
  slave : PortId
  master : PortId
  deriving DecidableEq

namespace Crossbar

/-- A master, its link, and its place in the order of turns. -/
structure Lane (Agent : Type) where
  port : PortId
  /-- Different lanes have different ranks. -/
  rank : Nat
  /-- A request of this lane is with some slot. -/
  isServed : Bool := false
  link : Simple.Link := .idle
  agent : Agent

/-- What a slot is doing. Lanes are named by their place in the list of lanes. -/
inductive Phase where
  | idle
  /-- The lane's request was forwarded and waits for the slave. -/
  | granted (lane : Nat)
  /-- The slave's acknowledge is to be handed to the lane. -/
  | completing (lane : Nat) (response : Simple.Response)
  deriving DecidableEq

def Phase.lane? : Phase → Option Nat
  | idle => none
  | granted lane | completing lane _ => some lane

/-- A slave, its link, and what its slot is doing. -/
structure Slot (Agent : Type) where
  port : PortId
  phase : Phase := .idle
  /-- The rank of the lane that was granted last. -/
  lastRank : Option Nat := none
  link : Simple.Link := .idle
  agent : Agent

/-- How many ports come before the one at `index` when ports are taken in order of their numbers
and, among equal numbers, in the order of the list. -/
def ascendingRank (ports : List PortId) (index : Nat) (port : PortId) : Nat :=
  ports.countP (·.number < port.number) + (ports.take index).countP (·.number = port.number)

/-- The turn of the port at `index`. Descending turns are the ascending ones backwards. -/
def rank (tieBreak : TieBreak) (ports : List PortId) (index : Nat) (port : PortId) : Nat :=
  match tieBreak with
  | .ascending => ascendingRank ports index port
  | .descending => ports.length - 1 - ascendingRank ports index port

end Crossbar

/-- Lanes, slots and the map that says which slot a request is for. A slot serves one lane at a
time: it forwards the lane's request to its slave, waits for the acknowledge, and hands it back in
the next cycle. At the agents behind lanes and slots the crossbar does not look. -/
structure Crossbar (MasterAgent SlaveAgent : Type) where
  map : AddressMap
  lanes : List (Crossbar.Lane MasterAgent)
  slots : List (Crossbar.Slot SlaveAgent)
  /-- Requests refused so far because no slot decodes their address. -/
  decodeErrors : Nat := 0

namespace Crossbar

variable {MasterAgent SlaveAgent : Type}

def create (map : AddressMap) (masters : List (PortId × MasterAgent))
    (slaves : List (PortId × SlaveAgent)) (tieBreak : TieBreak) :
    Crossbar MasterAgent SlaveAgent where
  map := map
  lanes := masters.mapIdx fun index (port, agent) =>
    { port, rank := rank tieBreak (masters.map (·.1)) index port, agent }
  slots := slaves.map fun (port, agent) => { port, agent }

def isIdle (crossbar : Crossbar MasterAgent SlaveAgent) : Bool :=
  crossbar.slots.all (·.phase = .idle)

def slot? (crossbar : Crossbar MasterAgent SlaveAgent) (port : PortId) :
    Option (Slot SlaveAgent) :=
  crossbar.slots.find? (·.port = port)

def servedPort? (crossbar : Crossbar MasterAgent SlaveAgent) (slot : Slot SlaveAgent) :
    Option PortId :=
  slot.phase.lane?.bind fun lane => crossbar.lanes[lane]?.map (·.port)

end Crossbar

end BusFabric
