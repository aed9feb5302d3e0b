import BusFabric.Crossbar.Tick
import BusFabric.Fabric.Basic

set_option autoImplicit false

namespace BusFabric

open Bridge (Inbound Outbound)

namespace Fabric

/-- One cycle of a master: it plays, then its bridge, if any, moves on. -/
def tickLane (cycle : Nat) (lane : Crossbar.Lane MasterAgent) :
    Crossbar.Lane MasterAgent × Option ProtocolFault :=
  match lane.agent with
  | .split script split bridge =>
    let (script, split) := script.tick split cycle
    let (junction, fault) := Inbound.Junction.tick ⟨bridge, split, lane.link⟩ cycle
    ({ lane with
        agent := .split script junction.split junction.bridge
        link := junction.simple }, fault)
  | .simple script =>
    let (script, link) := script.tick lane.link cycle
    ({ lane with agent := .simple script, link }, none)

/-- One cycle of a slave: its bridge, if any, moves on before it does. -/
def tickSlot (cycle : Nat) (slot : Crossbar.Slot SlaveAgent) :
    Crossbar.Slot SlaveAgent × Option ProtocolFault :=
  match slot.agent with
  | .split bridge split ram =>
    let (junction, fault) := Outbound.Junction.tick ⟨bridge, slot.link, split⟩ cycle
    let (ram, split) := ram.tick junction.split
    ({ slot with
        agent := .split junction.bridge split ram
        link := junction.simple }, fault)
  | .device endpoint =>
    let (endpoint, link) := endpoint.tick slot.link
    ({ slot with agent := .device endpoint, link }, none)

/-- One cycle of the fabric: the masters and their bridges, then the crossbar, then the slaves. A
fault halts the bridge that saw it and is put on record; everything else goes on. -/
def tick (fabric : Fabric) : Fabric :=
  let lanes := fabric.crossbar.lanes.map (tickLane fabric.cycle)
  let crossbar := { fabric.crossbar with lanes := lanes.map Prod.fst }
  let (crossbar, grants) := crossbar.tick fabric.cycle
  let slots := crossbar.slots.map (tickSlot fabric.cycle)
  { fabric with
    cycle := fabric.cycle + 1
    crossbar := { crossbar with slots := slots.map Prod.fst }
    faults := fabric.faults.appendList (lanes.filterMap Prod.snd ++ slots.filterMap Prod.snd)
    grants := if fabric.recordsGrants then fabric.grants.appendList grants else fabric.grants }

def ticks (fabric : Fabric) : Nat → Fabric
  | 0 => fabric
  | cycles + 1 => fabric.tick.ticks cycles

end Fabric

end BusFabric
