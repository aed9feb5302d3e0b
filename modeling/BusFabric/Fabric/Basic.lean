import BusFabric.Bridge.Inbound
import BusFabric.Bridge.Outbound
import BusFabric.Crossbar.Basic
import BusFabric.Device.Endpoint
import BusFabric.Fabric.Config
import BusFabric.Simple.Master
import BusFabric.Split.Master
import BusFabric.Split.Ram

set_option autoImplicit false

namespace BusFabric

open Bridge (Inbound Outbound)

namespace Fabric

/-- What stands behind a lane: a script, with a bridge in front if it plays on the split bus. -/
inductive MasterAgent where
  | split (script : Split.Master) (link : Split.Link) (bridge : Inbound)
  | simple (script : Simple.Master)

/-- What stands behind a slot: a device, or a memory that is reached over a bridge. -/
inductive SlaveAgent where
  | split (bridge : Outbound) (link : Split.Link) (ram : Split.Ram)
  | device (endpoint : Device.Endpoint)

/-- The script is played and nothing is owed to it, or it is stuck behind a halted bridge. -/
def MasterAgent.isSettled : MasterAgent → Bool
  | split script _ bridge => bridge.isHalted || (script.isDone && bridge.isIdle)
  | simple script => script.isDone

/-- No request is under way. A halted bridge answers whatever comes. -/
def SlaveAgent.isSettled (agent : SlaveAgent) (link : Simple.Link) : Bool :=
  match agent with
  | split bridge _ ram => bridge.isHalted || (bridge.isIdle && ram.isIdle && link.isIdle)
  | device _ => link.isIdle

end Fabric

open Fabric (MasterAgent SlaveAgent)

/-- A fabric that was built, at some cycle of its run: a crossbar with an agent behind every lane
and every slot. -/
structure Fabric where
  cycle : Nat := 0
  /-- Width of the shared simple bus in bits. -/
  width : Nat
  crossbar : Crossbar MasterAgent SlaveAgent
  layout : RegisterBank.Layout
  platform : Option Platform
  /-- Protocol violations so far, in order. -/
  faults : Array ProtocolFault := #[]
  recordsGrants : Bool
  /-- Grants so far, in order, if they are kept. -/
  grants : Array Grant := #[]

namespace Fabric

/-- The address map, which never changes while the fabric runs. -/
def map (fabric : Fabric) : AddressMap :=
  fabric.crossbar.map

/-- Every script is played and nothing is under way. -/
def isIdle (fabric : Fabric) : Bool :=
  fabric.crossbar.lanes.all (·.agent.isSettled) && fabric.crossbar.isIdle &&
    fabric.crossbar.slots.all fun slot => slot.agent.isSettled slot.link

def splitMaster? (fabric : Fabric) (port : PortId) : Option (Split.Master × Inbound) :=
  fabric.crossbar.lanes.findSome? fun lane =>
    match lane.agent with
    | .split script _ bridge => if lane.port = port then some (script, bridge) else none
    | .simple _ => none

def simpleMaster? (fabric : Fabric) (port : PortId) : Option Simple.Master :=
  fabric.crossbar.lanes.findSome? fun lane =>
    match lane.agent with
    | .simple script => if lane.port = port then some script else none
    | .split _ _ _ => none

/-- The memory behind a split-transaction slave. -/
def ram? (fabric : Fabric) (port : PortId) : Option Split.Ram :=
  fabric.crossbar.slots.findSome? fun slot =>
    match slot.agent with
    | .split _ _ ram => if slot.port = port then some ram else none
    | .device _ => none

/-- The device behind a simple-bus slave or the register bus. -/
def device? (fabric : Fabric) (port : PortId) : Option Device.Endpoint :=
  fabric.crossbar.slots.findSome? fun slot =>
    match slot.agent with
    | .device endpoint => if slot.port = port then some endpoint else none
    | .split _ _ _ => none

def modifyMaster (fabric : Fabric) (port : PortId) (change : MasterAgent → MasterAgent) : Fabric :=
  { fabric with crossbar := { fabric.crossbar with
      lanes := fabric.crossbar.lanes.map fun lane =>
        if lane.port = port then { lane with agent := change lane.agent } else lane } }

/-- Appends an operation to the script of a split-transaction master. -/
def pushSplit (fabric : Fabric) (port : PortId) (op : Split.Op) : Except ConfigError Fabric :=
  match fabric.splitMaster? port with
  | none => .error (.unknownPort port)
  | some _ => .ok <| fabric.modifyMaster port fun agent =>
    match agent with
    | .split script link bridge => .split (script.push op) link bridge
    | .simple script => .simple script

def pushSimple (fabric : Fabric) (port : PortId) (request : Simple.Request) :
    Except ConfigError Fabric :=
  match fabric.simpleMaster? port with
  | none => .error (.unknownPort port)
  | some _ => .ok <| fabric.modifyMaster port fun agent =>
    match agent with
    | .simple script => .simple (script.push request)
    | .split script link bridge => .split script link bridge

end Fabric

end BusFabric
