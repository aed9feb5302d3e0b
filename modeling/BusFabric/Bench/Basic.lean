import BusFabric.Bridge.Inbound
import BusFabric.Bridge.Outbound
import BusFabric.Device.Endpoint
import BusFabric.Simple.Master
import BusFabric.Split.Master
import BusFabric.Split.Ram

set_option autoImplicit false

namespace BusFabric.Bench

open Bridge (Inbound Outbound)

inductive Component where
  | none
  | inbound (bridge : Inbound)
  | outbound (bridge : Outbound)
  | ram (ram : Split.Ram)
  | splitMaster (script : Split.Master)
  | simpleMaster (script : Simple.Master)
  | device (endpoint : Device.Endpoint)

end Bench

open Bench (Component)

/-- A component, the links on either side of it, and the cycle that comes next. -/
structure Bench where
  component : Component
  split : Split.Link := {}
  simple : Simple.Link := .idle
  cycle : Nat := 0

namespace Bench

open Bridge (Inbound Outbound)

def step (bench : Bench) : Bench × Option ProtocolFault :=
  match bench.component with
  | .none => (bench, none)
  | .inbound bridge =>
    let (junction, fault) :=
      Inbound.Junction.tick ⟨bridge, bench.split, bench.simple⟩ bench.cycle
    ({ bench with
        component := .inbound junction.bridge
        split := junction.split
        simple := junction.simple }, fault)
  | .outbound bridge =>
    let (junction, fault) :=
      Outbound.Junction.tick ⟨bridge, bench.simple, bench.split⟩ bench.cycle
    ({ bench with
        component := .outbound junction.bridge
        split := junction.split
        simple := junction.simple }, fault)
  | .ram ram =>
    let (ram, split) := ram.tick bench.split
    ({ bench with component := .ram ram, split }, none)
  | .splitMaster script =>
    let (script, split) := script.tick bench.split bench.cycle
    ({ bench with component := .splitMaster script, split }, none)
  | .simpleMaster script =>
    let (script, simple) := script.tick bench.simple bench.cycle
    ({ bench with component := .simpleMaster script, simple }, none)
  | .device endpoint =>
    let (endpoint, simple) := endpoint.tick bench.simple
    ({ bench with component := .device endpoint, simple }, none)

def tick (bench : Bench) : Bench × Option ProtocolFault :=
  let (bench, fault) := bench.step
  ({ bench with cycle := bench.cycle + 1 }, fault)

/-- Up to `cycles` cycles; a fault ends them. -/
def run (bench : Bench) : Nat → Bench × Option ProtocolFault
  | 0 => (bench, none)
  | cycles + 1 =>
    match bench.tick with
    | (bench, none) => bench.run cycles
    | stopped => stopped

end Bench

end BusFabric
