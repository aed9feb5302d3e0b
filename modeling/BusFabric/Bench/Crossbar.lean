import BusFabric.Crossbar.Tick

set_option autoImplicit false

namespace BusFabric.Bench

/-- A crossbar with nothing behind its lanes and slots. -/
abbrev BareCrossbar := Crossbar Unit Unit

/-- The simple-bus slave to which a bench gives a window. -/
def bareSlave (owner : PortId) : Port where
  id := owner
  name := s!"w{owner.number}"
  protocol := .simpleSync
  role := .slave
  dataWidth := 32
  addressWidth := 64

def bareMap (windows : List (PortId × Address × Nat)) : Except MapError AddressMap :=
  windows.foldlM (fun map (owner, base, size) => map.register? (bareSlave owner) base size) {}

namespace BareCrossbar

/-- The master behind a lane takes its acknowledge and raises a request. -/
def request (crossbar : BareCrossbar) (lane : Nat) (request : Simple.Request) : BareCrossbar :=
  { crossbar with
    lanes := crossbar.lanes.modify lane fun lane =>
      { lane with link := (lane.link.completed.issue? request).getD lane.link.completed } }

/-- Every slave that holds a request acknowledges it with its address for data. -/
def acknowledgeAll (crossbar : BareCrossbar) : BareCrossbar :=
  { crossbar with
    slots := crossbar.slots.map fun slot =>
      match slot.link.awaiting? with
      | some request =>
        { slot with link := slot.link.acknowledge (.ok (request.address.setWidth 128)) }
      | none => slot }

def churn (requests : List (Nat × Simple.Request)) :
    Nat → Nat → BareCrossbar → BareCrossbar × List Grant
  | 0, _, crossbar => (crossbar, [])
  | cycles + 1, cycle, crossbar =>
    let crossbar := requests.foldl (fun crossbar (lane, r) => request crossbar lane r) crossbar
    let (crossbar, grants) := crossbar.tick cycle
    let (crossbar, later) := churn requests cycles (cycle + 1) (acknowledgeAll crossbar)
    (crossbar, grants ++ later)

end BareCrossbar

end BusFabric.Bench
