import BusFabric.Fabric.Tick
import BusFabric.Proofs.Crossbar.Pair
import BusFabric.Proofs.Fabric.Play
import BusFabric.Proofs.Fabric.Store

set_option autoImplicit false

namespace BusFabric.Fabric

open Crossbar (Lane Slot pair)
open Simple (Request Response)

/-- Some cycles later something holds. -/
def Eventually (holds : Fabric → Prop) (fabric : Fabric) : Prop :=
  ∃ cycles, holds (fabric.ticks cycles)

theorem Eventually.now {holds : Fabric → Prop} {fabric : Fabric} (now : holds fabric) :
    Eventually holds fabric :=
  ⟨0, now⟩

theorem Eventually.next {holds : Fabric → Prop} {fabric : Fabric}
    (next : Eventually holds fabric.tick) : Eventually holds fabric := by
  obtain ⟨cycles, later⟩ := next
  exact ⟨cycles + 1, later⟩

theorem Eventually.bind {first second : Fabric → Prop} {fabric : Fabric}
    (eventually : Eventually first fabric)
    (goes : ∀ later, first later → Eventually second later) : Eventually second fabric := by
  obtain ⟨cycles, reached⟩ := eventually
  obtain ⟨more, final⟩ := goes _ reached
  exact ⟨cycles + more, by rw [ticks_add]; exact final⟩

variable {frame : Crossbar MasterAgent SlaveAgent} {lane moved routed : Lane MasterAgent}
  {slot granted served : Slot SlaveAgent}

/-- A cycle without faults, part by part. -/
theorem tick_of_pair {fabric : Fabric} (crossbar : fabric.crossbar = pair frame lane slot)
    (masters : tickLane fabric.cycle lane = (moved, none))
    (routes : ((pair frame moved slot).tick fabric.cycle).1 = pair frame routed granted)
    (slaves : tickSlot fabric.cycle granted = (served, none)) :
    fabric.tick.crossbar = pair frame routed served ∧ fabric.tick.faults = fabric.faults ∧
      fabric.tick.cycle = fabric.cycle + 1 := by
  have alone : fabric.crossbar.lanes = [lane] := by
    rw [crossbar]
    rfl
  have entry : { fabric.crossbar with lanes := [moved] } = pair frame moved slot := by
    rw [crossbar]
    rfl
  have crosses := congrArg (·.tick fabric.cycle) entry
  have served' : (pair frame routed granted).slots.map (tickSlot fabric.cycle) =
      [served].map (·, none) :=
    congrArg (List.cons · []) slaves
  rw [tick_of_lane alone masters (crosses.trans (Prod.ext routes rfl)) served']
  exact ⟨rfl, rfl, rfl⟩

/-- A fabric between two requests: its slave is at rest and holds `bytes`. -/
structure Between (rests : (Address → Byte) → SlaveAgent → Prop)
    (frame : Crossbar MasterAgent SlaveAgent) (port : PortId) (faults : Array ProtocolFault)
    (lane : Lane MasterAgent) (bytes : Address → Byte) (fabric : Fabric) : Prop where
  crossbar : ∃ slot, fabric.crossbar = pair frame lane slot ∧ slot.port = port ∧
    slot.phase = .idle ∧ slot.link = .idle ∧ rests bytes slot.agent
  faults : fabric.faults = faults
  unserved : lane.isServed = false

def KeepsWaiting (waits : MasterAgent → Prop) : Prop :=
  ∀ cycle (lane : Lane MasterAgent) request, waits lane.agent → lane.link = .waiting request →
    ∃ agent, tickLane cycle lane = ({ lane with agent }, none) ∧ waits agent

section

variable {simpleBytes : Nat} {isServed : Address → Prop} {place : Address → Address}
  {rests : (Address → Byte) → SlaveAgent → Prop} {port : PortId} {faults : Array ProtocolFault}
  {bytes : Address → Byte} {fabric : Fabric} {waits : MasterAgent → Prop} {request : Request}
  {response : Response}

/-- The slave takes its time with a request that was just granted, or was granted before. -/
theorem serve_pair (keeps : KeepsWaiting waits) {count : Nat} {after : Slot SlaveAgent}
    (serves : Serves request response granted count after)
    (crossbar : fabric.crossbar = pair frame lane slot)
    (masters : tickLane fabric.cycle lane = (moved, none))
    (routes : ((pair frame moved slot).tick fabric.cycle).1 = pair frame routed granted)
    (phase : granted.phase = .granted 0) (holds : routed.isServed = true)
    (asks : routed.link = .waiting request) (ready : waits routed.agent) :
    Eventually (fun later => ∃ agent, waits agent ∧ later.faults = fabric.faults ∧
      later.crossbar = pair frame { routed with agent } after) fabric ∧
      after.port = granted.port ∧ after.phase = .granted 0 := by
  induction serves generalizing fabric lane moved slot routed with
  | answers _ ticks _ =>
    obtain ⟨next, noted, _⟩ := tick_of_pair crossbar masters routes (ticks fabric.cycle)
    obtain ⟨named, same⟩ := tickSlot_side (ticks 0)
    exact ⟨.next (.now ⟨routed.agent, ready, noted, next⟩), named, same.trans phase⟩
  | @waits granted going after count _ ticks rest ih =>
    obtain ⟨next, noted, _⟩ := tick_of_pair crossbar masters routes (ticks fabric.cycle)
    obtain ⟨named, same⟩ := tickSlot_side (ticks 0)
    obtain ⟨agent, again, ready⟩ := keeps fabric.tick.cycle routed request ready asks
    have stays := Crossbar.tick_wait frame { routed with agent } fabric.tick.cycle
      (same.trans phase) rest.waiting holds
    obtain ⟨serves, port, granted⟩ := ih next again stays (same.trans phase) holds asks ready
    rw [noted] at serves
    exact ⟨serves.next, port.trans named, granted⟩

variable (store : Store simpleBytes isServed place rests)

include store

theorem Between.quiet (between : Between rests frame port faults lane bytes fabric)
    (masters : tickLane fabric.cycle lane = (moved, none))
    (settled : moved.link.awaiting? = none) :
    Between rests frame port faults moved bytes fabric.tick ∧
      fabric.tick.cycle = fabric.cycle + 1 := by
  obtain ⟨⟨slot, crossbar, named, idle, free, resting⟩, noted, unserved⟩ := between
  have same := tickLane_isServed fabric.cycle lane
  rw [masters] at same
  obtain ⟨following, link, rest, ticks⟩ := store.waits slot resting (by rw [free]; rfl)
  obtain ⟨port, phase⟩ := tickSlot_side (ticks fabric.cycle)
  have routes := Crossbar.tick_idle frame moved fabric.cycle idle settled
  obtain ⟨next, faults, cycle⟩ := tick_of_pair crossbar masters routes (ticks fabric.cycle)
  exact ⟨⟨⟨following, next, port.trans named, phase.trans idle, link.trans free, rest⟩,
    faults.trans noted, same.trans unserved⟩, cycle⟩

theorem Between.carries (keeps : KeepsWaiting waits)
    (between : Between rests frame port faults lane bytes fabric)
    (masters : tickLane fabric.cycle lane = (moved, none)) (asks : moved.link = .waiting request)
    (ready : waits moved.agent) (owned : frame.map.decode request.address = some port)
    (inside : isServed request.address) :
    Eventually (fun later => ∃ agent, waits agent ∧
      Between rests frame port faults
        { moved with
          agent
          isServed := false
          link := .answered request (reply simpleBytes (place request.address) request bytes) }
        (updated simpleBytes (place request.address) request bytes) later) fabric := by
  obtain ⟨⟨slot, crossbar, named, idle, free, resting⟩, noted, unserved⟩ := between
  have same := tickLane_isServed fabric.cycle lane
  rw [masters] at same
  have routes := Crossbar.tick_grant frame moved fabric.cycle idle free
    (same.trans unserved) asks (by rw [named]; exact owned)
  obtain ⟨count, after, serves, rest⟩ := store.serves { slot with
    phase := .granted 0
    lastRank := some moved.rank
    link := .waiting request } resting rfl inside
  obtain ⟨answered, named', phase⟩ :=
    serve_pair keeps serves crossbar masters routes rfl rfl asks ready
  refine answered.bind ?_
  rintro fabric ⟨agent, ready, silent, crossbar⟩
  -- the acknowledge is taken
  obtain ⟨agent, masters, ready⟩ := keeps fabric.cycle { moved with agent, isServed := true }
    request ready asks
  have routes := Crossbar.tick_take frame { moved with agent, isServed := true } fabric.cycle phase
    serves.answered rfl
  obtain ⟨following, link, rest, ticks⟩ := store.waits { after with
    phase := .completing 0 (reply simpleBytes (place request.address) request bytes)
    link := .idle } rest rfl
  obtain ⟨port', phase'⟩ := tickSlot_side (ticks fabric.cycle)
  obtain ⟨crossbar, noted', _⟩ := tick_of_pair crossbar masters routes (ticks _)
  -- the acknowledge is handed over
  obtain ⟨agent, masters, ready⟩ := keeps fabric.tick.cycle { moved with agent, isServed := true }
    request ready asks
  have routes := Crossbar.tick_deliver frame { moved with agent, isServed := true }
    fabric.tick.cycle phase' asks
  obtain ⟨final, free', rest, ticks⟩ := store.waits { following with phase := .idle } rest
    (by dsimp only; rw [link]; rfl)
  obtain ⟨port'', phase''⟩ := tickSlot_side (ticks fabric.tick.cycle)
  obtain ⟨crossbar, noted'', _⟩ := tick_of_pair crossbar masters routes (ticks _)
  have back : Between rests frame port faults _ _ fabric.tick.tick :=
    ⟨⟨final, crossbar, port''.trans (port'.trans (named'.trans named)), phase'',
      free'.trans link, rest⟩, noted''.trans (noted'.trans (silent.trans noted)), rfl⟩
  exact .next (.next (.now ⟨agent, ready, back⟩))

end

end BusFabric.Fabric
