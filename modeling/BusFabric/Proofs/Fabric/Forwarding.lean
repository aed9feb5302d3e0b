import BusFabric.Proofs.Fabric.Ending
import BusFabric.Proofs.Fabric.SerialDevices

set_option autoImplicit false

namespace BusFabric

namespace Crossbar

/-- The turns that are left in the round of a waiting lane after a grant to rank `last`. -/
def turnsLeft (size goal : Nat) : Option Nat → Nat
  | none => 2 * size + 1
  | some last => 2 * size - turn size goal last

theorem turnsLeft_lt_of_pick {candidates : List Candidate} {last : Option Nat} {size : Nat}
    {waiting picked : Candidate} (waits : waiting ∈ candidates)
    (chosen : pick candidates last = some picked) (passed : picked.rank ≠ waiting.rank)
    (small : ∀ rank, last = some rank → rank < size) :
    turnsLeft size waiting.rank (some picked.rank) < turnsLeft size waiting.rank last := by
  cases last with
  | none =>
    dsimp only [turnsLeft]
    omega
  | some rank =>
    have before := small rank rfl
    have later := turn_lt_of_pick waits chosen passed before
    have bound : turn size waiting.rank rank < 2 * size := by
      unfold turn
      split <;> omega
    dsimp only [turnsLeft]
    omega

end Crossbar

namespace Fabric

open Crossbar (Candidate Engaged Lane Ranked Seating Slot Stage turnsLeft turnsLeft_lt_of_pick)
open Simple (Link Request)

section

variable {fabric : Fabric} {stages : Nat → Stage} {left : Nat → Nat} {size place index : Nat}
  {request : Request}

theorem frame_afterMasters (fabric : Fabric) :
    fabric.afterMasters.frame = fabric.crossbar.frame := by
  have rank (lane : Lane MasterAgent) : (tickLane fabric.cycle lane).1.rank = lane.rank := by
    unfold tickLane
    split <;> rfl
  simp [Crossbar.frame, afterMasters, tickLane_port, rank]

theorem frame_tick (fabric : Fabric) : fabric.tick.crossbar.frame = fabric.crossbar.frame := by
  have port (slot : Slot SlaveAgent) : (tickSlot fabric.cycle slot).1.port = slot.port := by
    rw [Serves.tickSlot_frame]
  have same : fabric.tick.crossbar.frame = fabric.afterCrossbar.frame := by
    rw [tick_crossbar]
    simp [Crossbar.frame, port]
  rw [same, afterCrossbar, Crossbar.frame_tick, frame_afterMasters]

theorem frame_act (fabric : Fabric) (action : Action) :
    (fabric.act action).crossbar.frame = fabric.crossbar.frame := by
  by_cases push : action = .tick
  · rw [push]
    exact fabric.frame_tick
  · obtain ⟨change, _, pushed⟩ := fabric.act_push push
    rw [pushed]
    simp [Crossbar.frame]

theorem lastRank_tick {slot after : Slot SlaveAgent}
    (found : fabric.crossbar.slots[index]? = some slot)
    (at_ : fabric.tick.crossbar.slots[index]? = some after) :
    after.lastRank = ((fabric.granted? index).map (·.rank)).or slot.lastRank := by
  rw [tick_crossbar, List.getElem?_map, Option.map_eq_some_iff] at at_
  obtain ⟨moved, here, rfl⟩ := at_
  have before : fabric.afterMasters.slots[index]? = some slot := found
  have remembers := Crossbar.lastRank_tick before here
  rw [Serves.tickSlot_frame]
  exact remembers

theorem ranked_tick (engaged : Engaged fabric.crossbar stages) (ranked : Ranked fabric.crossbar) :
    Ranked fabric.tick.crossbar := by
  have before : Ranked fabric.afterMasters := by
    intro slot member last remembers
    rw [frame_afterMasters]
    exact ranked slot member last remembers
  have moved := before.act (engaged_afterMasters engaged) (.tick fabric.cycle)
  intro slot member last remembers
  rw [tick_crossbar] at member
  obtain ⟨held, listed, rfl⟩ := List.mem_map.mp member
  rw [Serves.tickSlot_frame] at remembers
  have known := moved held listed last remembers
  rwa [Crossbar.frame_act, frame_afterMasters, ← frame_tick] at known

/-- The slots take turns among the lanes, and each slave answers. -/
structure Fair (fabric : Fabric) (stages : Nat → Stage) (left : Nat → Nat) (size : Nat) : Prop
    extends Attended fabric stages left where
  ranked : Ranked fabric.crossbar
  seating : Seating fabric.crossbar.frame.roster size

theorem Fair.tick (fair : Fair fabric stages left size) :
    ∃ after, Fair fabric.tick (fabric.nextStages stages) after size ∧
      ∀ index, fabric.granted? index = none → after index = left index - 1 := by
  obtain ⟨after, attended, goesOn⟩ := fair.toAttended.tick
  refine ⟨after, ⟨attended, ranked_tick fair.toEngaged fair.ranked, ?_⟩, goesOn⟩
  rw [frame_tick]
  exact fair.seating

theorem Fair.act (fair : Fair fabric stages left size) (action : Action) :
    ∃ next after, Fair (fabric.act action) next after size := by
  by_cases push : action = .tick
  · rw [push]
    obtain ⟨after, moved, _⟩ := fair.tick
    exact ⟨_, after, moved⟩
  · refine ⟨stages, left, fair.toAttended.push push, ?_, ?_⟩
    · obtain ⟨change, _, pushed⟩ := fabric.act_push push
      have same := fabric.frame_act action
      intro slot member
      rw [same]
      rw [pushed] at member
      exact fair.ranked slot member
    · rw [frame_act]
      exact fair.seating

theorem Fair.play (fair : Fair fabric stages left size) (actions : List Action) :
    ∃ next after, Fair (fabric.play actions) next after size := by
  induction actions generalizing fabric stages left with
  | nil => exact ⟨stages, left, fair⟩
  | cons action rest ih =>
    obtain ⟨_, _, moved⟩ := fair.act action
    exact ih moved

theorem fair_build {config : Config} (built : build config = .ok fabric) :
    ∃ left size, Fair fabric (fun _ => .idle) left size := by
  obtain ⟨staffed, left, attended⟩ := staffed_build built
  obtain ⟨_, parts, _, _, _, rfl⟩ := build_parts built
  have order := lanes_create parts.map.freeze parts.masters parts.slaves config.tieBreak
  have apart : (parts.masters.map (·.1)).Nodup := by
    rw [← order, List.map_map]
    exact staffed.lanes
  exact ⟨left, _, attended, Crossbar.ranked_create _ _ _ _, Crossbar.seating_create _ _ _ _ apart⟩

/-- The request that the lane at a place puts to the crossbar in a cycle, if no slot has it. -/
def asks? (fabric : Fabric) (place : Nat) : Option Request :=
  fabric.afterMasters.lanes[place]?.bind (·.wants?)

theorem target?_afterMasters (fabric : Fabric) (address : Address) :
    fabric.afterMasters.target? address = fabric.crossbar.target? address :=
  Crossbar.target?_congr fabric.frame_afterMasters address

/-- What is put to the crossbar stays for the next cycle, unless it is forwarded. -/
theorem asks?_tick (engaged : Engaged fabric.crossbar stages)
    (asks : fabric.asks? place = some request)
    (target : fabric.crossbar.target? request.address = some index)
    (passed : ∀ candidate, fabric.granted? index = some candidate → candidate.lane ≠ place) :
    fabric.tick.asks? place = some request := by
  obtain ⟨lane, found, wants⟩ := Option.bind_eq_some_iff.mp asks
  have aim := (fabric.target?_afterMasters request.address).trans target
  obtain ⟨after, here, _, _, still⟩ :=
    (engaged_afterMasters engaged).waits_act (.tick fabric.cycle) found wants aim
      fun _ candidate _ granted => passed candidate granted
  obtain ⟨unserved, waits⟩ := Crossbar.Lane.wants?_eq_some.mp still
  have kept : fabric.tick.crossbar.lanes[place]? = some after := by
    rw [tick_crossbar]
    exact here
  apply Option.bind_eq_some_iff.mpr
  refine ⟨(tickLane fabric.tick.cycle after).1, ?_, ?_⟩
  · rw [afterMasters, List.getElem?_map, kept]
    rfl
  · apply Crossbar.Lane.wants?_eq_some.mpr
    exact ⟨(tickLane_isServed _ after).trans unserved, tickLane_keeps _ after request waits⟩

theorem Fair.place_eq_of_rank (fair : Fair fabric stages left size) {port : PortId} {goal : Nat}
    (seated : fabric.crossbar.frame.roster[place]? = some (port, goal)) {candidate : Candidate}
    (granted : fabric.granted? index = some candidate) (same : candidate.rank = goal) :
    candidate.lane = place := by
  have engaged := engaged_afterMasters fair.toEngaged
  obtain ⟨lane, here, owner, rank, _⟩ := engaged.granted?_lane granted
  have listed := engaged.rank_mem granted
  have sits : fabric.crossbar.frame.roster[candidate.lane]? = some (lane.port, lane.rank) := by
    rw [← frame_afterMasters]
    simp [Crossbar.frame, here]
  rw [frame_afterMasters] at listed
  have alike : candidate.port = port :=
    fair.seating.injective _ listed _ (List.mem_of_getElem? seated) same
  apply (List.getElem?_inj ?_ fair.seating.apart).mp
  · rw [List.getElem?_map, List.getElem?_map, seated, sits, ← owner, alike]
    rfl
  · rw [List.length_map]
    exact (List.getElem?_eq_some_iff.mp sits).1

theorem Fair.turnsLeft_lt (fair : Fair fabric stages left size) {port : PortId} {goal : Nat}
    (seated : fabric.crossbar.frame.roster[place]? = some (port, goal))
    (asks : fabric.asks? place = some request)
    (target : fabric.crossbar.target? request.address = some index)
    {slot : Slot SlaveAgent} (found : fabric.crossbar.slots[index]? = some slot)
    {candidate : Candidate} (granted : fabric.granted? index = some candidate)
    (passed : candidate.lane ≠ place) :
    turnsLeft size goal (some candidate.rank) < turnsLeft size goal slot.lastRank := by
  have engaged := engaged_afterMasters fair.toEngaged
  obtain ⟨lane, here, wants⟩ := Option.bind_eq_some_iff.mp asks
  have aim := (fabric.target?_afterMasters request.address).trans target
  have waits := engaged.mem_candidates_of_waits here wants aim
  have chosen : Crossbar.pick (fabric.afterMasters.serve.refuseLost.candidates index)
      slot.lastRank = some candidate := Engaged.granted?_pick found granted
  have rank : lane.rank = goal := by
    rw [← frame_afterMasters] at seated
    simpa [Crossbar.frame, here] using congrArg (Option.map (·.2)) seated
  rw [← rank]
  refine turnsLeft_lt_of_pick waits chosen ?_ ?_
  · intro same
    exact passed (fair.place_eq_of_rank seated granted (same.trans rank))
  · intro last remembers
    have known := fair.ranked slot (List.mem_of_getElem? found) last remembers
    obtain ⟨seat, listed, rfl⟩ := List.mem_map.mp known
    exact fair.seating.small seat listed

/-- In a cycle a lane that waits is forwarded, or some other one is, or its slot comes closer to
being free. -/
theorem Fair.waits_tick (fair : Fair fabric stages left size) {port : PortId} {goal : Nat}
    (seated : fabric.crossbar.frame.roster[place]? = some (port, goal))
    (asks : fabric.asks? place = some request)
    (target : fabric.crossbar.target? request.address = some index)
    {slot : Slot SlaveAgent} (found : fabric.crossbar.slots[index]? = some slot) :
    fabric.forwarded? index = some (place, request) ∨
      fabric.tick.asks? place = some request ∧
      ∃ next after, Fair fabric.tick (fabric.nextStages stages) after size ∧
        fabric.tick.crossbar.slots[index]? = some next ∧
        (turnsLeft size goal next.lastRank < turnsLeft size goal slot.lastRank ∨
          next.lastRank = slot.lastRank ∧
            stageWork (fabric.nextStages stages index) + after index <
              stageWork (stages index) + left index) := by
  have engaged := engaged_afterMasters fair.toEngaged
  obtain ⟨lane, here, wants⟩ := Option.bind_eq_some_iff.mp asks
  have aim := (fabric.target?_afterMasters request.address).trans target
  have within := (List.getElem?_eq_some_iff.mp found).1
  obtain ⟨next, final⟩ : ∃ next, fabric.tick.crossbar.slots[index]? = some next :=
    ⟨_, List.getElem?_eq_getElem (fabric.length_slots_tick ▸ within)⟩
  have remembers := lastRank_tick found final
  obtain ⟨after, moved, goesOn⟩ := fair.tick
  cases granted : fabric.granted? index with
  | some candidate =>
    by_cases chosen : candidate.lane = place
    · left
      obtain ⟨held, same, _, _, its, _⟩ := engaged.granted?_lane granted
      rw [chosen, here] at same
      cases same
      rw [wants, Option.some.injEq] at its
      rw [forwarded?_eq fair.toConsistent found, granted, Option.map_some, chosen, its]
    · -- the lane is passed by, which happens once in a round for each of the others
      right
      rw [granted] at remembers
      have still := asks?_tick fair.toEngaged asks target fun other given => by
        rw [granted, Option.some.injEq] at given
        rwa [← given]
      refine ⟨still, next, after, moved, final, .inl ?_⟩
      rw [remembers]
      exact fair.turnsLeft_lt seated asks target found granted chosen
  | none =>
    -- a slot that had no work left would be granted, so this one has some
    right
    rw [granted] at remembers
    have still := asks?_tick fair.toEngaged asks target fun other given => by
      rw [granted] at given
      cases given
    refine ⟨still, next, after, moved, final, .inr ⟨remembers, ?_⟩⟩
    rw [goesOn index granted]
    apply (fair.slot_tick within granted).2
    intro idle
    apply engaged.granted?_ne_none here wants aim _ granted
    rw [idle]
    rfl

/-- What is put to the crossbar for a slot is forwarded to it after some cycles, and stays put until
then. -/
theorem Fair.forwards {fabric : Fabric} {stages : Nat → Stage} {left : Nat → Nat}
    (fair : Fair fabric stages left size) {port : PortId} {goal : Nat}
    (seated : fabric.crossbar.frame.roster[place]? = some (port, goal))
    (asks : fabric.asks? place = some request)
    (target : fabric.crossbar.target? request.address = some index)
    {slot : Slot SlaveAgent} (found : fabric.crossbar.slots[index]? = some slot) :
    ∃ count, (∀ earlier ≤ count, (fabric.ticks earlier).asks? place = some request) ∧
      (fabric.ticks count).forwarded? index = some (place, request) := by
  rcases fair.waits_tick seated asks target found with now |
    ⟨still, next, after, moved, final, less⟩
  · refine ⟨0, ?_, now⟩
    intro earlier first
    rw [Nat.le_zero.mp first]
    exact asks
  · have seatedAfter := fabric.frame_tick ▸ seated
    have targetAfter := (Crossbar.target?_congr fabric.frame_tick request.address).trans target
    obtain ⟨count, waits, forwarded⟩ := moved.forwards seatedAfter still targetAfter final
    refine ⟨count + 1, ?_, forwarded⟩
    intro earlier before
    cases earlier with
    | zero => exact asks
    | succ earlier => exact waits earlier (Nat.le_of_succ_le_succ before)
termination_by (turnsLeft size goal slot.lastRank, stageWork (stages index) + left index)
decreasing_by
  rcases less with turns | ⟨same, work⟩
  · exact .left _ _ turns
  · rw [same]
    exact .right _ work

end

end Fabric

end BusFabric
