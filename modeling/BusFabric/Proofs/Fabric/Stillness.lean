import BusFabric.Proofs.Crossbar.Quiet
import BusFabric.Proofs.Fabric.Ending
import BusFabric.Proofs.Fabric.Lanes

set_option autoImplicit false

namespace BusFabric.Fabric

open Bridge (Inbound Outbound)
open Crossbar (Lane Phase Slot Stage)
open Simple (Link Request Response)
open Split (Ram)

/-- A memory that reads nothing has not begun to wait. -/
def SlaveAgent.IsTidy : SlaveAgent → Prop
  | split _ _ ram => ram.read = none → ram.waited = 0
  | device _ => True

/-- A memory that reads nothing begins anew with the next address. -/
theorem acceptRead_tidy (ram : Ram) (link : Split.Link)
    (idle : (ram.acceptRead link).1.read = none) : (ram.acceptRead link).1.waited = 0 := by
  unfold Ram.acceptRead at idle ⊢
  split
  · rename_i reads
    rw [reads] at idle
    cases reads.symm.trans idle
  · rfl

theorem driveBeat_tidy {ram : Ram} (link : Split.Link)
    (tidy : ram.read = none → ram.waited = 0) (idle : (ram.driveBeat link).1.read = none) :
    (ram.driveBeat link).1.waited = 0 := by
  unfold Ram.driveBeat at idle ⊢
  cases reads : ram.read with
  | none =>
    rw [reads] at tidy
    exact tidy rfl
  | some progress =>
    rw [reads] at idle
    dsimp only at idle ⊢
    split
    · rename_i waits
      rw [if_pos waits] at idle
      cases idle
    · rename_i due
      rw [if_neg due] at idle
      split
      · rename_i full
        rw [full] at idle
        cases reads.symm.trans idle
      · rfl

theorem tickSlot_isTidy (cycle : Nat) (slot : Slot SlaveAgent) :
    (tickSlot cycle slot).1.agent.IsTidy := by
  unfold tickSlot
  split
  · exact driveBeat_tidy _ (acceptRead_tidy _ _)
  · exact True.intro

theorem Serves.isTidy {request : Request} {response : Response} {slot after : Slot SlaveAgent}
    {count : Nat} (serves : Serves request response slot count after) : after.agent.IsTidy := by
  induction serves with
  | @answers slot _ _ ticks _ =>
    have tidy := tickSlot_isTidy 0 slot
    rwa [ticks] at tidy
  | waits _ _ _ ih => exact ih

theorem slaveAgent_isTidy {config : Config} {port : Port} {agent : SlaveAgent}
    (made : slaveAgent port config = .ok agent) : agent.IsTidy := by
  unfold slaveAgent at made
  dsimp only at made
  split at made
  · split at made
    · cases made
    · rw [← Except.ok.inj made]
      exact True.intro
  · cases converts : Bridge.Conversion.between .simpleSync config.width port.protocol
      port.dataWidth with
    | error error =>
      rw [converts] at made
      cases made
    | ok conversion =>
      rw [converts] at made
      rw [← Except.ok.inj made]
      exact fun _ => rfl

def SlotsTidy (fabric : Fabric) : Prop :=
  ∀ slot ∈ fabric.crossbar.slots, slot.agent.IsTidy

theorem slotsTidy_tick (fabric : Fabric) : fabric.tick.SlotsTidy := by
  intro slot member
  rw [tick_crossbar] at member
  obtain ⟨before, _, rfl⟩ := List.mem_map.mp member
  exact tickSlot_isTidy _ before

/-- Nothing happens to a slave at rest without a request. -/
theorem SlaveAgent.IsReady.still {slot : Slot SlaveAgent} (ready : slot.agent.IsReady)
    (tidy : slot.agent.IsTidy) (settled : slot.link.awaiting? = none) (cycle : Nat) :
    tickSlot cycle slot = (slot, none) := by
  obtain ⟨port, phase, lastRank, link, agent⟩ := slot
  dsimp only at ready tidy settled
  unfold tickSlot
  cases ready with
  | device endpoint =>
    dsimp only
    unfold Device.Endpoint.tick
    rw [settled]
  | @split bridge ram regular running idle rest =>
    have waited : { ram with waited := 0 } = ram := by
      rw [← tidy rest.read]
    dsimp only
    rw [Outbound.Junction.tick_rest running idle settled cycle]
    dsimp only
    rw [Ram.tick_rest rest, waited]

/-- A lane after some cycles: it stayed as it was, or its master plays on behind a halted bridge and
completes nothing. -/
inductive Stalls : Lane MasterAgent → Lane MasterAgent → Prop
  | still (lane : Lane MasterAgent) : Stalls lane lane
  | stuck {lane : Lane MasterAgent} {script after : Split.Master} {split next : Split.Link}
      {bridge : Inbound} (agent : lane.agent = .split script split bridge)
      (halted : bridge.isHalted = true) (completions : after.completions = script.completions) :
      Stalls lane { lane with agent := .split after next bridge }

namespace Stalls

variable {first second third : Lane MasterAgent}

theorem trans (before : Stalls first second) (after : Stalls second third) :
    Stalls first third := by
  cases before with
  | still => exact after
  | stuck agent halted completions =>
    cases after with
    | still => exact .stuck agent halted completions
    | stuck following stays same =>
      cases following
      exact .stuck agent halted (same.trans completions)

theorem isSettled (stalls : Stalls first second) (settled : first.agent.isSettled = true) :
    second.agent.isSettled = true := by
  cases stalls with
  | still => exact settled
  | stuck _ halted _ => simp [MasterAgent.isSettled, halted]

end Stalls

theorem stalls_trans {lanes middle after : List (Lane MasterAgent)}
    (before : List.Forall₂ Stalls lanes middle) (goesOn : List.Forall₂ Stalls middle after) :
    List.Forall₂ Stalls lanes after := by
  induction before generalizing after with
  | nil => exact goesOn
  | cons stalls _ ih =>
    cases goesOn with
    | cons next rest => exact .cons (stalls.trans next) (ih rest)

theorem isSettled_of_stalls {lanes after : List (Lane MasterAgent)}
    (stalls : List.Forall₂ Stalls lanes after)
    (settled : lanes.all (·.agent.isSettled) = true) : after.all (·.agent.isSettled) = true := by
  induction stalls with
  | nil => exact settled
  | cons stalled _ ih =>
    rw [List.all_cons, Bool.and_eq_true] at settled ⊢
    exact ⟨stalled.isSettled settled.1, ih settled.2⟩

theorem MasterAgent.IsSteady.stalls {lane : Lane MasterAgent}
    (steady : lane.agent.IsSteady lane.link) (settled : lane.agent.isSettled = true) :
    lane.link = .idle ∧
      ∀ cycle, ∃ after, tickLane cycle lane = (after, none) ∧ Stalls lane after := by
  obtain ⟨port, rank, isServed, link, agent⟩ := lane
  dsimp only at steady settled ⊢
  cases steady with
  | @halted script split bridge halted write read =>
    refine ⟨rfl, fun cycle => ⟨_, tickLane_eq_bridged rfl rfl rfl
      (Inbound.Junction.tick_halted halted _ cycle), ?_⟩⟩
    exact .stuck rfl halted (script.tick_silent write read cycle).1
  | @simple script link raised =>
    have done : script.queue = [] ∧ script.outstanding = none := by
      simpa [isSettled, Simple.Master.isDone] using settled
    rw [done.2] at raised
    cases link with
    | waiting _ | answered _ _ => cases raised
    | idle =>
      refine ⟨rfl, fun cycle => ⟨_, ?_, .still _⟩⟩
      simp [tickLane, Simple.Master.tick, Simple.Master.observe, Simple.Master.raise,
        Link.response?, Link.completed, done.1, done.2]
  | @running script split _ _ occupies =>
    cases occupies with
    | rests free clear stray =>
      have done : script.isDone = true := by
        simpa [isSettled, Inbound.resting, clear.running, Inbound.isIdle, clear.write,
          clear.read] using settled
      exact ⟨rfl, fun cycle => ⟨_, tickLane_rests rfl rfl done clear cycle, .still _⟩⟩
    | asks current _ clear _ | awaits current _ clear _ _ | answered current _ clear =>
      -- an operation is under way
      simp [isSettled, Inbound.asking, Inbound.awaiting, Inbound.resting, clear.running,
        Split.Master.isDone, current] at settled

section

variable {fabric : Fabric} {stages : Nat → Stage} {left : Nat → Nat}

/-- A cycle as a whole, in which no slave sees a fault. -/
theorem Attended.tick_eq (attended : Attended fabric stages left) :
    fabric.tick = { fabric with
      cycle := fabric.cycle + 1
      crossbar := { fabric.afterCrossbar with
        slots := fabric.afterCrossbar.slots.map fun slot => (tickSlot fabric.cycle slot).1 }
      faults := fabric.faults.appendList
        (fabric.crossbar.lanes.filterMap fun lane => (tickLane fabric.cycle lane).2)
      grants := if fabric.recordsGrants then
          fabric.grants.appendList (fabric.afterMasters.tick fabric.cycle).2
        else fabric.grants } := by
  have silent : (fabric.afterMasters.tick fabric.cycle).1.slots.filterMap
      (Prod.snd ∘ tickSlot fabric.cycle) = [] :=
    List.filterMap_eq_nil_iff.mpr attended.faultless
  have masters : fabric.afterMasters = { fabric.crossbar with
      lanes := (fabric.crossbar.lanes.map (tickLane fabric.cycle)).map Prod.fst } := by
    rw [List.map_map]
    rfl
  have slots : fabric.afterCrossbar.slots.map (fun slot => (tickSlot fabric.cycle slot).1) =
      (fabric.afterCrossbar.slots.map (tickSlot fabric.cycle)).map Prod.fst := by
    rw [List.map_map]
    rfl
  unfold Fabric.tick
  dsimp only
  rw [← masters, slots, List.filterMap_map, List.filterMap_map, silent, List.append_nil]
  rfl

/-- Where no slot works, no request is up at any slave. -/
theorem Attended.rests (attended : Attended fabric stages left)
    (idle : ∀ slot ∈ fabric.crossbar.slots, slot.phase = .idle) :
    ∀ slot ∈ fabric.crossbar.slots, slot.link = .idle ∧ slot.agent.IsReady := by
  intro slot member
  obtain ⟨index, found⟩ := List.mem_iff_getElem?.mp member
  have stands := attended.stands found
  have rests : slot.link = .idle := by
    rw [stands.link]
    have phase := stands.phase
    rw [idle slot member] at phase
    cases stage : stages index with
    | idle => rfl
    | waiting _ _ | answered _ _ _ | completing _ _ _ =>
      rw [stage] at phase
      cases phase
  exact ⟨rests, ((attended.attends found).ready (by rw [rests]; rfl)).1⟩

end

/-- What is always true of a fabric that was built, as far as its lanes and slots go. -/
structure IsSound (fabric : Fabric) : Prop where
  attended : ∃ stages left, Attended fabric stages left
  tidy : fabric.SlotsTidy
  steady : fabric.LanesSteady

namespace IsSound

variable {fabric : Fabric}

theorem act (sound : fabric.IsSound) (action : Action) : (fabric.act action).IsSound := by
  obtain ⟨stages, left, attended⟩ := sound.attended
  refine ⟨attended.act action, ?_, sound.steady.act attended.toEngaged action⟩
  by_cases push : action = .tick
  · subst push
    exact slotsTidy_tick fabric
  · obtain ⟨_, _, pushed⟩ := act_push fabric push
    rw [pushed]
    exact sound.tidy

theorem ticks (sound : fabric.IsSound) (count : Nat) : (fabric.ticks count).IsSound := by
  induction count generalizing fabric with
  | zero => exact sound
  | succ count ih => exact ih (sound.act .tick)

/-- A slave that has no request in a slot at rest does nothing. -/
theorem still (sound : fabric.IsSound)
    (idle : ∀ slot ∈ fabric.crossbar.slots, slot.phase = .idle) :
    ∀ slot ∈ fabric.crossbar.slots, ∀ cycle, tickSlot cycle slot = (slot, none) := by
  intro slot member cycle
  obtain ⟨_, _, attended⟩ := sound.attended
  obtain ⟨free, ready⟩ := attended.rests idle slot member
  exact ready.still (sound.tidy slot member) (by rw [free]; rfl) cycle

end IsSound

/-- A fabric that was built is sound, whatever was done to it. -/
theorem isSound_play {config : Config} {fabric : Fabric} (built : build config = .ok fabric)
    (actions : List Action) : (fabric.play actions).IsSound := by
  -- by the last action
  induction actions using List.reverseRecOn with
  | nil =>
    obtain ⟨_, left, attended⟩ := staffed_build built
    exact ⟨⟨_, left, attended⟩,
      slots_build SlaveAgent.IsTidy slaveAgent_isTidy (fun _ => True.intro) built,
      lanesSteady_build built⟩
  | append_singleton actions action ih =>
    unfold play at ih ⊢
    rw [List.foldl_append]
    exact ih.act action

/-- A cycle of an idle fabric counts the cycle and may move scripts that are stuck. -/
theorem IsSound.tick_of_isIdle {fabric : Fabric} (sound : fabric.IsSound)
    (idle : fabric.isIdle = true) :
    ∃ lanes, List.Forall₂ Stalls fabric.crossbar.lanes lanes ∧
      fabric.tick = { fabric with
        cycle := fabric.cycle + 1
        crossbar := { fabric.crossbar with lanes } } := by
  obtain ⟨_, _, attended⟩ := sound.attended
  obtain ⟨settled, phases⟩ : (∀ lane ∈ fabric.crossbar.lanes, lane.agent.isSettled = true) ∧
      ∀ slot ∈ fabric.crossbar.slots, slot.phase = .idle := by
    unfold isIdle Crossbar.isIdle at idle
    simp only [Bool.and_eq_true, List.all_eq_true, decide_eq_true_eq] at idle
    exact idle.1
  have stalls : ∀ lane ∈ fabric.crossbar.lanes, (tickLane fabric.cycle lane).2 = none ∧
      (tickLane fabric.cycle lane).1.link = .idle ∧ Stalls lane (tickLane fabric.cycle lane).1 := by
    intro lane member
    obtain ⟨free, goes⟩ := (sound.steady lane member).stalls (settled lane member)
    obtain ⟨after, ticks, stalls⟩ := goes fabric.cycle
    rw [ticks]
    refine ⟨rfl, ?_, stalls⟩
    cases stalls with
    | still | stuck _ _ _ => exact free
  have crosses : fabric.afterMasters.tick fabric.cycle = (fabric.afterMasters, []) := by
    have free : ∀ slot ∈ fabric.afterMasters.slots, slot.phase = .idle := phases
    refine Crossbar.tick_idle_of_silent free ?_ _
    intro after member
    obtain ⟨lane, listed, rfl⟩ := List.mem_map.mp member
    unfold Lane.wants?
    rw [(stalls lane listed).2.1]
    exact ite_self _
  have slaves : fabric.crossbar.slots.map (fun slot => (tickSlot fabric.cycle slot).1) =
      fabric.crossbar.slots := by
    refine Crossbar.map_eq_self fun slot member => ?_
    rw [sound.still phases slot member]
  have faults : fabric.crossbar.lanes.filterMap (fun lane => (tickLane fabric.cycle lane).2) = [] :=
    List.filterMap_eq_nil_iff.mpr fun lane member => (stalls lane member).1
  refine ⟨fabric.crossbar.lanes.map fun lane => (tickLane fabric.cycle lane).1, ?_, ?_⟩
  · rw [List.forall₂_map_right_iff, List.forall₂_same]
    exact fun lane member => (stalls lane member).2.2
  · rw [attended.tick_eq, faults]
    unfold afterCrossbar
    rw [crosses]
    dsimp only [afterMasters]
    rw [slaves]
    have grants : (if fabric.recordsGrants then fabric.grants.appendList [] else fabric.grants) =
        fabric.grants := ite_self _
    rw [grants]
    rfl

/-- Idle is final. Once a fabric is idle, cycles without further pushes leave it as it is, whatever
its masters were handed and however far they got with it. The cycles are counted, and a script may
go on behind a halted bridge without completing anything. -/
theorem idle_is_final {config : Config} {fabric : Fabric} (built : build config = .ok fabric)
    (actions : List Action) (idle : (fabric.play actions).isIdle = true) (count : Nat) :
    ((fabric.play actions).ticks count).isIdle = true ∧
      ∃ lanes, List.Forall₂ Stalls (fabric.play actions).crossbar.lanes lanes ∧
        (fabric.play actions).ticks count = { fabric.play actions with
          cycle := (fabric.play actions).cycle + count
          crossbar := { (fabric.play actions).crossbar with lanes } } := by
  induction count with
  | zero =>
    exact ⟨idle, _, List.forall₂_same.mpr fun lane _ => .still lane, rfl⟩
  | succ count ih =>
    obtain ⟨stays, lanes, stalls, same⟩ := ih
    obtain ⟨after, goesOn, ticks⟩ :=
      ((isSound_play built actions).ticks count).tick_of_isIdle stays
    rw [ticks_succ]
    rw [ticks]
    refine ⟨?_, after, ?_, by rw [same]; rfl⟩
    · unfold isIdle at stays ⊢
      rw [Bool.and_eq_true, Bool.and_eq_true] at stays ⊢
      exact ⟨⟨isSettled_of_stalls goesOn stays.1.1, stays.1.2⟩, stays.2⟩
    · rw [same] at goesOn
      exact stalls_trans stalls goesOn

/-- The cycles in which a bridge halts over the first of two bursts, and both requests of the other
master are answered. -/
def stranding : List Action :=
  contention ++ .pushSplit ⟨0⟩ (.read (.incr 2 0x80 2 2)) :: List.replicate 5 .tick

/-- The fabric that is left idle with two bursts unanswered is the same a hundred cycles later, but
for the lanes. -/
theorem stranded_stays_idle :
    ∃ fabric, build contenders = .ok fabric ∧ (fabric.play stranding).isIdle = true ∧
      ((fabric.play stranding).splitMaster? ⟨0⟩).map (·.1.queue.length) = some 1 ∧
      ((fabric.play stranding).ticks 100).isIdle = true ∧
      ∃ lanes, List.Forall₂ Stalls (fabric.play stranding).crossbar.lanes lanes ∧
        (fabric.play stranding).ticks 100 = { fabric.play stranding with
          cycle := (fabric.play stranding).cycle + 100
          crossbar := { (fabric.play stranding).crossbar with lanes } } := by
  have built : build contenders = .ok _ := rfl
  exact ⟨_, built, by decide +kernel, by decide +kernel,
    idle_is_final built stranding (by decide +kernel) 100⟩

end BusFabric.Fabric
