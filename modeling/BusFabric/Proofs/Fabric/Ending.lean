import Mathlib.Algebra.Order.BigOperators.Group.Finset
import BusFabric.Proofs.Fabric.Idle
import BusFabric.Proofs.Fabric.Scripts

set_option autoImplicit false

namespace BusFabric.Fabric

open Crossbar (Engaged Lane Slot Stage)
open Simple (Link Request)
open Split (Op)

/-- Cycles that a slot still needs besides those of its slave. -/
def stageWork : Stage → Nat
  | .idle => 0
  | .completing _ _ _ => 1
  | .waiting _ _ | .answered _ _ _ => 2

def lanesWork (fabric : Fabric) : Nat :=
  ∑ place ∈ Finset.range fabric.crossbar.lanes.length,
    fabric.crossbar.lanes[place]?.elim 0 laneWork

/-- The cycles that the slots and their slaves still need, all of them taken together. -/
def slotsWork (fabric : Fabric) (stages : Nat → Stage) (left : Nat → Nat) : Nat :=
  ∑ index ∈ Finset.range fabric.crossbar.slots.length, (stageWork (stages index) + left index)

theorem stageWork_serve (stage : Stage) (link : Link) :
    stageWork (stage.serve link) = stageWork stage := by
  cases stage <;> cases link <;> rfl

theorem linkWork_mono {before after : Link} {isServed staysServed : Bool}
    (acknowledged : Link.MayAcknowledge before after)
    (served : isServed = true → staysServed = false → after.awaiting? = none) :
    linkWork after staysServed ≤ linkWork before isServed := by
  cases acknowledged with
  | same =>
    cases before with
    | idle | answered _ _ => exact Nat.le_refl _
    | waiting request =>
      cases isServed <;> cases staysServed
      · exact Nat.le_refl _
      · exact Nat.le_succ 2
      · cases served rfl rfl
      · exact Nat.le_refl _
  | acknowledged response waits =>
    subst waits
    cases isServed <;> simp [linkWork]

theorem laneWork_changes {before after : Lane MasterAgent} (changes : Lane.Changes before after) :
    laneWork after ≤ laneWork before := by
  unfold laneWork
  rw [changes.agent]
  exact Nat.add_le_add_left (linkWork_mono changes.link changes.served) _

section

variable {config : Config} {ops : PortId → List Op} {requests : PortId → List Request}
  {fabric : Fabric} {stages : Nat → Stage} {left : Nat → Nat}

theorem length_slots_tick (fabric : Fabric) :
    fabric.tick.crossbar.slots.length = fabric.crossbar.slots.length := by
  rw [tick_crossbar]
  exact (List.length_map _).trans (fabric.afterMasters.length_slots_act (.tick fabric.cycle))

/-- A slot that is not granted comes closer to handing over, if it works at all. -/
theorem Attended.slot_tick (attended : Attended fabric stages left) {index : Nat}
    (within : index < fabric.crossbar.slots.length) (ungranted : fabric.granted? index = none) :
    stageWork (fabric.nextStages stages index) + (left index - 1) ≤
        stageWork (stages index) + left index ∧
      (stages index ≠ .idle → stageWork (fabric.nextStages stages index) + (left index - 1) <
        stageWork (stages index) + left index) := by
  obtain ⟨slot, found⟩ : ∃ slot, fabric.crossbar.slots[index]? = some slot :=
    ⟨_, List.getElem?_eq_getElem within⟩
  have next : stageWork (fabric.nextStages stages index) = stageWork (stages index).moveOn := by
    unfold nextStages
    rw [ungranted]
    cases fabric.afterCrossbar.slots[index]? with
    | none => rfl
    | some after => exact stageWork_serve _ _
  rw [next]
  cases stage : stages index with
  | idle =>
    refine ⟨?_, fun busy => absurd rfl busy⟩
    dsimp only [Stage.moveOn, stageWork]
    omega
  | answered _ _ _ | completing _ _ _ =>
    dsimp only [Stage.moveOn, stageWork]
    omega
  | waiting place request =>
    have waits : slot.link = .waiting request := by
      rw [(attended.stands found).link, stage]
      rfl
    have more := (attended.attends found).pos waits
    dsimp only [Stage.moveOn, stageWork]
    omega

theorem Attended.slotsWork_tick (attended : Attended fabric stages left)
    (ungranted : ∀ index, fabric.granted? index = none) {after : Nat → Nat}
    (goesOn : ∀ index, fabric.granted? index = none → after index = left index - 1)
    (busy : ∃ index, stages index ≠ .idle) :
    slotsWork fabric.tick (fabric.nextStages stages) after < slotsWork fabric stages left := by
  obtain ⟨index, works⟩ := busy
  have within : index < fabric.crossbar.slots.length := by
    refine Nat.lt_of_not_le fun past => works ?_
    exact attended.beyond (List.getElem?_eq_none past)
  unfold slotsWork
  rw [length_slots_tick]
  refine Finset.sum_lt_sum ?_ ⟨index, Finset.mem_range.mpr within, ?_⟩
  · intro other listed
    rw [goesOn other (ungranted other)]
    exact (attended.slot_tick (Finset.mem_range.mp listed) (ungranted other)).1
  · rw [goesOn index (ungranted index)]
    exact (attended.slot_tick within (ungranted index)).2 works

/-- The writes for split-transaction masters come with all their data beats. -/
def Config.PlaysWhole (config : Config) (ops : PortId → List Op) : Prop :=
  ∀ port ∈ config.ports, port.role = .master → port.protocol.isSplit = true →
    ∀ op ∈ ops port.id, op.IsWhole

theorem Manned.advances {lane : Lane MasterAgent} (manned : Manned config ops requests lane)
    (whole : config.PlaysWhole ops) (cycle : Nat) : Advances lane (tickLane cycle lane).1 := by
  obtain ⟨port, listed, asks, id, of⟩ := manned.owner
  refine (manned.turns (fun bridged => ?_) cycle).advances
  rw [← id]
  exact whole port listed asks (of.isSplit.mp bridged)

theorem Advances.laneWork_le {lane : Lane MasterAgent} {cycle : Nat}
    (advances : Advances lane (tickLane cycle lane).1) :
    laneWork (tickLane cycle lane).1 ≤ laneWork lane := by
  cases advances with
  | waits _ link work =>
    unfold laneWork
    rw [work, link, tickLane_isServed]
  | rests _ work => exact Nat.le_of_eq work
  | works less => exact Nat.le_of_lt less

/-- Only a master that waits for the crossbar and one with nothing to do make no way. -/
theorem Briefed.advances (briefed : Briefed config ops requests fabric)
    (whole : config.PlaysWhole ops) {place : Nat} {lane : Lane MasterAgent}
    (found : fabric.crossbar.lanes[place]? = some lane) :
    Advances lane (tickLane fabric.cycle lane).1 :=
  (briefed.manned lane (List.mem_of_getElem? found)).advances whole fabric.cycle

theorem Briefed.place_le (briefed : Briefed config ops requests fabric)
    (engaged : Engaged fabric.crossbar stages) (whole : config.PlaysWhole ops) (place : Nat) :
    fabric.tick.crossbar.lanes[place]?.elim 0 laneWork ≤
      fabric.crossbar.lanes[place]?.elim 0 laneWork := by
  cases found : fabric.crossbar.lanes[place]? with
  | none =>
    rw [List.getElem?_eq_none_iff, ← length_lanes_tick, ← List.getElem?_eq_none_iff] at found
    rw [found]
  | some lane =>
    obtain ⟨after, at_, changes⟩ := lane_tick engaged found
    rw [at_]
    exact Nat.le_trans (laneWork_changes changes) (briefed.advances whole found).laneWork_le

theorem Briefed.lanesWork_le (briefed : Briefed config ops requests fabric)
    (engaged : Engaged fabric.crossbar stages) (whole : config.PlaysWhole ops) :
    lanesWork fabric.tick ≤ lanesWork fabric := by
  unfold lanesWork
  rw [length_lanes_tick]
  exact Finset.sum_le_sum fun place _ => briefed.place_le engaged whole place

/-- The work gets less when that on some lane does, in the master's part of the cycle or in that of
the crossbar. -/
theorem Briefed.lanesWork_lt (briefed : Briefed config ops requests fabric)
    (engaged : Engaged fabric.crossbar stages) (whole : config.PlaysWhole ops) {place : Nat}
    {lane after : Lane MasterAgent} (found : fabric.crossbar.lanes[place]? = some lane)
    (at_ : fabric.tick.crossbar.lanes[place]? = some after)
    (less : laneWork after < laneWork (tickLane fabric.cycle lane).1 ∨
      laneWork (tickLane fabric.cycle lane).1 < laneWork lane) :
    lanesWork fabric.tick < lanesWork fabric := by
  have within := (List.getElem?_eq_some_iff.mp found).1
  unfold lanesWork
  rw [length_lanes_tick]
  refine Finset.sum_lt_sum (fun place _ => briefed.place_le engaged whole place)
    ⟨place, Finset.mem_range.mpr within, ?_⟩
  rw [found, at_]
  obtain ⟨same, here, changes⟩ := lane_tick engaged found
  obtain rfl : after = same := Option.some.inj (at_.symm.trans here)
  rcases less with crossbar | master
  · exact Nat.lt_of_lt_of_le crossbar (briefed.advances whole found).laneWork_le
  · exact Nat.lt_of_le_of_lt (laneWork_changes changes) master

theorem Briefed.grant_lt (briefed : Briefed config ops requests fabric)
    (engaged : Engaged fabric.crossbar stages) (whole : config.PlaysWhole ops) {index : Nat}
    {candidate : Crossbar.Candidate} (granted : fabric.granted? index = some candidate) :
    lanesWork fabric.tick < lanesWork fabric := by
  obtain ⟨moved, after, at_, wants, final, served, waits⟩ :=
    (engaged_afterMasters engaged).granted_lane granted fabric.cycle
  obtain ⟨lane, found, rfl⟩ := Option.map_eq_some_iff.mp (List.getElem?_map.symm.trans at_)
  obtain ⟨unserved, raised⟩ := Lane.wants?_eq_some.mp wants
  have changes := (engaged_afterMasters engaged).changes fabric.cycle at_ final
  refine briefed.lanesWork_lt engaged whole found (by rw [tick_crossbar]; exact final) (.inl ?_)
  unfold laneWork
  rw [changes.agent, served, waits, unserved, raised]
  exact Nat.lt_succ_self _

theorem SlaveAgent.IsReady.isSettled {agent : SlaveAgent} (ready : agent.IsReady) {link : Link}
    (free : link = .idle) : agent.isSettled link = true := by
  subst free
  cases ready with
  | device endpoint => rfl
  | @split bridge ram _ running idle rest =>
    simp [SlaveAgent.isSettled, Bridge.Outbound.isIdle, Split.Ram.isIdle, Link.isIdle, idle,
      rest.write, rest.owed, rest.read]

/-- With all slots idle, and nothing done in a cycle, the fabric is idle. -/
theorem Briefed.isIdle_of_still (briefed : Briefed config ops requests fabric)
    (attended : Attended fabric stages left) (whole : config.PlaysWhole ops)
    (still : ¬ lanesWork fabric.tick < lanesWork fabric) (free : ∀ index, stages index = .idle) :
    fabric.isIdle = true := by
  have engaged := attended.toEngaged
  have ungranted (index : Nat) : fabric.granted? index = none := by
    cases granted : fabric.granted? index with
    | none => rfl
    | some candidate => exact absurd (briefed.grant_lt engaged whole granted) still
  have lanes : ∀ lane ∈ fabric.crossbar.lanes, lane.agent.isSettled = true := by
    intro lane member
    obtain ⟨place, found⟩ := List.mem_iff_getElem?.mp member
    obtain ⟨after, at_, changes⟩ := lane_tick engaged found
    cases briefed.advances whole found with
    | rests settled _ => exact settled
    | works less => exact absurd (briefed.lanesWork_lt engaged whole found at_ (.inr less)) still
    | @waits request waits link _ =>
      -- its request is refused, or its slot is granted
      have unserved : lane.isServed = false := by
        rw [Bool.eq_false_iff]
        intro served
        obtain ⟨index, _, works⟩ := engaged.served found served
        rw [free index] at works
        cases works
      have moved : fabric.afterMasters.lanes[place]? = some (tickLane fabric.cycle lane).1 := by
        rw [afterMasters, List.getElem?_map, found]
        rfl
      have wants : (tickLane fabric.cycle lane).1.wants? = some request :=
        Lane.wants?_eq_some.mpr ⟨(tickLane_isServed _ lane).trans unserved, link.trans waits⟩
      have final : fabric.afterCrossbar.lanes[place]? = some after := by
        rw [tick_crossbar] at at_
        exact at_
      rcases (engaged_afterMasters engaged).wants_cases fabric.cycle moved wants final with
        refused | ⟨index, busy | granted⟩
      · refine absurd (briefed.lanesWork_lt engaged whole found at_ (.inl ?_)) still
        unfold laneWork
        rw [changes.agent, refused, link, waits, tickLane_isServed, unserved]
        exact Nat.add_lt_add_left (by decide : 1 < 3) _
      · rw [free index] at busy
        exact absurd rfl busy
      · exact absurd (ungranted index) granted
  have slots : ∀ slot ∈ fabric.crossbar.slots,
      slot.phase = .idle ∧ slot.agent.isSettled slot.link = true := by
    intro slot member
    obtain ⟨index, found⟩ := List.mem_iff_getElem?.mp member
    have stands := attended.stands found
    rw [free index] at stands
    obtain ⟨ready, _⟩ := (attended.attends found).ready (by rw [stands.link]; rfl)
    exact ⟨stands.phase, ready.isSettled stands.link⟩
  unfold isIdle Crossbar.isIdle
  simp only [Bool.and_eq_true, List.all_eq_true, decide_eq_true_eq]
  exact ⟨⟨lanes, fun slot member => (slots slot member).1⟩,
    fun slot member => (slots slot member).2⟩

/-- A cycle of a fabric that is not idle makes the work on the lanes less, or leaves it as it is and
brings the slots on. -/
theorem Briefed.progress (briefed : Briefed config ops requests fabric)
    (attended : Attended fabric stages left) (whole : config.PlaysWhole ops) :
    fabric.isIdle = true ∨ ∃ after, Attended fabric.tick (fabric.nextStages stages) after ∧
      (lanesWork fabric.tick < lanesWork fabric ∨
        lanesWork fabric.tick = lanesWork fabric ∧
          slotsWork fabric.tick (fabric.nextStages stages) after <
            slotsWork fabric stages left) := by
  have engaged := attended.toEngaged
  obtain ⟨after, moved, goesOn⟩ := attended.tick
  by_cases less : lanesWork fabric.tick < lanesWork fabric
  · exact .inr ⟨after, moved, .inl less⟩
  by_cases busy : ∃ index, stages index ≠ .idle
  · refine .inr ⟨after, moved, .inr ⟨?_, attended.slotsWork_tick ?_ goesOn busy⟩⟩
    · have le := briefed.lanesWork_le engaged whole
      omega
    · intro index
      cases granted : fabric.granted? index with
      | none => rfl
      | some candidate => exact absurd (briefed.grant_lt engaged whole granted) less
  · have free : ∀ index, stages index = .idle := by simpa using busy
    exact .inl (briefed.isIdle_of_still attended whole less free)

/-- A fabric becomes idle: the work on the lanes and that of the slots go down together. -/
theorem Briefed.ends {fabric : Fabric} {stages : Nat → Stage} {left : Nat → Nat}
    (briefed : Briefed config ops requests fabric) (attended : Attended fabric stages left)
    (whole : config.PlaysWhole ops) : ∃ count, (fabric.ticks count).isIdle = true := by
  rcases briefed.progress attended whole with idle | ⟨after, moved, less⟩
  · exact ⟨0, idle⟩
  · obtain ⟨count, idle⟩ := (briefed.tick attended.toEngaged).ends moved whole
    exact ⟨count + 1, idle⟩
termination_by (lanesWork fabric, slotsWork fabric stages left)
decreasing_by
  rcases less with lanes | ⟨same, slots⟩
  · exact .left _ _ lanes
  · rw [same]
    exact .right _ slots

theorem Briefed.ticks (briefed : Briefed config ops requests fabric)
    (attended : Attended fabric stages left) (count : Nat) :
    Briefed config ops requests (fabric.ticks count) := by
  induction count generalizing fabric stages left with
  | zero => exact briefed
  | succ count ih =>
    obtain ⟨_, moved, _⟩ := attended.tick
    exact ih (briefed.tick attended.toEngaged) moved

/-- In an idle fabric, the masters have completed what they were handed. -/
structure Completed (config : Config) (ops : PortId → List Op) (requests : PortId → List Request)
    (fabric : Fabric) : Prop where
  split : ∀ port ∈ config.ports, port.role = .master → port.protocol.isSplit = true →
    ∃ script bridge, fabric.splitMaster? port.id = some (script, bridge) ∧
      (bridge.isHalted = false →
        List.Forall₂ Op.IsAnsweredBy (ops port.id) script.completions.toList)
  simple : ∀ port ∈ config.ports, port.role = .master → port.protocol.isSplit = false →
    ∃ script, fabric.simpleMaster? port.id = some script ∧
      script.completions.toList.map (·.request) = requests port.id

theorem Briefed.completed (briefed : Briefed config ops requests fabric)
    (whole : config.PlaysWhole ops) (idle : fabric.isIdle = true) :
    Completed config ops requests fabric := by
  have settled : ∀ lane ∈ fabric.crossbar.lanes, lane.agent.isSettled = true := by
    unfold isIdle at idle
    simp only [Bool.and_eq_true, List.all_eq_true] at idle
    exact idle.1.1
  constructor
  · intro port listed asks speaks
    obtain ⟨lane, member, script, link, bridge, id, agent, _, found⟩ :=
      briefed.splitMaster? listed asks speaks
    refine ⟨script, bridge, found, fun running => ?_⟩
    have plays := (briefed.manned lane member).plays fun _ =>
      id ▸ whole port listed asks speaks
    have rests := settled lane member
    rw [agent, id] at plays
    rw [agent] at rests
    exact plays.completes_split rests running
  · intro port listed asks speaks
    obtain ⟨lane, member, script, id, agent, found⟩ := briefed.simpleMaster? listed asks speaks
    refine ⟨script, found, ?_⟩
    have plays := (briefed.manned lane member).plays fun bridged =>
      absurd (by rw [agent]; rfl) bridged
    have rests := settled lane member
    rw [agent, id] at plays
    rw [agent] at rests
    exact plays.completes_simple rests

end

/-- A run without limits ends in the first cycle in which the fabric is idle. -/
theorem run_unlimited {fabric : Fabric} {count : Nat} (idle : (fabric.ticks count).isIdle = true)
    (busy : ∀ earlier < count, (fabric.ticks earlier).isIdle = false) {limits : Limits}
    (unlimited : limits.cycles = none) (timeless : limits.milliseconds = none) :
    fabric.run limits = (fabric.ticks count, .idle) := by
  refine run_first_idle (by rw [timeless]; nofun) ?_ busy idle
  intro limit bounds
  rw [unlimited] at bounds
  cases bounds

/-- Every run ends: whatever the masters were handed, if writes come with all their data beats, the
fabric becomes idle, a run without limits stops there, and then each master that is not stuck has
one completion for each thing that it was handed, in order. -/
theorem every_run_ends {config : Config} {fabric : Fabric} (built : build config = .ok fabric)
    (actions : List Action) (whole : config.PlaysWhole (splitOps · actions)) :
    ∃ count, ((fabric.play actions).ticks count).isIdle = true ∧
      (∀ limits : Limits, limits.cycles = none → limits.milliseconds = none →
        (fabric.play actions).run limits = ((fabric.play actions).ticks count, .idle)) ∧
      Completed config (splitOps · actions) (simpleRequests · actions)
        ((fabric.play actions).ticks count) := by
  obtain ⟨⟨_, _, attended⟩, briefed⟩ := briefed_play built actions
  have ends := briefed.ends attended whole
  have idle := Nat.find_spec ends
  refine ⟨Nat.find ends, idle, ?_, (briefed.ticks attended _).completed whole idle⟩
  intro limits
  exact run_unlimited idle fun earlier before => Bool.eq_false_iff.mpr (Nat.find_min ends before)

/-- A split-transaction master and a simple-bus master that share a memory. -/
def contenders : Config where
  width := 32
  ports :=
    [{ id := ⟨0⟩, name := "core", protocol := .wideSplit, role := .master, dataWidth := 32,
       addressWidth := 30 },
     { id := ⟨1⟩, name := "loader", protocol := .simpleSync, role := .master, dataWidth := 32,
       addressWidth := 30 },
     { id := ⟨2⟩, name := "sram", protocol := .simpleSync, role := .slave, dataWidth := 32,
       addressWidth := 30, base := some 0, size := some 0x1000 }]

/-- A burst whose size the port does not carry, and two requests, the second one for no slave. -/
def contention : List Action :=
  [.pushSplit ⟨0⟩ (.read (.incr 1 0x40 5 2)), .pushSimple ⟨1⟩ (.read 0x40 0xF),
    .pushSimple ⟨1⟩ (.read 0x4000 0xF)]

/-- Though the first master never gets anywhere, the run ends with both requests of the second one
answered. -/
theorem contenders_finish :
    ∃ fabric, build contenders = .ok fabric ∧ contenders.PlaysWhole (splitOps · contention) ∧
      ∃ count script, ((fabric.play contention).ticks count).isIdle = true ∧
        (fabric.play contention).run {} = ((fabric.play contention).ticks count, .idle) ∧
        ((fabric.play contention).ticks count).simpleMaster? ⟨1⟩ = some script ∧
        script.completions.toList.map (·.request) = [.read 0x40 0xF, .read 0x4000 0xF] := by
  have built : build contenders = .ok _ := rfl
  have whole : contenders.PlaysWhole (splitOps · contention) := by
    intro port listed _ speaks op played
    simp only [contenders, List.mem_cons, List.not_mem_nil, or_false] at listed
    rcases listed with rfl | rfl | rfl
    · obtain rfl := List.mem_singleton.mp played
      trivial
    all_goals cases speaks
  obtain ⟨count, idle, runs, completed⟩ := every_run_ends built contention whole
  obtain ⟨script, found, requests⟩ :=
    completed.simple _ (List.mem_cons_of_mem _ (List.mem_cons_self ..)) rfl rfl
  exact ⟨_, built, whole, count, script, idle, runs {} rfl rfl, found, requests⟩

end BusFabric.Fabric
