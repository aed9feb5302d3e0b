import BusFabric.Proofs.Crossbar.Changes
import BusFabric.Proofs.Fabric.Masters
import BusFabric.Proofs.Fabric.Slaves

set_option autoImplicit false

namespace BusFabric.Fabric

open Bridge (Conversion Inbound)
open Crossbar (Engaged Lane Stage)
open Simple (Request)
open Split (Op)

/-- The operations that are handed to the split-transaction master of a port, in order. -/
def splitOps (port : PortId) (actions : List Action) : List Op :=
  actions.filterMap (·.splitOp? port)

/-- The requests that are handed to the simple-bus master of a port, in order. -/
def simpleRequests (port : PortId) (actions : List Action) : List Request :=
  actions.filterMap (·.request? port)

theorem splitOps_cons (port : PortId) (action : Action) (rest : List Action) :
    splitOps port (action :: rest) = (action.splitOp? port).toList ++ splitOps port rest := by
  unfold splitOps
  rw [List.filterMap_cons]
  cases action.splitOp? port <;> rfl

theorem simpleRequests_cons (port : PortId) (action : Action) (rest : List Action) :
    simpleRequests port (action :: rest) =
      (action.request? port).toList ++ simpleRequests port rest := by
  unfold simpleRequests
  rw [List.filterMap_cons]
  cases action.request? port <;> rfl

section

variable {fabric : Fabric} {stages : Nat → Stage}

theorem length_lanes_tick (fabric : Fabric) :
    fabric.tick.crossbar.lanes.length = fabric.crossbar.lanes.length := by
  rw [tick_crossbar]
  exact (fabric.afterMasters.length_lanes_tick fabric.cycle).trans (List.length_map _)

theorem tickLane_port (cycle : Nat) (lane : Lane MasterAgent) :
    (tickLane cycle lane).1.port = lane.port := by
  unfold tickLane
  split <;> rfl

/-- The master of a lane moves, then the crossbar may acknowledge its request. -/
theorem lane_tick (engaged : Engaged fabric.crossbar stages) {place : Nat}
    {lane : Lane MasterAgent} (found : fabric.crossbar.lanes[place]? = some lane) :
    ∃ after, fabric.tick.crossbar.lanes[place]? = some after ∧
      Lane.Changes (tickLane fabric.cycle lane).1 after := by
  obtain ⟨after, at_⟩ : ∃ after, fabric.tick.crossbar.lanes[place]? = some after := by
    have within := (List.getElem?_eq_some_iff.mp found).1
    rw [← length_lanes_tick fabric] at within
    exact ⟨_, List.getElem?_eq_getElem within⟩
  refine ⟨after, at_, ?_⟩
  rw [tick_crossbar] at at_
  exact (engaged_afterMasters engaged).changes fabric.cycle (by simp [afterMasters, found]) at_

theorem lane_before_tick (engaged : Engaged fabric.crossbar stages) {after : Lane MasterAgent}
    (member : after ∈ fabric.tick.crossbar.lanes) :
    ∃ lane ∈ fabric.crossbar.lanes, Lane.Changes (tickLane fabric.cycle lane).1 after := by
  obtain ⟨place, within, at_⟩ := List.getElem_of_mem member
  rw [length_lanes_tick] at within
  obtain ⟨held, same, changes⟩ := lane_tick engaged (List.getElem?_eq_getElem within)
  rw [← at_]
  rw [List.getElem?_eq_getElem (by rwa [length_lanes_tick]), Option.some.injEq] at same
  rw [same]
  exact ⟨_, List.getElem_mem within, changes⟩

end

/-- What stands behind a lane is made for a port, on a fabric of this width. -/
inductive MasterAgent.IsOf (port : Port) (width : Nat) : MasterAgent → Prop
  | split {script : Split.Master} {link : Split.Link} {bridge : Inbound}
      (speaks : port.protocol.isSplit = true) (own : bridge.port = port.id)
      (conversion : bridge.conversion = ⟨port.protocol, port.dataWidth, .simpleSync, width⟩) :
      IsOf port width (.split script link bridge)
  | simple {script : Simple.Master} (speaks : port.protocol.isSplit = false) :
      IsOf port width (.simple script)

namespace MasterAgent.IsOf

variable {port : Port} {width : Nat} {agent : MasterAgent}

theorem of_masterAgent (made : masterAgent port width = .ok agent) :
    agent.IsOf port width ∧ agent.Plays [] [] .idle := by
  cases speaks : port.protocol.isSplit with
  | true =>
    obtain ⟨conversion, between, rfl⟩ := masterAgent_split speaks made
    have clear : Inbound.IsClear { port := port.id, conversion, origin := port.base.getD 0 } :=
      ⟨rfl, rfl, rfl⟩
    exact ⟨.split speaks rfl (Conversion.eq_of_between between).1,
      .split ⟨[], rfl, .nil⟩ (.rests rfl clear)⟩
  | false =>
    unfold masterAgent at made
    cases protocol : port.protocol with
    | wideSplit | wideSplitLite =>
      rw [protocol] at speaks
      cases speaks
    | registerBus =>
      rw [protocol] at made
      cases made
    | simpleSync =>
      rw [protocol] at made
      dsimp only at made
      split at made
      · cases made
      · rw [← Except.ok.inj made]
        exact ⟨.simple speaks, .simple rfl rfl⟩

theorem tickLane {lane : Lane MasterAgent} (of : lane.agent.IsOf port width) (cycle : Nat) :
    (tickLane cycle lane).1.agent.IsOf port width := by
  generalize held : lane.agent = agent at of
  unfold Fabric.tickLane
  rw [held]
  cases of with
  | simple speaks => exact .simple speaks
  | @split script link bridge speaks own conversion =>
    obtain ⟨reports, _⟩ := Inbound.Junction.tick_reports
      ⟨bridge, (script.tick link cycle).2, lane.link⟩ cycle
    exact .split speaks (reports.port.trans own) (reports.conversion.trans conversion)

theorem handed (of : agent.IsOf port width) (target : PortId) (action : Action) :
    (agent.handed target action).IsOf port width := by
  cases of with
  | simple speaks =>
    rw [handed_simple]
    exact .simple speaks
  | split speaks own conversion =>
    rw [handed_split]
    exact .split speaks own conversion

/-- Whether there is a bridge is a matter of the port's protocol. -/
theorem isSplit (of : agent.IsOf port width) :
    agent.bridge? ≠ none ↔ port.protocol.isSplit = true := by
  cases of with
  | split speaks _ _ => exact iff_of_true (Option.some_ne_none _) speaks
  | simple speaks =>
    rw [speaks]
    exact iff_of_false (fun some_ => some_ rfl) Bool.false_ne_true

end MasterAgent.IsOf

/-- A lane is that of a master port, and the master behind it plays what it was handed: as long as
writes come with all their data beats, if there is a bridge. -/
structure Manned (config : Config) (ops : PortId → List Op) (requests : PortId → List Request)
    (lane : Lane MasterAgent) : Prop where
  owner : ∃ port ∈ config.ports, port.role = .master ∧ port.id = lane.port ∧
    lane.agent.IsOf port config.width
  plays : (lane.agent.bridge? ≠ none → ∀ op ∈ ops lane.port, op.IsWhole) →
    lane.agent.Plays (ops lane.port) (requests lane.port) lane.link

namespace Manned

variable {config : Config} {ops : PortId → List Op} {requests : PortId → List Request}
  {lane after : Lane MasterAgent}

theorem turns (manned : Manned config ops requests lane)
    (whole : lane.agent.bridge? ≠ none → ∀ op ∈ ops lane.port, op.IsWhole) (cycle : Nat) :
    Turns (ops lane.port) (requests lane.port) lane (tickLane cycle lane).1 :=
  (manned.plays whole).tick whole cycle

theorem tick (manned : Manned config ops requests lane) (cycle : Nat)
    (changes : Lane.Changes (tickLane cycle lane).1 after) :
    Manned config ops requests after := by
  have samePort : after.port = lane.port := changes.port.trans (tickLane_port cycle lane)
  obtain ⟨port, listed, asks, id, of⟩ := manned.owner
  have moved := of.tickLane cycle
  rw [← changes.agent] at moved
  refine ⟨⟨port, listed, asks, id.trans samePort.symm, moved⟩, fun whole => ?_⟩
  rw [moved.isSplit, ← of.isSplit, samePort] at whole
  have plays := (manned.turns whole cycle).plays.mayAcknowledge changes.link
  rw [samePort, changes.agent]
  exact plays

theorem handed (manned : Manned config ops requests lane) (action : Action) :
    Manned config (fun port => ops port ++ (action.splitOp? port).toList)
      (fun port => requests port ++ (action.request? port).toList)
      { lane with agent := lane.agent.handed lane.port action } := by
  obtain ⟨port, listed, asks, id, of⟩ := manned.owner
  refine ⟨⟨port, listed, asks, id, of.handed lane.port action⟩, fun whole => ?_⟩
  rw [(of.handed lane.port action).isSplit, ← of.isSplit] at whole
  exact (manned.plays fun bridged op listed =>
    whole bridged op (List.mem_append_left _ listed)).handed lane.port action

end Manned

structure Briefed (config : Config) (ops : PortId → List Op) (requests : PortId → List Request)
    (fabric : Fabric) : Prop where
  numbered : (config.ports.map (·.id)).Nodup
  apart : (fabric.crossbar.lanes.map (·.port)).Nodup
  masters : ∀ port ∈ config.ports, port.role = .master →
    port.id ∈ fabric.crossbar.lanes.map (·.port)
  manned : ∀ lane ∈ fabric.crossbar.lanes, Manned config ops requests lane

theorem ports_act (fabric : Fabric) (action : Action) :
    (fabric.act action).crossbar.lanes.map (·.port) = fabric.crossbar.lanes.map (·.port) := by
  by_cases push : action = .tick
  · subst push
    have lasting : Lane.Lasting fun lane : Lane MasterAgent => lane.port :=
      ⟨fun _ _ => rfl, fun _ _ => rfl⟩
    show fabric.tick.crossbar.lanes.map _ = _
    rw [tick_crossbar]
    refine (lasting.tick fabric.afterMasters fabric.cycle).trans ?_
    unfold afterMasters
    rw [List.map_map]
    exact List.map_congr_left fun lane _ => tickLane_port fabric.cycle lane
  · rw [act_handed fabric push, List.map_map]
    rfl

namespace Briefed

variable {config : Config} {ops : PortId → List Op} {requests : PortId → List Request}
  {fabric : Fabric} {stages : Nat → Stage}

theorem act (briefed : Briefed config ops requests fabric)
    (engaged : Engaged fabric.crossbar stages) (action : Action) :
    Briefed config (fun port => ops port ++ (action.splitOp? port).toList)
      (fun port => requests port ++ (action.request? port).toList) (fabric.act action) := by
  refine ⟨briefed.numbered, by rw [ports_act]; exact briefed.apart,
    by rw [ports_act]; exact briefed.masters, ?_⟩
  intro after member
  by_cases push : action = .tick
  · subst push
    obtain ⟨lane, listed, changes⟩ := lane_before_tick engaged member
    have manned := (briefed.manned lane listed).tick fabric.cycle changes
    rw [← funext fun port => List.append_nil (ops port),
      ← funext fun port => List.append_nil (requests port)] at manned
    exact manned
  · rw [act_handed fabric push] at member
    obtain ⟨lane, listed, rfl⟩ := List.mem_map.mp member
    exact (briefed.manned lane listed).handed action

theorem tick (briefed : Briefed config ops requests fabric)
    (engaged : Engaged fabric.crossbar stages) : Briefed config ops requests fabric.tick := by
  have moved := briefed.act engaged .tick
  simp only [Action.splitOp?, Action.request?, Option.toList_none, List.append_nil] at moved
  exact moved

theorem play (briefed : Briefed config ops requests fabric) {left : Nat → Nat}
    (attended : Attended fabric stages left) (actions : List Action) :
    (∃ stages left, Attended (fabric.play actions) stages left) ∧
      Briefed config (fun port => ops port ++ splitOps port actions)
        (fun port => requests port ++ simpleRequests port actions) (fabric.play actions) := by
  induction actions generalizing fabric stages left ops requests with
  | nil =>
    rw [← funext fun port => List.append_nil (ops port),
      ← funext fun port => List.append_nil (requests port)] at briefed
    exact ⟨⟨stages, left, attended⟩, briefed⟩
  | cons action rest ih =>
    obtain ⟨_, _, moved⟩ := attended.act action
    have whole := ih (briefed.act attended.toEngaged action) moved
    simp only [List.append_assoc, ← splitOps_cons, ← simpleRequests_cons] at whole
    exact whole

/-- The lane of a port is the one that is found by the port's number. -/
theorem findSome?_lane (briefed : Briefed config ops requests fabric) {lane : Lane MasterAgent}
    (member : lane ∈ fabric.crossbar.lanes) {β : Type} {view : Lane MasterAgent → Option β}
    {shown : β} (here : view lane = some shown)
    (only : ∀ other, (view other).isSome = true → other.port = lane.port) :
    fabric.crossbar.lanes.findSome? view = some shown := by
  cases found : fabric.crossbar.lanes.findSome? view with
  | none =>
    rw [List.findSome?_eq_none_iff.mp found lane member] at here
    cases here
  | some item =>
    obtain ⟨other, held, seen⟩ := List.exists_of_findSome?_eq_some found
    have same : other = lane := List.inj_on_of_nodup_map briefed.apart held member
      (only other (by rw [seen]; rfl))
    rw [same, here] at seen
    exact seen.symm

theorem exists_lane (briefed : Briefed config ops requests fabric) {port : Port}
    (listed : port ∈ config.ports) (asks : port.role = .master) :
    ∃ lane ∈ fabric.crossbar.lanes, lane.port = port.id ∧ lane.agent.IsOf port config.width := by
  obtain ⟨lane, member, id⟩ := List.mem_map.mp (briefed.masters port listed asks)
  obtain ⟨owner, known, _, number, of⟩ := (briefed.manned lane member).owner
  obtain rfl : owner = port :=
    List.inj_on_of_nodup_map briefed.numbered known listed (number.trans id)
  exact ⟨lane, member, id, of⟩

theorem splitMaster? (briefed : Briefed config ops requests fabric) {port : Port}
    (listed : port ∈ config.ports) (asks : port.role = .master)
    (speaks : port.protocol.isSplit = true) :
    ∃ lane ∈ fabric.crossbar.lanes, ∃ script link bridge, lane.port = port.id ∧
      lane.agent = .split script link bridge ∧
      bridge.conversion = ⟨port.protocol, port.dataWidth, .simpleSync, config.width⟩ ∧
      fabric.splitMaster? port.id = some (script, bridge) := by
  obtain ⟨lane, member, id, of⟩ := briefed.exists_lane listed asks
  generalize agent : lane.agent = held at of
  cases of with
  | simple other =>
    rw [speaks] at other
    cases other
  | @split script link bridge _ _ conversion =>
    refine ⟨lane, member, script, link, bridge, id, agent, conversion, ?_⟩
    refine briefed.findSome?_lane member (by simp [agent, id]) fun other shown => ?_
    split at shown
    · split at shown
      · rename_i named
        exact named.trans id.symm
      · cases shown
    · cases shown

theorem simpleMaster? (briefed : Briefed config ops requests fabric) {port : Port}
    (listed : port ∈ config.ports) (asks : port.role = .master)
    (speaks : port.protocol.isSplit = false) :
    ∃ lane ∈ fabric.crossbar.lanes, ∃ script, lane.port = port.id ∧ lane.agent = .simple script ∧
      fabric.simpleMaster? port.id = some script := by
  obtain ⟨lane, member, id, of⟩ := briefed.exists_lane listed asks
  generalize agent : lane.agent = held at of
  cases of with
  | split other _ _ =>
    rw [speaks] at other
    cases other
  | @simple script _ =>
    refine ⟨lane, member, script, id, agent, ?_⟩
    refine briefed.findSome?_lane member (by simp [agent, id]) fun other shown => ?_
    split at shown
    · split at shown
      · rename_i named
        exact named.trans id.symm
      · cases shown
    · cases shown

end Briefed

theorem briefed_play {config : Config} {fabric : Fabric} (built : build config = .ok fabric)
    (actions : List Action) :
    (∃ stages left, Attended (fabric.play actions) stages left) ∧
      Briefed config (splitOps · actions) (simpleRequests · actions) (fabric.play actions) := by
  obtain ⟨staffed, left, attended⟩ := staffed_build built
  have mapped := mapped_build built
  have idle : ∀ lane ∈ fabric.crossbar.lanes, lane.link = .idle := by
    obtain ⟨_, parts, _, _, _, rfl⟩ := build_parts built
    intro lane member
    obtain ⟨index, _, rfl⟩ := List.mem_mapIdx.mp member
    rfl
  have start : Briefed config (fun _ => []) (fun _ => []) fabric := by
    refine ⟨mapped.numbered, staffed.lanes, ?_, ?_⟩
    · intro port listed asks
      obtain ⟨lane, member, id, _⟩ := mapped.masters port listed asks
      exact List.mem_map.mpr ⟨lane, member, id⟩
    · intro lane member
      obtain ⟨port, listed, asks, id⟩ := staffed.masters lane member
      obtain ⟨same, known, owns, made⟩ := mapped.lanes lane member
      obtain rfl : port = same :=
        List.inj_on_of_nodup_map mapped.numbered listed known (id.trans owns.symm)
      obtain ⟨of, plays⟩ := MasterAgent.IsOf.of_masterAgent made
      exact ⟨⟨port, listed, asks, id, of⟩, fun _ => by rwa [idle lane member]⟩
  exact start.play attended actions

end BusFabric.Fabric
