import BusFabric.Fabric.Build
import BusFabric.Fabric.Tick
import BusFabric.Proofs.Bridge.Handshake
import BusFabric.Proofs.Crossbar.Engagement

set_option autoImplicit false

namespace BusFabric.Fabric

open Crossbar (Consistent Lane Slot Stage)
open Simple (Link)

/-- Something that happens to a fabric. -/
inductive Action where
  | pushSplit (port : PortId) (op : Split.Op)
  | pushSimple (port : PortId) (request : Simple.Request)
  | tick

/-- The fabric after an action. A push that is refused changes nothing. -/
def act (fabric : Fabric) : Action → Fabric
  | .pushSplit port op => (fabric.pushSplit port op).toOption.getD fabric
  | .pushSimple port request => (fabric.pushSimple port request).toOption.getD fabric
  | .tick => fabric.tick

def play (fabric : Fabric) (actions : List Action) : Fabric :=
  actions.foldl act fabric

theorem play_eq_of_act {β : Type} (view : Fabric → β)
    (kept : ∀ fabric action, view (fabric.act action) = view fabric) (fabric : Fabric)
    (actions : List Action) : view (fabric.play actions) = view fabric := by
  induction actions generalizing fabric with
  | nil => rfl
  | cons action rest ih => exact (ih (fabric.act action)).trans (kept fabric action)

def afterMasters (fabric : Fabric) : Crossbar MasterAgent SlaveAgent :=
  { fabric.crossbar with
    lanes := fabric.crossbar.lanes.map fun lane => (tickLane fabric.cycle lane).1 }

/-- The crossbar in a cycle, when it has moved itself and the slaves have not. -/
def afterCrossbar (fabric : Fabric) : Crossbar MasterAgent SlaveAgent :=
  (fabric.afterMasters.tick fabric.cycle).1

theorem tick_crossbar (fabric : Fabric) :
    fabric.tick.crossbar = { fabric.afterCrossbar with
      slots := fabric.afterCrossbar.slots.map fun slot => (tickSlot fabric.cycle slot).1 } := by
  simp only [tick, afterCrossbar, afterMasters, List.map_map]
  rfl

theorem tick_of_lane {fabric : Fabric} {lane moved : Lane MasterAgent}
    {fault : Option ProtocolFault} {crossed : Crossbar MasterAgent SlaveAgent}
    {grants : List Grant} {slots : List (Slot SlaveAgent)} (alone : fabric.crossbar.lanes = [lane])
    (masters : tickLane fabric.cycle lane = (moved, fault))
    (routes : { fabric.crossbar with lanes := [moved] }.tick fabric.cycle = (crossed, grants))
    (slaves : crossed.slots.map (tickSlot fabric.cycle) = slots.map (·, none)) :
    fabric.tick = { fabric with
      cycle := fabric.cycle + 1
      crossbar := { crossed with slots }
      faults := fabric.faults.appendList fault.toList
      grants := if fabric.recordsGrants then fabric.grants.appendList grants
        else fabric.grants } := by
  have lanes : fabric.crossbar.lanes.map (tickLane fabric.cycle) = [(moved, fault)] := by
    rw [alone, List.map_singleton, masters]
  have faults : (slots.map (·, (none : Option ProtocolFault))).filterMap Prod.snd = [] := by
    rw [List.filterMap_map]
    exact List.filterMap_eq_nil_iff.mpr fun _ _ => rfl
  have fault' : [(moved, fault)].filterMap Prod.snd = fault.toList := by
    cases fault <;> rfl
  have slots' : (slots.map (·, (none : Option ProtocolFault))).map Prod.fst = slots := by
    rw [List.map_map]
    exact List.map_id _
  unfold tick
  dsimp only
  rw [lanes, List.map_singleton, routes, slaves, faults, fault', slots', List.append_nil]

theorem ticks_add (fabric : Fabric) (first second : Nat) :
    fabric.ticks (first + second) = (fabric.ticks first).ticks second := by
  induction first generalizing fabric with
  | zero => rw [Nat.zero_add]; rfl
  | succ first ih =>
    rw [Nat.succ_add]
    exact ih fabric.tick

theorem ticks_succ (fabric : Fabric) (count : Nat) :
    fabric.ticks (count + 1) = (fabric.ticks count).tick :=
  fabric.ticks_add count 1

theorem tickLane_isServed (cycle : Nat) (lane : Lane MasterAgent) :
    (tickLane cycle lane).1.isServed = lane.isServed := by
  unfold tickLane
  split <;> rfl

/-- A master does not see whether its lane is served. -/
theorem tickLane_serve (cycle : Nat) (lane : Lane MasterAgent) (isServed : Bool) :
    tickLane cycle { lane with isServed } =
      ({ (tickLane cycle lane).1 with isServed }, (tickLane cycle lane).2) := by
  unfold tickLane
  dsimp only
  split <;> rfl

theorem tickLane_mayRaise (cycle : Nat) (lane : Lane MasterAgent) :
    Link.MayRaise lane.link (tickLane cycle lane).1.link := by
  unfold tickLane
  split
  · rename_i script split bridge _
    exact Bridge.Inbound.Junction.tick_mayRaise ⟨bridge, _, lane.link⟩ cycle
  · rename_i script _
    exact script.tick_mayRaise lane.link cycle

theorem tickLane_keeps (cycle : Nat) (lane : Lane MasterAgent) :
    Link.Keeps lane.link (tickLane cycle lane).1.link :=
  (tickLane_mayRaise cycle lane).keeps

theorem tickSlot_phase (cycle : Nat) (slot : Slot SlaveAgent) :
    (tickSlot cycle slot).1.phase = slot.phase := by
  unfold tickSlot
  split <;> rfl

theorem tickSlot_mayAcknowledge (cycle : Nat) (slot : Slot SlaveAgent) :
    Link.MayAcknowledge slot.link (tickSlot cycle slot).1.link := by
  unfold tickSlot
  split
  · rename_i bridge split ram _
    exact Bridge.Outbound.Junction.tick_mayAcknowledge ⟨bridge, slot.link, split⟩ cycle
  · rename_i endpoint _
    exact endpoint.tick_mayAcknowledge slot.link

theorem consistent_afterMasters {fabric : Fabric} {stages : Nat → Stage}
    (consistent : Consistent fabric.crossbar stages) : Consistent fabric.afterMasters stages :=
  consistent.mapLanes _ (tickLane_isServed fabric.cycle) (tickLane_keeps fabric.cycle)

/-- The choice that the crossbar makes for a slot in a cycle. -/
def granted? (fabric : Fabric) (index : Nat) : Option Crossbar.Candidate :=
  fabric.afterMasters.granted? index

theorem consistent_afterCrossbar {fabric : Fabric} {stages : Nat → Stage}
    (consistent : Consistent fabric.crossbar stages) :
    Consistent fabric.afterCrossbar fun index => (stages index).next (fabric.granted? index) :=
  (consistent_afterMasters consistent).tick fabric.cycle

theorem consistent_tick {fabric : Fabric} {stages : Nat → Stage}
    (consistent : Consistent fabric.crossbar stages) :
    Consistent fabric.tick.crossbar fun index =>
      fabric.afterCrossbar.slots[index]?.elim ((stages index).next (fabric.granted? index))
        fun slot => ((stages index).next (fabric.granted? index)).serve
          (tickSlot fabric.cycle slot).1.link := by
  rw [tick_crossbar]
  exact (consistent_afterCrossbar consistent).mapSlots _ (tickSlot_phase fabric.cycle)
    (tickSlot_mayAcknowledge fabric.cycle)

def MasterAgent.bridge? : MasterAgent → Option Bridge.Inbound
  | split _ _ bridge => some bridge
  | simple _ => none

def MasterAgent.handed (agent : MasterAgent) (port : PortId) (action : Action) : MasterAgent :=
  match action, agent with
  | .pushSplit target op, split script link bridge =>
    if port = target then split (script.push op) link bridge else agent
  | .pushSimple target request, simple script =>
    if port = target then simple (script.push request) else agent
  | _, _ => agent

theorem MasterAgent.bridge?_handed (agent : MasterAgent) (port : PortId) (action : Action) :
    (agent.handed port action).bridge? = agent.bridge? := by
  unfold handed
  split
  · split <;> rfl
  · split <;> rfl
  · rfl

/-- A push reaches the lanes of its port that speak the protocol, and changes nothing else. Where
there is no such lane it is refused. -/
theorem act_handed (fabric : Fabric) {action : Action} (push : action ≠ .tick) :
    fabric.act action = { fabric with crossbar := { fabric.crossbar with
      lanes := fabric.crossbar.lanes.map fun lane =>
        { lane with agent := lane.agent.handed lane.port action } } } := by
  -- the lanes say it all
  suffices lanes : (fabric.act action).crossbar.lanes = fabric.crossbar.lanes.map
      (fun lane => { lane with agent := lane.agent.handed lane.port action }) ∧
      fabric.act action = { fabric with crossbar := { fabric.crossbar with
        lanes := (fabric.act action).crossbar.lanes } } by
    rw [← lanes.1]
    exact lanes.2
  have refused (absent : ∀ lane ∈ fabric.crossbar.lanes,
      lane.agent.handed lane.port action = lane.agent) :
      fabric.crossbar.lanes = fabric.crossbar.lanes.map
        fun lane => { lane with agent := lane.agent.handed lane.port action } := by
    refine (Crossbar.map_eq_self fun lane member => ?_).symm
    rw [absent lane member]
  have modified {port : PortId} {change : MasterAgent → MasterAgent}
      (same : ∀ agent own, MasterAgent.handed agent own action =
        if own = port then change agent else agent) :
      (fabric.modifyMaster port change).crossbar.lanes = fabric.crossbar.lanes.map
        fun lane => { lane with agent := lane.agent.handed lane.port action } := by
    refine List.map_congr_left fun lane _ => ?_
    rw [same]
    split <;> rfl
  cases action with
  | tick => exact absurd rfl push
  | pushSplit port op =>
    simp only [act, pushSplit]
    split
    · rename_i unknown
      refine ⟨refused fun lane member => ?_, rfl⟩
      have never := List.findSome?_eq_none_iff.mp unknown lane member
      cases agent : lane.agent with
      | simple script => rfl
      | split script link bridge =>
        rw [agent] at never
        exact if_neg (by simpa using never)
    · simp only [Except.toOption, Option.getD_some]
      refine ⟨modified fun agent own => ?_, rfl⟩
      cases agent with
      | split script link bridge => rfl
      | simple script => exact (ite_self _).symm
  | pushSimple port request =>
    simp only [act, pushSimple]
    split
    · rename_i unknown
      refine ⟨refused fun lane member => ?_, rfl⟩
      have never := List.findSome?_eq_none_iff.mp unknown lane member
      cases agent : lane.agent with
      | split script link bridge => rfl
      | simple script =>
        rw [agent] at never
        exact if_neg (by simpa using never)
    · simp only [Except.toOption, Option.getD_some]
      refine ⟨modified fun agent own => ?_, rfl⟩
      cases agent with
      | simple script => rfl
      | split script link bridge => exact (ite_self _).symm

/-- A push changes the scripts of some lanes and nothing else. -/
theorem act_push (fabric : Fabric) {action : Action} (push : action ≠ .tick) :
    ∃ change : Lane MasterAgent → MasterAgent,
      (∀ lane, (change lane).bridge? = lane.agent.bridge?) ∧
      fabric.act action = { fabric with crossbar := { fabric.crossbar with
        lanes := fabric.crossbar.lanes.map fun lane => { lane with agent := change lane } } } :=
  ⟨fun lane => lane.agent.handed lane.port action,
    fun lane => lane.agent.bridge?_handed lane.port action, fabric.act_handed push⟩

theorem consistent_push {fabric : Fabric} {stages : Nat → Stage} {action : Action}
    (push : action ≠ .tick) (consistent : Consistent fabric.crossbar stages) :
    Consistent (fabric.act action).crossbar stages := by
  obtain ⟨change, _, pushed⟩ := fabric.act_push push
  rw [pushed]
  exact consistent.mapLanes _ (fun _ => rfl) (fun _ => Link.Keeps.refl _)

theorem build_parts {config : Config} {fabric : Fabric} (built : build config = .ok fabric) :
    ∃ first parts layout,
      (sortByNumber config.ports).foldlM (fun parts port => parts.add config port) ({} : Parts) =
        .ok first ∧
      first.addBanks config = .ok (parts, layout) ∧
      fabric =
        { width := config.width
          crossbar := .create parts.map.freeze parts.masters parts.slaves config.tieBreak
          layout
          platform := config.platform
          recordsGrants := config.recordsGrants } := by
  unfold build at built
  simp only [bind, Except.bind] at built
  repeat' split at built
  all_goals cases built
  exact ⟨_, _, _, ‹_›, ‹_›, rfl⟩

theorem consistent_build {config : Config} {fabric : Fabric} (built : build config = .ok fabric) :
    Consistent fabric.crossbar fun _ => .idle := by
  obtain ⟨_, parts, _, _, _, rfl⟩ := build_parts built
  constructor
  · intro index slot found
    simp only [Crossbar.create, List.getElem?_map, Option.map_eq_some_iff] at found
    obtain ⟨_, _, rfl⟩ := found
    exact ⟨rfl, rfl⟩
  · intro index lane request works
    cases works
  · intro first second lane held other works
    cases works
  · intro index _
    rfl

end BusFabric.Fabric
