import BusFabric.Proofs.Fabric.Scripts

set_option autoImplicit false

namespace BusFabric.Fabric

open Bridge (Conversion Inbound)
open Crossbar (Engaged Lane Stage)
open Simple (Request)
open Split (Op)

def isStuck (lane : Lane MasterAgent) : Bool :=
  lane.agent.bridge?.any (·.isHalted)

def OwnsBridge (lane : Lane MasterAgent) : Prop :=
  ∀ bridge, lane.agent.bridge? = some bridge → bridge.port = lane.port

theorem tickLane_reports {lane : Lane MasterAgent} (own : OwnsBridge lane) (cycle : Nat) :
    isStuck (tickLane cycle lane).1 = (isStuck lane || (tickLane cycle lane).2.isSome) ∧
      ∀ fault, (tickLane cycle lane).2 = some fault →
        fault.port = lane.port ∧ isStuck lane = false := by
  unfold OwnsBridge at own
  unfold isStuck tickLane
  cases agent : lane.agent with
  | simple script => exact ⟨rfl, nofun⟩
  | split script link bridge =>
    rw [agent] at own
    obtain ⟨reports, faults⟩ := Inbound.Junction.tick_reports
      ⟨bridge, (script.tick link cycle).2, lane.link⟩ cycle
    refine ⟨reports.halts, fun fault reported => ?_⟩
    obtain ⟨port, running⟩ := faults fault reported
    exact ⟨port.trans (own bridge rfl), running⟩

/-- The lanes that are stuck after their masters moved are those that were, and those for which a
fault is reported. -/
theorem perm_stuck (cycle : Nat) {lanes : List (Lane MasterAgent)}
    (own : ∀ lane ∈ lanes, OwnsBridge lane) :
    ((lanes.filter isStuck).map (·.port) ++
        (lanes.filterMap fun lane => (tickLane cycle lane).2).map (·.port)).Perm
      (((lanes.map fun lane => (tickLane cycle lane).1).filter isStuck).map (·.port)) := by
  induction lanes with
  | nil => exact .nil
  | cons lane lanes ih =>
    have rest := ih fun other member => own other (List.mem_cons_of_mem _ member)
    obtain ⟨stuck, named⟩ := tickLane_reports (own lane (List.mem_cons_self ..)) cycle
    have port := tickLane_port cycle lane
    rw [List.map_cons, List.filter_cons, List.filter_cons, List.filterMap_cons, stuck]
    cases reported : (tickLane cycle lane).2 with
    | none =>
      cases isStuck lane with
      | false => exact rest
      | true =>
        simp only [Option.isSome_none, Bool.or_false, if_true, List.map_cons, List.cons_append,
          port]
        exact rest.cons _
    | some fault =>
      obtain ⟨here, running⟩ := named fault reported
      rw [running]
      simp only [Option.isSome_some, Bool.or_true, if_true, Bool.false_eq_true, if_false,
        List.map_cons, here, port]
      exact List.perm_middle.trans (rest.cons _)

def Recorded (fabric : Fabric) : Prop :=
  (fabric.faults.toList.map (·.port)).Perm
    ((fabric.crossbar.lanes.filter isStuck).map (·.port))

theorem tick_faults (fabric : Fabric) :
    fabric.tick.faults = fabric.faults.appendList
      ((fabric.crossbar.lanes.map (tickLane fabric.cycle)).filterMap Prod.snd ++
        (fabric.afterCrossbar.slots.map (tickSlot fabric.cycle)).filterMap Prod.snd) := by
  simp only [tick, afterCrossbar, afterMasters, List.map_map]
  rfl

theorem stuck_tick (fabric : Fabric) :
    (fabric.tick.crossbar.lanes.filter isStuck).map (·.port) =
      (fabric.afterMasters.lanes.filter isStuck).map (·.port) := by
  have lasting : Lane.Lasting fun lane : Lane MasterAgent => (isStuck lane, lane.port) :=
    ⟨fun _ _ => rfl, fun _ _ => rfl⟩
  have shown := lasting.tick fabric.afterMasters fabric.cycle
  have split (lanes : List (Lane MasterAgent)) : (lanes.filter isStuck).map (·.port) =
      ((lanes.map fun lane => (isStuck lane, lane.port)).filter (·.1)).map (·.2) := by
    rw [List.filter_map, List.map_map]
    rfl
  rw [split, split, tick_crossbar]
  exact congrArg (fun views => (views.filter (·.1)).map (·.2)) shown

theorem Recorded.exists_fault_iff {fabric : Fabric} (recorded : Recorded fabric) {port : PortId} :
    (∃ fault ∈ fabric.faults.toList, fault.port = port) ↔
      ∃ lane ∈ fabric.crossbar.lanes, isStuck lane = true ∧ lane.port = port := by
  rw [← List.mem_map, recorded.mem_iff, List.mem_map]
  simp only [List.mem_filter, and_assoc]

section

variable {config : Config} {ops : PortId → List Op} {requests : PortId → List Request}
  {fabric : Fabric} {stages : Nat → Stage} {left : Nat → Nat}

theorem Attended.faults_tick (attended : Attended fabric stages left) :
    fabric.tick.faults.toList = fabric.faults.toList ++
      fabric.crossbar.lanes.filterMap fun lane => (tickLane fabric.cycle lane).2 := by
  have silent : (fabric.afterCrossbar.slots.map (tickSlot fabric.cycle)).filterMap Prod.snd =
      [] := by
    rw [List.filterMap_map, List.filterMap_eq_nil_iff]
    exact attended.faultless
  rw [tick_faults, silent, List.append_nil, List.filterMap_map, Array.appendList_eq_append,
    Array.toList_appendList]
  rfl

theorem Briefed.ownsBridge (briefed : Briefed config ops requests fabric) :
    ∀ lane ∈ fabric.crossbar.lanes, OwnsBridge lane := by
  intro lane member bridge held
  obtain ⟨port, _, _, id, of⟩ := (briefed.manned lane member).owner
  generalize lane.agent = agent at of held
  cases of with
  | simple speaks => cases held
  | split speaks own conversion =>
    cases held
    exact own.trans id

theorem Recorded.act (recorded : Recorded fabric) (briefed : Briefed config ops requests fabric)
    (attended : Attended fabric stages left) (action : Action) : Recorded (fabric.act action) := by
  unfold Recorded
  by_cases push : action = .tick
  · subst push
    show (fabric.tick.faults.toList.map _).Perm _
    rw [attended.faults_tick, List.map_append]
    refine (recorded.append_right _).trans ((perm_stuck fabric.cycle briefed.ownsBridge).trans ?_)
    exact .of_eq (stuck_tick fabric).symm
  · rw [act_handed fabric push]
    refine recorded.trans (.of_eq ?_)
    rw [List.filter_map, List.map_map]
    congr 1
    refine List.filter_congr fun lane _ => ?_
    unfold isStuck
    exact congrArg (·.any (·.isHalted)) (lane.agent.bridge?_handed lane.port action).symm

theorem Recorded.play (recorded : Recorded fabric) (briefed : Briefed config ops requests fabric)
    (attended : Attended fabric stages left) (actions : List Action) :
    Recorded (fabric.play actions) := by
  induction actions generalizing fabric stages left ops requests with
  | nil => exact recorded
  | cons action rest ih =>
    obtain ⟨_, _, moved⟩ := attended.act action
    exact ih (recorded.act briefed attended action) (briefed.act attended.toEngaged action) moved

end

theorem recorded_build {config : Config} {fabric : Fabric} (built : build config = .ok fabric) :
    Recorded fabric := by
  obtain ⟨_, briefed⟩ := briefed_play built []
  have none_ : fabric.faults = #[] := by
    obtain ⟨_, _, _, _, _, rfl⟩ := build_parts built
    rfl
  have free : fabric.crossbar.lanes.filter isStuck = [] := by
    rw [List.filter_eq_nil_iff]
    intro lane member
    have plays := (briefed.manned lane member).plays fun _ => nofun
    unfold isStuck
    generalize lane.agent = agent at plays
    cases agent with
    | simple script => exact Bool.false_ne_true
    | split script link bridge =>
      have running : bridge.isHalted = false := plays.running nofun
      simp [MasterAgent.bridge?, running]
  unfold Recorded
  rw [none_, free]
  exact .nil

/-- Whatever the masters play, and for however long: there is one fault for a port at most, and it
is that of a master, never of a slave. The bridge of a master is halted just when there is a fault
for it, which never happens to a master all of whose operations are legal. -/
theorem only_illegal_masters_fault {config : Config} {fabric : Fabric}
    (built : build config = .ok fabric) (actions : List Action) :
    ((fabric.play actions).faults.toList.map (·.port)).Nodup ∧
      (∀ fault ∈ (fabric.play actions).faults.toList,
        (∃ port ∈ config.ports, port.role = .master ∧ port.id = fault.port) ∧
          ∀ port ∈ config.ports, port.role = .slave → port.id ≠ fault.port) ∧
      ∀ port ∈ config.ports, port.role = .master → port.protocol.isSplit = true →
        ∃ script bridge, (fabric.play actions).splitMaster? port.id = some (script, bridge) ∧
          (bridge.isHalted = true ↔
            ∃ fault ∈ (fabric.play actions).faults.toList, fault.port = port.id) ∧
          ((∀ op ∈ splitOps port.id actions, op.IsLegal port.protocol port.wordBytes) →
            bridge.isHalted = false) := by
  obtain ⟨⟨_, _, attended⟩, start⟩ := briefed_play built []
  have recorded := (recorded_build built).play start attended actions
  obtain ⟨_, briefed⟩ := briefed_play built actions
  refine ⟨?_, ?_, ?_⟩
  · exact recorded.nodup_iff.mpr (briefed.apart.sublist (List.filter_sublist.map _))
  · intro fault reported
    obtain ⟨lane, member, _, named⟩ := recorded.exists_fault_iff.mp ⟨fault, reported, rfl⟩
    obtain ⟨owner, known, asks, number, _⟩ := (briefed.manned lane member).owner
    refine ⟨⟨owner, known, asks, number.trans named⟩, fun port listed answers id => ?_⟩
    obtain rfl : owner = port := List.inj_on_of_nodup_map briefed.numbered known listed
      (number.trans (named.trans id.symm))
    rw [asks] at answers
    cases answers
  · intro port listed asks speaks
    obtain ⟨lane, member, script, link, bridge, id, agent, conversion, found⟩ :=
      briefed.splitMaster? listed asks speaks
    refine ⟨script, bridge, found, ?_, fun legal => ?_⟩
    · rw [recorded.exists_fault_iff]
      have stuck : isStuck lane = bridge.isHalted := by
        rw [isStuck, agent]
        rfl
      constructor
      · intro halted
        exact ⟨lane, member, stuck.trans halted, id⟩
      · rintro ⟨other, held, halted, same⟩
        obtain rfl : other = lane :=
          List.inj_on_of_nodup_map briefed.apart held member (same.trans id.symm)
        exact stuck.symm.trans halted
    · have plays := (briefed.manned lane member).plays fun _ op played =>
        (legal op (id ▸ played)).isWhole
      rw [agent, id] at plays
      refine plays.running ?_
      have suits : bridge.conversion.source = port.protocol ∧
          bridge.conversion.splitBytes = port.wordBytes := by
        rw [conversion]
        simp [Conversion.splitBytes, Conversion.splitWidth, Conversion.direction, speaks,
          Port.wordBytes]
      rw [suits.1, suits.2]
      exact legal

def neighbours : Config where
  width := 32
  ports :=
    [{ id := ⟨0⟩, name := "bad", protocol := .wideSplit, role := .master, dataWidth := 32,
       addressWidth := 30 },
     { id := ⟨1⟩, name := "good", protocol := .wideSplit, role := .master, dataWidth := 32,
       addressWidth := 30 },
     { id := ⟨2⟩, name := "sram", protocol := .simpleSync, role := .slave, dataWidth := 32,
       addressWidth := 30, base := some 0, size := some 0x1000 }]

/-- The first of four data beats claims to be the last one, while the neighbour reads a word. -/
def earlyLast : List Action :=
  .pushSplit ⟨0⟩
      (.write (.incr 3 0x40 2 4) (List.replicate 4 { data := 0, strobe := 0xF, last := true })) ::
    .pushSplit ⟨1⟩ (.read (.incr 2 0x100 2 1)) :: List.replicate 4 .tick

/-- A master faults, and its neighbour does not. -/
theorem neighbour_goes_on :
    ∃ fabric, build neighbours = .ok fabric ∧
      (fabric.play earlyLast).faults.toList.map (·.port) = [⟨0⟩] ∧
      ((fabric.play earlyLast).faults.toList.map (·.port)).Nodup ∧
      ∃ script bridge, (fabric.play earlyLast).splitMaster? ⟨1⟩ = some (script, bridge) ∧
        bridge.isHalted = false := by
  have built : build neighbours = .ok _ := rfl
  obtain ⟨once, _, masters⟩ := only_illegal_masters_fault built earlyLast
  obtain ⟨script, bridge, found, _, running⟩ :=
    masters _ (List.mem_cons_of_mem _ (List.mem_cons_self ..)) rfl rfl
  refine ⟨_, built, rfl, once, script, bridge, found, running ?_⟩
  intro op played
  have only : splitOps ⟨1⟩ earlyLast = [.read (.incr 2 0x100 2 1)] := rfl
  rw [only, List.mem_singleton] at played
  subst played
  exact ⟨by decide, nofun, nofun⟩

end BusFabric.Fabric
