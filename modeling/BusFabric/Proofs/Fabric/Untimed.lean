import BusFabric.Proofs.Fabric.Play

set_option autoImplicit false

namespace BusFabric

def ProtocolFault.untimed (fault : ProtocolFault) : ProtocolFault :=
  { fault with cycle := 0 }

def Grant.untimed (grant : Grant) : Grant :=
  { grant with cycle := 0 }

def Device.Endpoint.untimed (endpoint : Device.Endpoint) : Device.Endpoint :=
  { endpoint with latency := 0, waited := 0 }

namespace Simple

/-- What came back, whenever it did. -/
def Completion.untimed (completion : Completion) : Completion :=
  { completion with cycle := 0 }

def Master.untimed (master : Master) : Master :=
  { master with completions := master.completions.map (·.untimed) }

theorem Master.tick_untimed (master : Master) (link : Link) (cycle : Nat) :
    master.untimed.tick link 0 =
      ((master.tick link cycle).1.untimed, (master.tick link cycle).2) := by
  obtain ⟨queue, outstanding, completions⟩ := master
  cases outstanding <;> cases queue <;> cases link <;>
    simp [tick, observe, raise, Master.untimed, Completion.untimed, Link.response?,
      Link.completed, Link.issue?]

end Simple

namespace Split

/-- What came back, whenever it did. -/
def Completion.untimed : Completion → Completion
  | write id status _ => .write id status 0
  | read id data status _ => .read id data status 0

def Master.untimed (master : Master) : Master :=
  { master with completions := master.completions.map (·.untimed) }

def Ram.untimed (ram : Ram) : Ram :=
  { ram with latency := 0, waited := 0 }

namespace Master

theorem untimed_finish (master : Master) (completion : Completion) :
    (master.finish completion).untimed = master.untimed.finish completion.untimed := by
  simp [finish, untimed]

theorem start_untimed (master : Master) : master.untimed.start = master.start.untimed := by
  obtain ⟨_, queue, current, _⟩ := master
  cases current <;> cases queue <;> rfl

section

variable (master : Master) (link : Link) (cycle : Nat)

theorem tickWrite_untimed (playing : Playing) (burst : AddressBeat) (beats : List WriteBeat) :
    master.untimed.tickWrite link 0 playing burst beats =
      ((master.tickWrite link cycle playing burst beats).1.untimed,
        (master.tickWrite link cycle playing burst beats).2) := by
  unfold tickWrite
  dsimp only
  cases link.writeResponse.beat with
  | none => rfl
  | some response =>
    dsimp only
    generalize (link.writeAddress.settle (if playing.addressSent then none else some burst)).2.isNone
      = sent
    cases sent with
    | false => rfl
    | true =>
      simp only [if_true]
      rw [untimed_finish]
      rfl

theorem tickRead_untimed (playing : Playing) (burst : AddressBeat) :
    master.untimed.tickRead link 0 playing burst =
      ((master.tickRead link cycle playing burst).1.untimed,
        (master.tickRead link cycle playing burst).2) := by
  unfold tickRead
  dsimp only
  cases link.readData.beat with
  | none => rfl
  | some beat =>
    dsimp only
    generalize (link.readAddress.settle (if playing.addressSent then none else some burst)).2.isNone
      = sent
    cases sent with
    | false => rfl
    | true =>
      cases beat.last with
      | false => rfl
      | true =>
        simp only [if_true]
        rw [untimed_finish]
        rfl

theorem tick_untimed :
    master.untimed.tick link 0 =
      ((master.tick link cycle).1.untimed, (master.tick link cycle).2) := by
  unfold tick
  rw [start_untimed]
  dsimp only
  generalize master.start = started
  have same : started.untimed.current = started.current := rfl
  rw [same]
  split
  · rfl
  · split
    · exact started.tickWrite_untimed link cycle _ _ _
    · exact started.tickRead_untimed link cycle _ _

end

end Master

end Split

theorem Bridge.Inbound.Junction.tick_untimed (junction : Bridge.Inbound.Junction) (cycle : Nat) :
    junction.tick 0 =
      ((junction.tick cycle).1, (junction.tick cycle).2.map (·.untimed)) := by
  unfold tick
  split
  · rfl
  · dsimp only
    cases junction.step.2 <;> rfl

namespace Fabric

open Crossbar (Lane Slot)

def MasterAgent.untimed : MasterAgent → MasterAgent
  | split script link bridge => .split script.untimed link bridge
  | simple script => .simple script.untimed

def SlaveAgent.untimed : SlaveAgent → SlaveAgent
  | split bridge link ram => .split bridge link ram.untimed
  | device endpoint => .device endpoint.untimed

/-- The lane, with the times of its master's record forgotten. -/
def untimedLane (lane : Lane MasterAgent) : Lane MasterAgent :=
  { lane with agent := lane.agent.untimed }

def untimedSlot (slot : Slot SlaveAgent) : Slot SlaveAgent :=
  { slot with agent := slot.agent.untimed }

/-- The fabric, with all times forgotten: of the records, of the slaves, and its own. -/
def untimed (fabric : Fabric) : Fabric :=
  { fabric with
    cycle := 0
    crossbar := { fabric.crossbar with
      lanes := fabric.crossbar.lanes.map untimedLane
      slots := fabric.crossbar.slots.map untimedSlot }
    faults := fabric.faults.map (·.untimed)
    grants := fabric.grants.map (·.untimed) }

theorem MasterAgent.isSettled_untimed (agent : MasterAgent) :
    agent.untimed.isSettled = agent.isSettled := by
  cases agent <;> rfl

theorem SlaveAgent.isSettled_untimed (agent : SlaveAgent) (link : Simple.Link) :
    agent.untimed.isSettled link = agent.isSettled link := by
  cases agent <;> rfl

theorem isIdle_untimed (fabric : Fabric) : fabric.untimed.isIdle = fabric.isIdle := by
  simp only [isIdle, Crossbar.isIdle, untimed, untimedLane, untimedSlot, List.all_map,
    Function.comp_def, MasterAgent.isSettled_untimed, SlaveAgent.isSettled_untimed]
  rfl

theorem tickLane_untimed (cycle : Nat) (lane : Lane MasterAgent) :
    tickLane 0 (untimedLane lane) =
      (untimedLane (tickLane cycle lane).1, (tickLane cycle lane).2.map (·.untimed)) := by
  obtain ⟨port, rank, isServed, link, agent⟩ := lane
  cases agent with
  | simple script =>
    simp only [tickLane, untimedLane, MasterAgent.untimed]
    rw [script.tick_untimed link cycle]
    rfl
  | split script split bridge =>
    simp only [tickLane, untimedLane, MasterAgent.untimed]
    rw [script.tick_untimed split cycle]
    dsimp only
    rw [Bridge.Inbound.Junction.tick_untimed _ cycle]

theorem MasterAgent.untimed_handed (agent : MasterAgent) (port : PortId) (action : Action) :
    (agent.handed port action).untimed = agent.untimed.handed port action := by
  cases action with
  | tick => rfl
  | pushSplit target op =>
    cases agent with
    | simple script => rfl
    | split script link bridge => exact apply_ite MasterAgent.untimed (port = target) _ _
  | pushSimple target request =>
    cases agent with
    | split script link bridge => rfl
    | simple script => exact apply_ite MasterAgent.untimed (port = target) _ _

theorem untimed_act (fabric : Fabric) {action : Action} (push : action ≠ .tick) :
    (fabric.act action).untimed = fabric.untimed.act action := by
  rw [act_handed fabric push, act_handed fabric.untimed push]
  unfold untimed
  dsimp only
  rw [List.map_map, List.map_map]
  congr 2
  refine List.map_congr_left fun lane _ => ?_
  unfold untimedLane Function.comp
  dsimp only
  rw [MasterAgent.untimed_handed]

theorem untimed_play (fabric : Fabric) {pushes : List Action} (plain : .tick ∉ pushes) :
    (fabric.play pushes).untimed = fabric.untimed.play pushes := by
  induction pushes generalizing fabric with
  | nil => rfl
  | cons action pushes ih =>
    rw [List.mem_cons, not_or] at plain
    exact (ih (fabric.act action) plain.2).trans
      (congrArg (·.play pushes) (untimed_act fabric (Ne.symm plain.1)))

end Fabric

end BusFabric
