import BusFabric.Proofs.Fabric.Quanta
import BusFabric.Proofs.Split.Master

set_option autoImplicit false

namespace BusFabric

namespace Fabric

open Crossbar (Lane)

/-- The agent's script is played, or it is stuck behind a halted bridge. -/
def MasterAgent.HasEnded : MasterAgent → Prop
  | split script _ bridge => bridge.isHalted = true ∨ script.isDone = true
  | simple script => script.isDone = true

theorem MasterAgent.HasEnded.of_isSettled {agent : MasterAgent} (settled : agent.isSettled = true) :
    agent.HasEnded := by
  cases agent with
  | split script link bridge =>
    unfold isSettled at settled
    rw [Bool.or_eq_true, Bool.and_eq_true] at settled
    rcases settled with halted | ⟨done, _⟩
    · exact .inl halted
    · exact .inr done
  | simple script => exact settled

theorem MasterAgent.HasEnded.tickLane {lane : Lane MasterAgent} (ended : lane.agent.HasEnded)
    (cycle : Nat) : (tickLane cycle lane).1.agent.HasEnded := by
  unfold Fabric.tickLane
  split
  · rename_i script split bridge agent
    rw [agent] at ended
    rcases ended with halted | done
    · left
      unfold Bridge.Inbound.Junction.tick
      rw [if_pos halted]
      unfold Bridge.Inbound.Junction.drain
      dsimp only
      split <;> exact halted
    · right
      rw [Split.Master.tick_done done]
      exact done
  · rename_i script agent
    rw [agent] at ended
    have done : script.isDone = true := ended
    unfold Simple.Master.isDone at done
    rw [Bool.and_eq_true, List.isEmpty_iff, Option.isNone_iff_eq_none] at done
    simp [HasEnded, Simple.Master.isDone, Simple.Master.tick, Simple.Master.observe,
      Simple.Master.raise, done.1, done.2]

def HasEnded (fabric : Fabric) : Prop :=
  ∀ agent ∈ fabric.crossbar.lanes.map (·.agent), agent.HasEnded

theorem HasEnded.of_isIdle {fabric : Fabric} (idle : fabric.isIdle = true) : fabric.HasEnded := by
  unfold isIdle at idle
  rw [Bool.and_eq_true, Bool.and_eq_true, List.all_eq_true] at idle
  intro agent mem
  obtain ⟨lane, held, rfl⟩ := List.mem_map.mp mem
  exact .of_isSettled (idle.1.1 lane held)

theorem HasEnded.tick {fabric : Fabric} (ended : fabric.HasEnded) : fabric.tick.HasEnded := by
  intro agent mem
  have agents : fabric.tick.crossbar.lanes.map (·.agent) =
      fabric.afterMasters.lanes.map (·.agent) := by
    have lasting : Lane.Lasting fun lane : Lane MasterAgent => lane.agent :=
      ⟨fun _ _ => rfl, fun _ _ => rfl⟩
    rw [tick_crossbar]
    exact lasting.tick fabric.afterMasters fabric.cycle
  rw [agents] at mem
  unfold afterMasters at mem
  rw [List.map_map] at mem
  obtain ⟨lane, held, rfl⟩ := List.mem_map.mp mem
  exact (ended _ (List.mem_map_of_mem held)).tickLane fabric.cycle

theorem HasEnded.ticks {fabric : Fabric} (ended : fabric.HasEnded) (count : Nat) :
    (fabric.ticks count).HasEnded := by
  induction count generalizing fabric with
  | zero => exact ended
  | succ count ih => exact ih ended.tick

variable {fabric : Fabric} {limits : Limits} {count : Nat}

def Limits.Allows (limits : Limits) (cycle : Nat) : Prop :=
  ∀ limit, limits.cycles = some limit → cycle ≤ limit

theorem Limits.Allows.mono {earlier later : Nat} (allows : limits.Allows later)
    (before : earlier ≤ later) : limits.Allows earlier :=
  fun limit bounds => Nat.le_trans before (allows limit bounds)

theorem LoopEnds.of_first_idle (room : limits.Allows (fabric.cycle + count))
    (busy : ∀ earlier < count, (fabric.ticks earlier).isIdle = false)
    (idle : (fabric.ticks count).isIdle = true) :
    LoopEnds limits.cycles count fabric (fabric.ticks count) .idle := by
  induction count generalizing fabric with
  | zero => exact .idle idle
  | succ count ih =>
    have cycle : fabric.tick.cycle = fabric.cycle + 1 := rfl
    refine .tick (busy 0 (Nat.succ_pos count)) (fun limit bounds => ?_) (ih ?_ ?_ idle)
    · have past := room limit bounds
      omega
    · exact room.mono (by omega)
    · intro earlier less
      exact busy (earlier + 1) (by omega)

theorem run_first_idle (timed : limits.milliseconds ≠ some 0)
    (room : limits.Allows (fabric.cycle + count))
    (busy : ∀ earlier < count, (fabric.ticks earlier).isIdle = false)
    (idle : (fabric.ticks count).isIdle = true) :
    fabric.run limits = (fabric.ticks count, .idle) :=
  (LoopEnds.of_first_idle room busy idle).endsAfter.run_eq timed

/-- A run whose scripts have not ended before its last cycle, and are settled after it. -/
theorem run_idle (unfinished : ¬ (fabric.ticks count).HasEnded)
    (idle : (fabric.ticks (count + 1)).isIdle = true)
    (timed : limits.milliseconds ≠ some 0)
    (room : fabric.cycle + (count + 1) ≤ limits.cycles.getD UInt64.size) :
    fabric.run limits = (fabric.ticks (count + 1), .idle) := by
  have busy : ∀ earlier < count + 1, (fabric.ticks earlier).isIdle = false := by
    intro earlier less
    rw [Bool.eq_false_iff]
    intro early
    apply unfinished
    have split : count = earlier + (count - earlier) := by omega
    rw [split, ticks_add]
    exact (HasEnded.of_isIdle early).ticks _
  refine run_first_idle timed (fun limit bounds => ?_) busy idle
  rwa [bounds] at room

end Fabric

end BusFabric
