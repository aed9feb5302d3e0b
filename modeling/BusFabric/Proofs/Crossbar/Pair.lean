import BusFabric.Proofs.Crossbar.Solo

set_option autoImplicit false

namespace BusFabric.Crossbar

open Simple (Request Response)

variable {MasterAgent SlaveAgent : Type}

def pair (frame : Crossbar MasterAgent SlaveAgent) (lane : Lane MasterAgent)
    (slot : Slot SlaveAgent) : Crossbar MasterAgent SlaveAgent :=
  { frame with lanes := [lane], slots := [slot] }

variable {frame : Crossbar MasterAgent SlaveAgent} {lane : Lane MasterAgent}
  {slot : Slot SlaveAgent}

@[simp] theorem pair_lanes : (pair frame lane slot).lanes = [lane] := rfl

@[simp] theorem pair_slots : (pair frame lane slot).slots = [slot] := rfl

theorem pair_eq_solo : pair frame lane slot =
    solo { frame with slots := [{ slot with phase := .idle }] } lane 0 slot := rfl

theorem idle_singleton (idle : slot.phase = .idle) : ∀ other ∈ [slot], other.phase = .idle :=
  List.forall_mem_singleton.mpr idle

section

variable (frame lane)

/-- The lane's request is forwarded to the slave. -/
theorem tick_grant {request : Request} (cycle : Nat) (idle : slot.phase = .idle)
    (free : slot.link = .idle) (unserved : lane.isServed = false)
    (waits : lane.link = .waiting request)
    (owned : frame.map.decode request.address = some slot.port) :
    ((pair frame lane slot).tick cycle).1 =
      pair frame { lane with isServed := true }
        { slot with
          phase := .granted 0
          lastRank := some lane.rank
          link := .waiting request } := by
  have target : { frame with slots := [slot] }.target? request.address = some 0 := by
    simp [target?, owned]
  exact congrArg Prod.fst (@tick_solo_grant _ _ { frame with slots := [slot] } lane 0 slot request
    (idle_singleton idle) (Lane.wants?_eq_some.mpr ⟨unserved, waits⟩) target rfl free cycle)

theorem tick_wait {request : Request} (cycle : Nat) (granted : slot.phase = .granted 0)
    (waits : slot.link = .waiting request) (served : lane.isServed = true) :
    ((pair frame lane slot).tick cycle).1 = pair frame lane slot := by
  rw [pair_eq_solo, tick_solo_wait (idle_singleton rfl) Nat.zero_lt_one granted waits served]

/-- The slave's acknowledge is taken. -/
theorem tick_take {request : Request} {response : Response} (cycle : Nat)
    (granted : slot.phase = .granted 0) (answered : slot.link = .answered request response)
    (served : lane.isServed = true) :
    ((pair frame lane slot).tick cycle).1 =
      pair frame lane { slot with phase := .completing 0 response, link := .idle } := by
  rw [pair_eq_solo, tick_solo_take (idle_singleton rfl) Nat.zero_lt_one granted answered served]
  rfl

theorem tick_deliver {request : Request} {response : Response} (cycle : Nat)
    (completing : slot.phase = .completing 0 response) (waits : lane.link = .waiting request) :
    ((pair frame lane slot).tick cycle).1 =
      pair frame { lane with link := .answered request response, isServed := false }
        { slot with phase := .idle } := by
  rw [pair_eq_solo, tick_solo_deliver (idle_singleton rfl) Nat.zero_lt_one completing waits]
  rfl

/-- Nothing is asked for and nothing is under way. -/
theorem tick_idle (cycle : Nat) (idle : slot.phase = .idle)
    (settled : lane.link.awaiting? = none) :
    ((pair frame lane slot).tick cycle).1 = pair frame lane slot := by
  have silent : ∀ other ∈ [lane], other.wants? = none :=
    List.forall_mem_singleton.mpr (by simp [Lane.wants?, settled])
  exact congrArg Prod.fst (tick_idle_of_silent (idle_singleton idle) silent cycle)

end

end BusFabric.Crossbar
