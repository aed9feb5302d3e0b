import BusFabric.Proofs.Crossbar.Engagement

set_option autoImplicit false

namespace BusFabric.Crossbar

variable {MasterAgent SlaveAgent : Type} {crossbar : Crossbar MasterAgent SlaveAgent}

section

variable (silent : ∀ lane ∈ crossbar.lanes, lane.wants? = none)

include silent

theorem refuseLost_silent : crossbar.refuseLost = crossbar := by
  have kept : ∀ lane ∈ crossbar.lanes, crossbar.isLost lane = false := by
    intro lane member
    unfold isLost
    rw [silent lane member]
  have same : crossbar.lanes.map (fun lane =>
      if crossbar.isLost lane then { lane with link := lane.link.acknowledge .refused }
      else lane) = crossbar.lanes :=
    map_eq_self fun lane member => by rw [kept lane member]; rfl
  have none_ : crossbar.lanes.countP crossbar.isLost = 0 := by
    rw [List.countP_eq_zero]
    intro lane member
    rw [kept lane member]
    exact Bool.false_ne_true
  unfold refuseLost
  rw [same, none_]
  rfl

theorem choose_silent (index : Nat) (slot : Slot SlaveAgent) :
    crossbar.choose index slot = none := by
  have absent : crossbar.candidates index = [] := by
    unfold candidates
    rw [List.filterMap_eq_nil_iff]
    rintro ⟨lane, place⟩ member
    dsimp only
    rw [silent lane (List.fst_mem_of_mem_zipIdx member)]
  unfold choose
  rw [absent]
  split
  · cases slot.lastRank <;> rfl
  · rfl

theorem grantAll_silent (cycle : Nat) : crossbar.grantAll cycle = (crossbar, []) := by
  unfold grantAll
  simp only [choose_silent silent]
  have slots : (crossbar.slots.mapIdx fun _ slot => (slot, (none : Option Candidate))) =
      crossbar.slots.map fun slot => (slot, none) := by
    rw [List.mapIdx_eq_iff]
    intro index
    simp
  have ungranted : crossbar.slots.filterMap (fun _ => (none : Option Candidate)) = [] :=
    List.filterMap_eq_nil_iff.mpr fun _ _ => rfl
  rw [slots]
  simp [List.filterMap_map, Slot.grant, Function.comp_def, ungranted]

end

/-- Where no lane waits when the slots have moved on, that is all that happens. -/
theorem tick_eq_serve (silent : ∀ lane ∈ crossbar.serve.lanes, lane.wants? = none) (cycle : Nat) :
    crossbar.tick cycle = (crossbar.serve, []) := by
  unfold tick
  rw [refuseLost_silent silent, grantAll_silent silent]

/-- Slots that do not work have no acknowledges to hand over. -/
theorem deliverAll_idle {slots : List (Slot SlaveAgent)} (idle : ∀ slot ∈ slots, slot.phase = .idle)
    (lanes : List (Lane MasterAgent)) : deliverAll slots lanes = lanes := by
  apply List.ext_getElem?
  intro place
  apply deliverAll_untouched
  intro slot member response busy
  rw [idle slot member] at busy
  cases busy

theorem map_moveOn_idle {slots : List (Slot SlaveAgent)}
    (idle : ∀ slot ∈ slots, slot.phase = .idle) : slots.map (·.moveOn) = slots := by
  refine map_eq_self fun slot member => ?_
  rw [Slot.moveOn, idle slot member]

theorem serve_idle (idle : ∀ slot ∈ crossbar.slots, slot.phase = .idle) :
    crossbar.serve = crossbar := by
  unfold serve
  rw [deliverAll_idle idle, map_moveOn_idle idle]

/-- Where no lane waits and no slot works, nothing happens. -/
theorem tick_idle_of_silent (idle : ∀ slot ∈ crossbar.slots, slot.phase = .idle)
    (silent : ∀ lane ∈ crossbar.lanes, lane.wants? = none) (cycle : Nat) :
    crossbar.tick cycle = (crossbar, []) := by
  have still := serve_idle idle
  rw [tick_eq_serve (by rwa [still]), still]

end BusFabric.Crossbar
