import BusFabric.Proofs.Crossbar.Fairness

set_option autoImplicit false

namespace BusFabric.Crossbar

open Simple (Link Request Response)

variable {MasterAgent SlaveAgent : Type}

/-- What a cycle may do to a lane. -/
structure Lane.Changes {Agent : Type} (before after : Lane Agent) : Prop where
  port : after.port = before.port
  agent : after.agent = before.agent
  link : Link.MayAcknowledge before.link after.link
  /-- A lane is served until it has its acknowledge. -/
  served : before.isServed = true → after.isServed = false → after.link.awaiting? = none

section

variable {crossbar : Crossbar MasterAgent SlaveAgent} {stages : Nat → Stage} {place : Nat}
  {lane after : Lane MasterAgent}

theorem Answer.mayAcknowledge {link : Link} (answer : Answer crossbar place lane link) :
    Link.MayAcknowledge lane.link link := by
  cases answer with
  | delivered _ _ waits => exact .acknowledged _ waits
  | refused wants _ => exact .acknowledged _ (Lane.wants?_eq_some.mp wants).2
  | kept _ _ => exact .same

theorem length_lanes_tick (crossbar : Crossbar MasterAgent SlaveAgent) (cycle : Nat) :
    (crossbar.tick cycle).1.lanes.length = crossbar.lanes.length := by
  simpa [frame] using congrArg (·.roster.length) (frame_tick crossbar cycle)

namespace Engaged

theorem changes (engaged : Engaged crossbar stages) (cycle : Nat)
    (found : crossbar.lanes[place]? = some lane)
    (at_ : (crossbar.tick cycle).1.lanes[place]? = some after) : Lane.Changes lane after := by
  have lasting : Lane.Lasting fun lane : Lane MasterAgent => (lane.port, lane.agent) :=
    ⟨fun _ _ => rfl, fun _ _ => rfl⟩
  have shown := congrArg (·[place]?) (lasting.tick crossbar cycle)
  simp only [List.getElem?_map, found, at_, Option.map_some, Option.some.injEq,
    Prod.mk.injEq] at shown
  refine ⟨shown.1, shown.2, (engaged.answers cycle found at_).mayAcknowledge, ?_⟩
  intro served unserved
  obtain ⟨index, request, works⟩ := engaged.served found served
  -- A slot that does not hand over goes on serving the lane.
  have stays (busy : (stages index).moveOn.job? = some (place, request)) : False := by
    have ungranted : crossbar.granted? index = none := by
      apply engaged.granted?_eq_none
      intro idle
      rw [idle] at busy
      cases busy
    have working :
        ((stages index).next (crossbar.granted? index)).job? = some (place, request) := by
      rw [ungranted]
      exact busy
    obtain ⟨held, same, serving, _⟩ := (engaged.tick cycle).held working
    rw [at_, Option.some.injEq] at same
    rw [← same, unserved] at serving
    cases serving
  cases stage : stages index with
  | idle =>
    rw [stage] at works
    cases works
  | waiting _ _ | answered _ _ _ =>
    rw [stage] at works stays
    exact (stays works).elim
  | completing _ _ response =>
    rw [stage] at works
    cases works
    have working : (stages index).job? = some (place, request) := by
      rw [stage]
      rfl
    obtain ⟨slot, owns, _⟩ := engaged.exists_slot working
    have phase := (engaged.stands owns).phase
    rw [stage] at phase
    obtain ⟨_, _, final, _, _, last, answered⟩ := engaged.hands cycle owns phase
    rw [at_, Option.some.injEq] at last
    rw [last, answered]
    rfl

theorem granted_lane (engaged : Engaged crossbar stages) {index : Nat} {candidate : Candidate}
    (granted : crossbar.granted? index = some candidate) (cycle : Nat) :
    ∃ before after, crossbar.lanes[candidate.lane]? = some before ∧
      before.wants? = some candidate.request ∧
      (crossbar.tick cycle).1.lanes[candidate.lane]? = some after ∧ after.isServed = true ∧
      after.link = .waiting candidate.request := by
  obtain ⟨before, at_, _, _, wants, _⟩ := engaged.granted?_lane granted
  obtain ⟨after, found, served, waits⟩ := grantAll_holds cycle granted
  exact ⟨before, after, at_, wants, found, served, waits⟩

/-- A slot that is done with its work is granted to some lane if one waits for it. -/
theorem granted?_ne_none (engaged : Engaged crossbar stages) {index : Nat} {request : Request}
    (found : crossbar.lanes[place]? = some lane) (wants : lane.wants? = some request)
    (target : crossbar.target? request.address = some index)
    (idle : (stages index).moveOn = .idle) : crossbar.granted? index ≠ none := by
  obtain ⟨slot, owns⟩ := slot_of_target? target
  have stands := (engaged.stands owns).moveOn
  rw [idle] at stands
  have free : slot.moveOn.phase = .idle ∧ slot.moveOn.link.isIdle = true := by
    rw [stands.phase, stands.link]
    exact ⟨rfl, rfl⟩
  have moved : crossbar.serve.refuseLost.slots[index]? = some slot.moveOn := by
    rw [show crossbar.serve.refuseLost.slots = crossbar.slots.map (·.moveOn) from rfl,
      List.getElem?_map, owns]
    rfl
  rw [granted?, choice?, moved, Option.bind_some, choose, if_pos free]
  obtain ⟨least, first⟩ := first?_isSome (engaged.mem_candidates_of_waits found wants target)
  unfold pick
  split
  · rw [first]
    exact Option.some_ne_none least
  · rw [first, ne_eq, Option.or_eq_none_iff]
    rintro ⟨_, none_⟩
    cases none_

/-- A request that waits is refused in this cycle, or its slot is busy or granted. -/
theorem wants_cases (engaged : Engaged crossbar stages) (cycle : Nat) {request : Request}
    (found : crossbar.lanes[place]? = some lane) (wants : lane.wants? = some request)
    (at_ : (crossbar.tick cycle).1.lanes[place]? = some after) :
    after.link = .answered request .refused ∨
      ∃ index, (stages index).moveOn ≠ .idle ∨ crossbar.granted? index ≠ none := by
  cases target : crossbar.target? request.address with
  | none => exact .inl (engaged.refuses cycle found at_ wants target)
  | some index =>
    refine .inr ⟨index, ?_⟩
    by_cases idle : (stages index).moveOn = .idle
    · exact .inr (engaged.granted?_ne_none found wants target idle)
    · exact .inl idle

end Engaged

end

end BusFabric.Crossbar
