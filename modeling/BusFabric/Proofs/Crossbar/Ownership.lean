import Mathlib.Data.List.Nodup
import Mathlib.Logic.ExistsUnique
import BusFabric.Proofs.Crossbar.Run

set_option autoImplicit false

namespace BusFabric.Crossbar

open Simple (Link Request Response)

variable {MasterAgent SlaveAgent : Type}

/-- What holds of the lanes and slots between any two moves. A history tells what was seen of a slot
so far. That a slot at work has an owner, and that it keeps an acknowledge only while it completes,
is not listed: `Phase` has no other values. -/
structure Ordered (crossbar : Crossbar MasterAgent SlaveAgent) (histories : Nat → History) :
    Prop where
  /-- A slot is at work just when there is a port it works for. -/
  idle_iff : ∀ {index : Nat} {slot : Slot SlaveAgent}, crossbar.slots[index]? = some slot →
    (slot.phase = .idle ↔ crossbar.servedPort? slot = none)
  /-- The slave has a request just when one was granted and is not acknowledged. -/
  occupied_iff : ∀ {index : Nat} {slot : Slot SlaveAgent}, crossbar.slots[index]? = some slot →
    (slot.link ≠ .idle ↔ ∃ place, slot.phase = .granted place)
  /-- A lane is served just when one slot, and one only, owns it. -/
  served_iff : ∀ {place : Nat} {lane : Lane MasterAgent}, crossbar.lanes[place]? = some lane →
    (lane.isServed = true ↔ ∃! index : Nat, ∃ slot, crossbar.slots[index]? = some slot ∧
      slot.phase.lane? = some place)
  /-- The lane that a slot owns still asserts the request forwarded last. -/
  held : ∀ {index place : Nat} {slot : Slot SlaveAgent}, crossbar.slots[index]? = some slot →
    slot.phase.lane? = some place → ∃ lane request, crossbar.lanes[place]? = some lane ∧
      crossbar.servedPort? slot = some lane.port ∧ lane.link = .waiting request ∧
      (histories index).forwarded.getLast? = some (place, request) ∧
      crossbar.target? request.address = some index
  /-- While a slot waits for its slave, the slave has the request forwarded last. -/
  granted : ∀ {index place : Nat} {slot : Slot SlaveAgent}, crossbar.slots[index]? = some slot →
    slot.phase = .granted place → ∃ request, slot.link.request? = some request ∧
      (histories index).forwarded.getLast? = some (place, request)
  /-- The acknowledge that a slot keeps is what its slave gave last. -/
  completing : ∀ {index place : Nat} {slot : Slot SlaveAgent} {response : Response},
    crossbar.slots[index]? = some slot → slot.phase = .completing place response →
      ∃ request, (histories index).performed.getLast? = some (request, response) ∧
        (histories index).forwarded.getLast? = some (place, request)
  /-- What was acknowledged is what was forwarded, in order, and each lane gets its own. -/
  inTurn : ∀ {index : Nat}, index < crossbar.slots.length → (histories index).InTurn
  /-- A slot has handed over all that was forwarded, but for the request it is at work on. -/
  delivered : ∀ {index : Nat} {slot : Slot SlaveAgent}, crossbar.slots[index]? = some slot →
    (histories index).forwarded.length =
      (histories index).delivered.length + if slot.phase = .idle then 0 else 1

inductive Answer (crossbar : Crossbar MasterAgent SlaveAgent) (place : Nat)
    (lane : Lane MasterAgent) : Link → Prop
  /-- A slot hands over the acknowledge it keeps. -/
  | delivered {index : Nat} {slot : Slot SlaveAgent} {request : Request} {response : Response}
      (found : crossbar.slots[index]? = some slot) (completes : slot.phase = .completing place response)
      (waits : lane.link = .waiting request) : Answer crossbar place lane (.answered request response)
  /-- The request is for no slot. -/
  | refused {request : Request} (wants : lane.wants? = some request)
      (lost : crossbar.target? request.address = none) :
      Answer crossbar place lane (.answered request .refused)
  /-- Neither. -/
  | kept (absent : ∀ slot ∈ crossbar.slots, ∀ response, slot.phase ≠ .completing place response)
      (decoded : ∀ request, lane.wants? = some request → crossbar.target? request.address ≠ none) :
      Answer crossbar place lane lane.link

structure Ordered.Cycle (crossbar : Crossbar MasterAgent SlaveAgent) (cycle : Nat) : Prop where
  /-- A slot that completes hands its acknowledge to the lane it owns. -/
  hands : ∀ {index place : Nat} {slot : Slot SlaveAgent} {response : Response},
    crossbar.slots[index]? = some slot → slot.phase = .completing place response →
      ∃ lane request after, crossbar.lanes[place]? = some lane ∧ lane.link = .waiting request ∧
        (crossbar.tick cycle).1.lanes[place]? = some after ∧
        after.link = .answered request response
  /-- A request that is for no slot is refused in the cycle that sees it. -/
  refuses : ∀ {place : Nat} {lane after : Lane MasterAgent} {request : Request},
    crossbar.lanes[place]? = some lane → (crossbar.tick cycle).1.lanes[place]? = some after →
      lane.wants? = some request → crossbar.target? request.address = none →
        after.link = .answered request .refused
  /-- Nothing else happens to a lane's link. -/
  answers : ∀ {place : Nat} {lane after : Lane MasterAgent}, crossbar.lanes[place]? = some lane →
    (crossbar.tick cycle).1.lanes[place]? = some after → Answer crossbar place lane after.link
  /-- When a slot comes to hand over, after those before it, its lane takes the acknowledge. -/
  taken : ∀ {index place : Nat} {slot : Slot SlaveAgent} {response : Response},
    crossbar.slots[index]? = some slot → slot.phase = .completing place response →
      ∃ lane, (deliverAll (crossbar.slots.take index) crossbar.lanes)[place]? = some lane ∧
        (lane.link.acknowledge? response).isSome
  /-- A lane whose request is refused takes the refusal. -/
  refusals : ∀ lane ∈ crossbar.serve.lanes, crossbar.serve.isLost lane = true →
    (lane.link.acknowledge? .refused).isSome
  decodeErrors : (crossbar.tick cycle).1.decodeErrors =
    crossbar.decodeErrors + crossbar.lanes.countP crossbar.isLost
  /-- A slot lets go of its lane just when it hands over. -/
  freed_iff : ∀ {index place : Nat} {slot after : Slot SlaveAgent},
    crossbar.slots[index]? = some slot → (crossbar.tick cycle).1.slots[index]? = some after →
      slot.phase.lane? = some place →
        (after.phase.lane? ≠ some place ↔ ∃ response, slot.phase = .completing place response)
  slaves_nodup : ((crossbar.tick cycle).2.map (·.slave)).Nodup
  masters_nodup : ((crossbar.tick cycle).2.map (·.master)).Nodup

namespace Engaged

variable {crossbar : Crossbar MasterAgent SlaveAgent} {stages : Nat → Stage}

theorem exists_slot (engaged : Engaged crossbar stages) {index place : Nat} {request : Request}
    (works : (stages index).job? = some (place, request)) :
    ∃ slot, crossbar.slots[index]? = some slot ∧ slot.phase.lane? = some place := by
  cases found : crossbar.slots[index]? with
  | none =>
    rw [engaged.beyond found] at works
    cases works
  | some slot =>
    refine ⟨slot, rfl, ?_⟩
    rw [(engaged.stands found).phase, Stage.lane?_phase, works]
    rfl

theorem exists_job (engaged : Engaged crossbar stages) {index place : Nat} {slot : Slot SlaveAgent}
    (found : crossbar.slots[index]? = some slot) (owns : slot.phase.lane? = some place) :
    ∃ request, (stages index).job? = some (place, request) := by
  rw [(engaged.stands found).phase, Stage.lane?_phase, Option.map_eq_some_iff] at owns
  obtain ⟨⟨_, request⟩, works, rfl⟩ := owns
  exact ⟨request, works⟩

theorem servedPort?_eq (engaged : Engaged crossbar stages) {index place : Nat}
    {slot : Slot SlaveAgent} {request : Request} (found : crossbar.slots[index]? = some slot)
    (works : (stages index).job? = some (place, request)) :
    ∃ lane, crossbar.lanes[place]? = some lane ∧ lane.isServed = true ∧
      lane.link = .waiting request ∧ crossbar.servedPort? slot = some lane.port := by
  obtain ⟨lane, at_, served, link⟩ := engaged.held works
  refine ⟨lane, at_, served, link, ?_⟩
  rw [servedPort?, (engaged.stands found).phase, Stage.lane?_phase, works]
  simp [at_]

/-- The order holds of every crossbar whose slots are at some stages, when what was seen of them are
jobs done to the end and the present one. -/
theorem ordered (engaged : Engaged crossbar stages) {histories : Nat → History}
    (seen : ∀ index < crossbar.slots.length, ∃ done, histories index = History.of done (stages index)) :
    Ordered crossbar histories where
  idle_iff := by
    intro index slot found
    have phase := (engaged.stands found).phase
    cases job : (stages index).job? with
    | none =>
      have idle : stages index = .idle := by
        cases stage : stages index with
        | idle => rfl
        | waiting _ _ | answered _ _ _ | completing _ _ _ =>
          rw [stage] at job
          cases job
      rw [idle] at phase
      simp [servedPort?, phase, Stage.phase, Phase.lane?]
    | some work =>
      obtain ⟨lane, _, _, _, port⟩ := engaged.servedPort?_eq found job
      rw [port]
      constructor
      · intro idle
        rw [servedPort?, idle] at port
        cases port
      · intro none
        cases none
  occupied_iff := by
    intro index slot found
    obtain ⟨phase, link⟩ := engaged.stands found
    rw [phase, link]
    cases stages index <;> simp [Stage.phase, Stage.link]
  served_iff := by
    intro place lane at_
    constructor
    · intro isServed
      obtain ⟨index, request, works⟩ := engaged.served at_ isServed
      refine ⟨index, engaged.exists_slot works, ?_⟩
      rintro other ⟨slot, found, owns⟩
      obtain ⟨_, working⟩ := engaged.exists_job found owns
      exact engaged.apart working works
    · rintro ⟨index, ⟨slot, found, owns⟩, _⟩
      obtain ⟨request, works⟩ := engaged.exists_job found owns
      obtain ⟨held, same, isServed, _⟩ := engaged.held works
      rw [at_, Option.some.injEq] at same
      rw [same]
      exact isServed
  held := by
    intro index place slot found owns
    obtain ⟨request, works⟩ := engaged.exists_job found owns
    obtain ⟨lane, at_, _, link, port⟩ := engaged.servedPort?_eq found works
    obtain ⟨done, history⟩ := seen index (List.getElem?_eq_some_iff.mp found).1
    refine ⟨lane, request, at_, port, link, ?_, engaged.aimed works⟩
    simp [history, History.of, works]
  granted := by
    intro index place slot found phase
    obtain ⟨done, history⟩ := seen index (List.getElem?_eq_some_iff.mp found).1
    obtain ⟨same, link⟩ := engaged.stands found
    rw [phase] at same
    rw [link, history]
    cases stage : stages index with
    | idle | completing _ _ _ =>
      rw [stage] at same
      cases same
    | waiting lane request | answered lane request _ =>
      rw [stage] at same
      cases same
      exact ⟨request, rfl, by simp [History.of, Stage.job?]⟩
  completing := by
    intro index place slot response found phase
    obtain ⟨done, history⟩ := seen index (List.getElem?_eq_some_iff.mp found).1
    obtain ⟨request, stage⟩ := engaged.completing_place found phase
    refine ⟨request, ?_, ?_⟩ <;> simp [history, stage, History.of, Stage.reply?, Stage.job?]
  inTurn := by
    intro index within
    obtain ⟨done, history⟩ := seen index within
    rw [history]
    exact History.inTurn_of done (stages index)
  delivered := by
    intro index slot found
    obtain ⟨done, history⟩ := seen index (List.getElem?_eq_some_iff.mp found).1
    rw [history, (engaged.stands found).phase]
    cases stages index <;> simp [History.of, Stage.job?, Stage.phase]

theorem isLost_eq_true {lane : Lane MasterAgent} :
    crossbar.isLost lane = true ↔
      ∃ request, lane.wants? = some request ∧ crossbar.target? request.address = none := by
  unfold isLost
  cases lane.wants? <;> simp

theorem isLost_congr {before after : Crossbar MasterAgent SlaveAgent}
    (same : after.frame = before.frame) (lane : Lane MasterAgent) :
    after.isLost lane = before.isLost lane := by
  unfold isLost
  simp only [target?_congr same]

/-- A lane whose request waits in vain, and none else, is answered between moving on and the end of
the cycle. -/
theorem link_after_serve (cycle : Nat) {place : Nat} {moved after : Lane MasterAgent}
    (found : crossbar.serve.lanes[place]? = some moved)
    (at_ : (crossbar.tick cycle).1.lanes[place]? = some after) :
    after.link = if crossbar.serve.isLost moved then moved.link.acknowledge .refused
      else moved.link := by
  have refused : crossbar.serve.refuseLost.lanes[place]? =
      some (if crossbar.serve.isLost moved then
        { moved with link := moved.link.acknowledge .refused } else moved) := by
    simp [Crossbar.refuseLost, found]
  rw [Crossbar.tick, grantAll_lanes, serveAll_getElem?, refused] at at_
  split at at_ <;> cases at_ <;> split <;> rfl

theorem exists_lane {place : Nat} {moved : Lane MasterAgent}
    (found : crossbar.serve.lanes[place]? = some moved) :
    ∃ lane, crossbar.lanes[place]? = some lane := by
  have length := congrArg (·.roster.length) (frame_serve crossbar)
  simp only [frame, List.length_map] at length
  have within := (List.getElem?_eq_some_iff.mp found).1
  exact ⟨_, List.getElem?_eq_getElem (length ▸ within)⟩

/-- The places where some slot completes a request, and what becomes of their lanes. -/
theorem serve_cases (engaged : Engaged crossbar stages) {place : Nat} {lane : Lane MasterAgent}
    (at_ : crossbar.lanes[place]? = some lane) :
    (∃ (index : Nat) (slot : Slot SlaveAgent) (request : Request) (response : Response),
        crossbar.slots[index]? = some slot ∧ slot.phase = .completing place response ∧ lane.isServed = true ∧
        lane.link = .waiting request ∧ ∃ moved, crossbar.serve.lanes[place]? = some moved ∧
          moved.link = .answered request response) ∨
      (∀ slot ∈ crossbar.slots, ∀ response, slot.phase ≠ .completing place response) ∧
        crossbar.serve.lanes[place]? = some lane := by
  by_cases completed : ∃ index request response, stages index = .completing place request response
  · obtain ⟨index, request, response, stage⟩ := completed
    have works : (stages index).job? = some (place, request) := by
      rw [stage]
      rfl
    obtain ⟨slot, found, _⟩ := engaged.exists_slot works
    obtain ⟨held, same, served, link⟩ := engaged.held works
    rw [at_, Option.some.injEq] at same
    subst same
    refine .inl ⟨index, slot, request, response, found, ?_, served, link,
      engaged.serve_delivers stage⟩
    rw [(engaged.stands found).phase, stage]
    rfl
  · refine .inr ⟨?_, ?_⟩
    · intro slot member response phase
      obtain ⟨index, _, found⟩ := List.getElem_of_mem member
      obtain ⟨request, stage⟩ :=
        engaged.completing_place (List.getElem?_eq_some_iff.mpr ⟨_, found⟩) phase
      exact completed ⟨index, request, response, stage⟩
    · rw [engaged.serve_untouched, at_]
      intro index request response stage
      exact completed ⟨index, request, response, stage⟩

theorem answers (engaged : Engaged crossbar stages) (cycle : Nat) {place : Nat}
    {lane after : Lane MasterAgent} (found : crossbar.lanes[place]? = some lane)
    (at_ : (crossbar.tick cycle).1.lanes[place]? = some after) :
    Answer crossbar place lane after.link := by
  obtain ⟨index, slot, request, response, owner, phase, _, waits, moved, served, link⟩ |
    ⟨absent, served⟩ := engaged.serve_cases found
  · have kept : crossbar.serve.isLost moved = false := by
      simp [isLost, Lane.wants?, link, Link.awaiting?]
    rw [link_after_serve cycle served at_, kept, link]
    exact .delivered owner phase waits
  · rw [link_after_serve cycle served at_, isLost_congr (frame_serve crossbar)]
    cases lost : crossbar.isLost lane with
    | true =>
      obtain ⟨request, wants, none⟩ := isLost_eq_true.mp lost
      rw [(Lane.wants?_eq_some.mp wants).2]
      exact .refused wants none
    | false =>
      refine .kept absent fun request wants none => ?_
      rw [isLost_eq_true.mpr ⟨request, wants, none⟩] at lost
      cases lost

theorem hands (engaged : Engaged crossbar stages) (cycle : Nat) {index place : Nat}
    {slot : Slot SlaveAgent} {response : Response} (found : crossbar.slots[index]? = some slot)
    (phase : slot.phase = .completing place response) :
    ∃ lane request after, crossbar.lanes[place]? = some lane ∧ lane.link = .waiting request ∧
      (crossbar.tick cycle).1.lanes[place]? = some after ∧
      after.link = .answered request response := by
  obtain ⟨request, stage⟩ := engaged.completing_place found phase
  obtain ⟨lane, at_, _, link⟩ := engaged.held (show (stages index).job? = some (place, request) by
    rw [stage]
    rfl)
  obtain ⟨moved, served, answered⟩ := engaged.serve_delivers stage
  obtain ⟨final, last, kept⟩ := answered_of_serve cycle served answered
  exact ⟨lane, request, final, at_, link, last, kept⟩

theorem refuses (engaged : Engaged crossbar stages) (cycle : Nat) {place : Nat}
    {lane after : Lane MasterAgent} {request : Request}
    (found : crossbar.lanes[place]? = some lane)
    (at_ : (crossbar.tick cycle).1.lanes[place]? = some after)
    (wants : lane.wants? = some request) (lost : crossbar.target? request.address = none) :
    after.link = .answered request .refused := by
  obtain ⟨unserved, waits⟩ := Lane.wants?_eq_some.mp wants
  obtain ⟨_, _, _, _, _, _, isServed, _⟩ | ⟨_, served⟩ := engaged.serve_cases found
  · rw [unserved] at isServed
    cases isServed
  · rw [link_after_serve cycle served at_, isLost_congr (frame_serve crossbar),
      isLost_eq_true.mpr ⟨request, wants, lost⟩, waits]
    rfl

theorem taken (engaged : Engaged crossbar stages) {index place : Nat} {slot : Slot SlaveAgent}
    {response : Response} (found : crossbar.slots[index]? = some slot)
    (phase : slot.phase = .completing place response) :
    ∃ lane, (deliverAll (crossbar.slots.take index) crossbar.lanes)[place]? = some lane ∧
      (lane.link.acknowledge? response).isSome := by
  obtain ⟨request, stage⟩ := engaged.completing_place found phase
  have works : (stages index).job? = some (place, request) := by
    rw [stage]
    rfl
  obtain ⟨lane, at_, _, link⟩ := engaged.held works
  refine ⟨lane, ?_, by rw [link]; rfl⟩
  rw [deliverAll_untouched, at_]
  -- No slot before this one owns its lane.
  intro rival member given busy
  obtain ⟨other, before, same⟩ := List.mem_take_iff_getElem.mp member
  obtain ⟨held, working⟩ := engaged.completing_place
    (List.getElem?_eq_some_iff.mpr ⟨by omega, same⟩) busy
  have alone := engaged.apart (show (stages other).job? = some (place, held) by
    rw [working]
    rfl) works
  omega

theorem decodeErrors_tick (engaged : Engaged crossbar stages) (cycle : Nat) :
    (crossbar.tick cycle).1.decodeErrors =
      crossbar.decodeErrors + crossbar.lanes.countP crossbar.isLost := by
  have lost : crossbar.serve.lanes.map crossbar.serve.isLost =
      crossbar.lanes.map crossbar.isLost := by
    apply List.ext_getElem?
    intro place
    rw [List.getElem?_map, List.getElem?_map]
    cases at_ : crossbar.lanes[place]? with
    | none =>
      cases moved : crossbar.serve.lanes[place]? with
      | none => rfl
      | some lane =>
        obtain ⟨before, found⟩ := exists_lane moved
        rw [at_] at found
        cases found
    | some lane =>
      obtain ⟨_, _, request, response, _, _, isServed, _, moved, served, link⟩ | ⟨_, served⟩ :=
        engaged.serve_cases at_
      · simp [served, isLost, Lane.wants?, link, isServed, Link.awaiting?]
      · rw [served, Option.map_some, Option.map_some, isLost_congr (frame_serve crossbar)]
  have counted : crossbar.serve.lanes.countP crossbar.serve.isLost =
      crossbar.lanes.countP crossbar.isLost := by
    simpa [List.countP_map, Function.comp_def] using congrArg (List.countP id) lost
  exact congrArg (crossbar.decodeErrors + ·) counted

theorem freed_iff (engaged : Engaged crossbar stages) (cycle : Nat) {index place : Nat}
    {slot after : Slot SlaveAgent} (found : crossbar.slots[index]? = some slot)
    (at_ : (crossbar.tick cycle).1.slots[index]? = some after)
    (owns : slot.phase.lane? = some place) :
    after.phase.lane? ≠ some place ↔ ∃ response, slot.phase = .completing place response := by
  obtain ⟨request, works⟩ := engaged.exists_job found owns
  have phase := (engaged.stands found).phase
  have next := ((engaged.tick cycle).stands at_).phase
  cases stage : stages index with
  | idle =>
    rw [stage] at works
    cases works
  | waiting lane held | answered lane held _ =>
    have busy : (stages index).moveOn ≠ .idle := by
      rw [stage]
      intro same
      cases same
    rw [engaged.granted?_eq_none busy, stage] at next
    rw [stage] at phase works
    cases works
    rw [next, phase]
    simp [Stage.phase, Stage.next, Stage.moveOn, Stage.grant, Phase.lane?]
  | completing lane held response =>
    rw [stage] at phase works
    cases works
    rw [phase]
    refine ⟨fun _ => ⟨response, rfl⟩, fun _ again => ?_⟩
    -- The lane has its acknowledge, so nobody can own it now.
    obtain ⟨moved, served, link⟩ := engaged.serve_delivers stage
    obtain ⟨final, last, answered⟩ := answered_of_serve cycle served link
    obtain ⟨other, working⟩ := (engaged.tick cycle).exists_job at_ again
    obtain ⟨holder, same, _, waits⟩ := (engaged.tick cycle).held working
    rw [last, Option.some.injEq] at same
    rw [← same, answered] at waits
    cases waits

theorem granted?_lane (engaged : Engaged crossbar stages) {index : Nat} {candidate : Candidate}
    (granted : crossbar.granted? index = some candidate) :
    ∃ lane, crossbar.lanes[candidate.lane]? = some lane ∧ candidate.port = lane.port ∧
      candidate.rank = lane.rank ∧ lane.wants? = some candidate.request ∧
      crossbar.target? candidate.request.address = some index := by
  obtain ⟨_, _, choose⟩ := choice?_eq_some granted
  obtain ⟨chosen, at_, port, rank⟩ := choose_lane choose
  obtain ⟨_, _, lane, same, unserved, link, target⟩ := choose_eq_some choose
  rw [at_, Option.some.injEq] at same
  subst same
  rw [target?_congr (frame_refuseLost _), target?_congr (frame_serve crossbar)] at target
  -- Its link has not changed, since otherwise it would have an acknowledge.
  simp only [Crossbar.refuseLost, List.getElem?_map, Option.map_eq_some_iff] at at_
  obtain ⟨moved, served, final⟩ := at_
  have waits : moved = chosen := by
    split at final
    · rename_i lost
      obtain ⟨_, wants, _⟩ := isLost_eq_true.mp lost
      rw [← final, (Lane.wants?_eq_some.mp wants).2] at link
      cases link
    · exact final
  subst waits
  obtain ⟨lane, before⟩ := exists_lane served
  obtain ⟨_, _, _, _, _, _, _, _, _, again, answered⟩ | ⟨_, again⟩ := engaged.serve_cases before
  · rw [served, Option.some.injEq] at again
    rw [← again, link] at answered
    cases answered
  · rw [served, Option.some.injEq] at again
    subst again
    exact ⟨moved, before, port, rank, Lane.wants?_eq_some.mpr ⟨unserved, link⟩, target⟩

/-- Two slots that are granted in one cycle are granted to lanes of different ports. -/
theorem grants_apart (engaged : Engaged crossbar stages)
    (mastersApart : (crossbar.frame.roster.map (·.1)).Nodup) {cycle first second : Nat}
    {one another : Grant} (left : crossbar.grant? cycle first = some one)
    (right : crossbar.grant? cycle second = some another) (same : one.master = another.master) :
    first = second := by
  obtain ⟨_, candidate, _, chosen, rfl⟩ := grant?_eq_some.mp left
  obtain ⟨_, rival, _, elected, rfl⟩ := grant?_eq_some.mp right
  obtain ⟨lane, at_, port, _, wants, target⟩ := engaged.granted?_lane chosen
  obtain ⟨other, found, rivalPort, _, asks, aim⟩ := engaged.granted?_lane elected
  have ports : crossbar.lanes.map (·.port) = crossbar.frame.roster.map (·.1) := by simp [frame]
  rw [← ports] at mastersApart
  have here : lane = other := List.inj_on_of_nodup_map mastersApart
    (List.mem_of_getElem? at_) (List.mem_of_getElem? found) (port.symm.trans (same.trans rivalPort))
  rw [here, asks, Option.some.injEq] at wants
  rw [← wants, aim, Option.some.injEq] at target
  exact target.symm

theorem cycle (engaged : Engaged crossbar stages)
    (mastersApart : (crossbar.frame.roster.map (·.1)).Nodup)
    (slavesApart : crossbar.frame.owners.Nodup) (cycle : Nat) : Ordered.Cycle crossbar cycle where
  hands := engaged.hands cycle
  refuses := engaged.refuses cycle
  answers := engaged.answers cycle
  taken := engaged.taken
  refusals := by
    intro lane _ lost
    obtain ⟨request, wants, _⟩ := isLost_eq_true.mp lost
    rw [(Lane.wants?_eq_some.mp wants).2]
    rfl
  decodeErrors := engaged.decodeErrors_tick cycle
  freed_iff := engaged.freed_iff cycle
  slaves_nodup := by
    rw [tick_grants, List.map_filterMap]
    refine List.Nodup.filterMap ?_ List.nodup_range
    intro first second port left right
    have owner {index : Nat} (made : (crossbar.grant? cycle index).map (·.slave) = some port) :
        crossbar.frame.owners[index]? = some port := by
      obtain ⟨_, granted, rfl⟩ := Option.map_eq_some_iff.mp made
      obtain ⟨slot, _, found, _, rfl⟩ := grant?_eq_some.mp granted
      simp [frame, found]
    obtain ⟨within, one⟩ := List.getElem?_eq_some_iff.mp (owner left)
    obtain ⟨inside, another⟩ := List.getElem?_eq_some_iff.mp (owner right)
    exact (List.getElem_inj slavesApart).mp (one.trans another.symm)
  masters_nodup := by
    rw [tick_grants, List.map_filterMap]
    refine List.Nodup.filterMap ?_ List.nodup_range
    intro first second port left right
    obtain ⟨one, made, rfl⟩ := Option.map_eq_some_iff.mp left
    obtain ⟨another, given, same⟩ := Option.map_eq_some_iff.mp right
    exact engaged.grants_apart mastersApart made given same.symm

end Engaged

variable (map : AddressMap) (masters : List (PortId × MasterAgent))
  (slaves : List (PortId × SlaveAgent)) (tieBreak : TieBreak)

@[simp] theorem owners_create :
    (create map masters slaves tieBreak).frame.owners = slaves.map (·.1) := by
  simp [frame, create, Function.comp_def]

@[simp] theorem roster_create : (create map masters slaves tieBreak).frame.roster =
    masters.mapIdx fun index (port, _) =>
      (port, rank tieBreak (masters.map (·.1)) index port) := by
  apply List.ext_getElem?
  intro place
  simp [frame, create, Function.comp_def]

theorem ports_create :
    (create map masters slaves tieBreak).frame.roster.map (·.1) = masters.map (·.1) := by
  apply List.ext_getElem?
  intro place
  simp [Option.map_map, Function.comp_def]

/-- Whatever the masters and slaves do and however the cycles fall, the slots own the lanes they
work for in good order, and every cycle of the crossbar answers, frees and grants in good order. -/
theorem runs_stay_ordered (mastersApart : (masters.map (·.1)).Nodup)
    (slavesApart : (slaves.map (·.1)).Nodup) (moves : List Move) :
    Ordered ((create map masters slaves tieBreak).play moves)
        (fun index => (create map masters slaves tieBreak).history index moves) ∧
      ∀ cycle, Ordered.Cycle ((create map masters slaves tieBreak).play moves) cycle := by
  obtain ⟨stages, fresh, engaged, seen⟩ :=
    (Engaged.create map masters slaves tieBreak).play moves
  constructor
  · apply engaged.ordered
    intro index within
    have start : index < (create map masters slaves tieBreak).slots.length := by
      simpa using within
    refine ⟨fresh index, ?_⟩
    simpa using seen index start []
  · apply engaged.cycle
    · rw [frame_play, ports_create]
      exact mastersApart
    · rw [frame_play, owners_create]
      exact slavesApart

/-- Two masters ask the same slave, which has acknowledged the first of them; the other one still
waits. -/
theorem contenders_stay_ordered :
    let low : Window := ⟨"low", 0, 0x1000, ⟨10⟩, 32⟩
    let high : Window := ⟨"high", 0x1000, 0x1000, ⟨11⟩, 32⟩
    let masters : List (PortId × Unit) := [(⟨1⟩, ()), (⟨0⟩, ())]
    let slaves : List (PortId × Unit) := [(⟨10⟩, ()), (⟨11⟩, ())]
    let start := create { windows := [low, high] } masters slaves .ascending
    let moves : List Move := [.issue 0 (.read 0x10 0xF), .issue 1 (.read 0x14 0xF), .tick 0,
      .acknowledge 0 (.ok 7), .tick 1]
    (masters.map (·.1)).Nodup ∧ (slaves.map (·.1)).Nodup ∧
      (start.play moves).slots[0]?.map (·.phase) = some (.completing 1 (.ok 7)) ∧
      Ordered (start.play moves) (fun index => start.history index moves) ∧
      ∀ cycle, Ordered.Cycle (start.play moves) cycle :=
  ⟨by decide, by decide, rfl, runs_stay_ordered _ _ _ _ (by decide) (by decide) _⟩

end BusFabric.Crossbar
