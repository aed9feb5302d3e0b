import Mathlib.Data.List.Basic
import BusFabric.Proofs.Crossbar.History

set_option autoImplicit false

namespace BusFabric.Crossbar

open Simple (Link Request Response)

variable {MasterAgent SlaveAgent : Type}

/-- Something that happens to a crossbar. Lanes and slots are named by their places. -/
inductive Move where
  | issue (lane : Nat) (request : Request)
  | complete (lane : Nat)
  | acknowledge (slot : Nat) (response : Response)
  | tick (cycle : Nat)

def act (crossbar : Crossbar MasterAgent SlaveAgent) :
    Move → Crossbar MasterAgent SlaveAgent × List Grant
  | .issue lane request =>
    ({ crossbar with
        lanes := crossbar.lanes.modify lane fun lane =>
          { lane with link := (lane.link.issue? request).getD lane.link } }, [])
  | .complete lane =>
    ({ crossbar with
        lanes := crossbar.lanes.modify lane fun lane =>
          { lane with link := lane.link.completed } }, [])
  | .acknowledge slot response =>
    ({ crossbar with
        slots := crossbar.slots.modify slot fun slot =>
          { slot with link := slot.link.acknowledge response } }, [])
  | .tick cycle => crossbar.tick cycle

def play (crossbar : Crossbar MasterAgent SlaveAgent) (moves : List Move) :
    Crossbar MasterAgent SlaveAgent :=
  moves.foldl (fun crossbar move => (crossbar.act move).1) crossbar

/-- The grants made in some moves, in order. -/
def grants (crossbar : Crossbar MasterAgent SlaveAgent) : List Move → List Grant
  | [] => []
  | move :: rest => (crossbar.act move).2 ++ (crossbar.act move).1.grants rest

/-- What some moves show of a slot. -/
def history (crossbar : Crossbar MasterAgent SlaveAgent) (index : Nat) : List Move → History
  | [] => {}
  | move :: rest =>
    (observe crossbar (crossbar.act move).1 index).append ((crossbar.act move).1.history index rest)

/-- The parts of a crossbar that no cycle changes. -/
structure Frame where
  map : AddressMap
  /-- The ports of the slots. -/
  owners : List PortId
  /-- The port and the rank of every lane. -/
  roster : List (PortId × Nat)

def frame (crossbar : Crossbar MasterAgent SlaveAgent) : Frame where
  map := crossbar.map
  owners := crossbar.slots.map (·.port)
  roster := crossbar.lanes.map fun lane => (lane.port, lane.rank)

theorem roster_lasting :
    Lane.Lasting fun lane : Lane MasterAgent => (lane.port, lane.rank) :=
  ⟨fun _ _ => rfl, fun _ _ => rfl⟩

theorem Slot.moveOn_port {Agent : Type} (slot : Slot Agent) : slot.moveOn.port = slot.port := by
  unfold moveOn
  split
  · rfl
  · split <;> rfl
  · rfl

theorem Slot.grant_port {Agent : Type} (slot : Slot Agent) (choice : Option Candidate) :
    (slot.grant choice).port = slot.port := by
  cases choice <;> rfl

@[simp] theorem frame_serve (crossbar : Crossbar MasterAgent SlaveAgent) :
    crossbar.serve.frame = crossbar.frame := by
  simp [frame, serve, roster_lasting.deliverAll, Slot.moveOn_port]

@[simp] theorem frame_refuseLost (crossbar : Crossbar MasterAgent SlaveAgent) :
    crossbar.refuseLost.frame = crossbar.frame := by
  unfold frame
  rw [roster_lasting.refuseLost]
  rfl

@[simp] theorem frame_grantAll (crossbar : Crossbar MasterAgent SlaveAgent) (cycle : Nat) :
    (crossbar.grantAll cycle).1.frame = crossbar.frame := by
  unfold frame
  rw [grantAll_lanes, roster_lasting.serveAll]
  simp only [Frame.mk.injEq, and_true]
  refine ⟨rfl, List.ext_getElem? fun index => ?_⟩
  rw [List.getElem?_map, List.getElem?_map, grantAll_slots, Option.map_map]
  cases crossbar.slots[index]? with
  | none => rfl
  | some slot => simp [Slot.grant_port]

@[simp] theorem frame_tick (crossbar : Crossbar MasterAgent SlaveAgent) (cycle : Nat) :
    (crossbar.tick cycle).1.frame = crossbar.frame := by
  simp [tick]

@[simp] theorem frame_act (crossbar : Crossbar MasterAgent SlaveAgent) (move : Move) :
    (crossbar.act move).1.frame = crossbar.frame := by
  cases move with
  | tick cycle => exact frame_tick crossbar cycle
  | issue _ _ | complete _ =>
    simp only [act, frame, Frame.mk.injEq, true_and]
    apply map_modify_of_eq
    intro lane
    rfl
  | acknowledge _ _ =>
    simp only [act, frame, Frame.mk.injEq, true_and, and_true]
    apply map_modify_of_eq
    intro slot
    rfl

theorem length_slots_act (crossbar : Crossbar MasterAgent SlaveAgent) (move : Move) :
    (crossbar.act move).1.slots.length = crossbar.slots.length := by
  simpa [frame] using congrArg (·.owners.length) (frame_act crossbar move)

@[simp] theorem frame_play (crossbar : Crossbar MasterAgent SlaveAgent) (moves : List Move) :
    (crossbar.play moves).frame = crossbar.frame := by
  induction moves generalizing crossbar with
  | nil => rfl
  | cons move rest ih => exact (ih _).trans (frame_act crossbar move)

@[simp] theorem length_slots_play (crossbar : Crossbar MasterAgent SlaveAgent)
    (moves : List Move) : (crossbar.play moves).slots.length = crossbar.slots.length := by
  simpa [frame] using congrArg (·.owners.length) (frame_play crossbar moves)

theorem target?_eq (crossbar : Crossbar MasterAgent SlaveAgent) (address : Address) :
    crossbar.target? address = (crossbar.frame.map.decode address).bind fun owner =>
      crossbar.frame.owners.findIdx? (· = owner) := by
  simp only [target?, frame, List.findIdx?_map]
  rfl

/-- Where a request goes depends on the frame only. -/
theorem target?_congr {before after : Crossbar MasterAgent SlaveAgent}
    (same : after.frame = before.frame) (address : Address) :
    after.target? address = before.target? address := by
  rw [target?_eq, target?_eq, same]

theorem slot_of_target? {crossbar : Crossbar MasterAgent SlaveAgent} {address : Address}
    {index : Nat} (target : crossbar.target? address = some index) :
    ∃ slot, crossbar.slots[index]? = some slot := by
  obtain ⟨_, _, owner⟩ := Option.bind_eq_some_iff.mp target
  obtain ⟨within, _⟩ := List.findIdx?_eq_some_iff_getElem.mp owner
  exact ⟨_, List.getElem?_eq_getElem within⟩

def grant? (crossbar : Crossbar MasterAgent SlaveAgent) (cycle index : Nat) : Option Grant := do
  let slot ← crossbar.slots[index]?
  let candidate ← crossbar.granted? index
  return ⟨cycle, slot.port, candidate.port⟩

theorem grant?_eq_some {crossbar : Crossbar MasterAgent SlaveAgent} {cycle index : Nat}
    {grant : Grant} :
    crossbar.grant? cycle index = some grant ↔ ∃ slot candidate,
      crossbar.slots[index]? = some slot ∧ crossbar.granted? index = some candidate ∧
        grant = ⟨cycle, slot.port, candidate.port⟩ := by
  simp only [grant?, Option.bind_eq_bind, Option.bind_eq_some_iff, Option.pure_def,
    Option.some.injEq]
  constructor
  · rintro ⟨slot, found, candidate, chosen, rfl⟩
    exact ⟨slot, candidate, found, chosen, rfl⟩
  · rintro ⟨slot, candidate, found, chosen, rfl⟩
    exact ⟨slot, found, candidate, chosen, rfl⟩

theorem filterMap_mapIdx {α β γ : Type} (items : List α) (view : Nat → α → β)
    (pick : β → Option γ) :
    (items.mapIdx view).filterMap pick =
      (List.range items.length).filterMap fun index =>
        items[index]?.bind fun item => pick (view index item) := by
  induction items generalizing view with
  | nil => rfl
  | cons item items ih =>
    rw [List.mapIdx_cons, List.length_cons, List.range_succ_eq_map, List.filterMap_cons,
      List.filterMap_cons, List.filterMap_map, ih]
    rfl

/-- A cycle makes at most one grant for each slot, in the order of the slots. -/
theorem tick_grants (crossbar : Crossbar MasterAgent SlaveAgent) (cycle : Nat) :
    (crossbar.tick cycle).2 =
      (List.range crossbar.slots.length).filterMap (crossbar.grant? cycle) := by
  have moved : crossbar.serve.refuseLost.slots = crossbar.slots.map (·.moveOn) := rfl
  unfold tick grantAll
  dsimp only
  rw [filterMap_mapIdx, moved, List.length_map]
  apply List.filterMap_congr
  intro index _
  cases found : crossbar.slots[index]? with
  | none => simp [grant?, found]
  | some slot =>
    have chosen : crossbar.granted? index =
        crossbar.serve.refuseLost.choose index slot.moveOn := by
      simp [granted?, choice?, moved, found]
    simp only [grant?, found, chosen, List.getElem?_map, Option.map_some, Option.bind_some,
      Option.bind_eq_bind, Slot.moveOn_port]
    cases crossbar.serve.refuseLost.choose index slot.moveOn <;> rfl

structure Engaged (crossbar : Crossbar MasterAgent SlaveAgent) (stages : Nat → Stage) : Prop
    extends Consistent crossbar stages where
  served : ∀ {place : Nat} {lane : Lane MasterAgent}, crossbar.lanes[place]? = some lane →
    lane.isServed = true → ∃ index request, (stages index).job? = some (place, request)
  aimed : ∀ {index place : Nat} {request : Request},
    (stages index).job? = some (place, request) → crossbar.target? request.address = some index

namespace Engaged

variable {crossbar : Crossbar MasterAgent SlaveAgent} {stages : Nat → Stage}

theorem exchangeLanes (engaged : Engaged crossbar stages) {lanes : List (Lane MasterAgent)}
    {move : Nat → Lane MasterAgent → Lane MasterAgent}
    (moved : ∀ place, lanes[place]? = crossbar.lanes[place]?.map (move place))
    (served : ∀ place lane, (move place lane).isServed = lane.isServed)
    (keeps : ∀ place lane, Link.Keeps lane.link (move place lane).link) :
    Engaged { crossbar with lanes := lanes } stages where
  toConsistent := engaged.toConsistent.exchangeLanes moved served keeps
  served := by
    intro place lane found isServed
    simp only [moved, Option.map_eq_some_iff] at found
    obtain ⟨before, at_, rfl⟩ := found
    exact engaged.served at_ ((served place before).symm.trans isServed)
  aimed := engaged.aimed

theorem exchangeSlots (engaged : Engaged crossbar stages) {slots : List (Slot SlaveAgent)}
    {move : Nat → Slot SlaveAgent → Slot SlaveAgent}
    (moved : ∀ index, slots[index]? = crossbar.slots[index]?.map (move index))
    (port : ∀ index slot, (move index slot).port = slot.port)
    (phase : ∀ index slot, (move index slot).phase = slot.phase)
    (link : ∀ index slot, Link.MayAcknowledge slot.link (move index slot).link) :
    Engaged { crossbar with slots := slots }
      (fun index => crossbar.slots[index]?.elim (stages index)
        fun slot => (stages index).serve (move index slot).link) := by
  have job (index : Nat) : (crossbar.slots[index]?.elim (stages index)
      fun slot => (stages index).serve (move index slot).link).job? = (stages index).job? := by
    cases crossbar.slots[index]? with
    | none => rfl
    | some slot => exact Stage.job?_serve _ _
  have same : frame { crossbar with slots := slots } = crossbar.frame := by
    simp only [frame, Frame.mk.injEq, true_and, and_true]
    apply List.ext_getElem?
    intro index
    rw [List.getElem?_map, List.getElem?_map, moved, Option.map_map]
    cases crossbar.slots[index]? with
    | none => rfl
    | some slot => simp [port]
  exact {
    toConsistent := engaged.toConsistent.exchangeSlots moved phase link
    served := by
      intro place lane found isServed
      obtain ⟨index, request, works⟩ := engaged.served found isServed
      exact ⟨index, request, (job index).trans works⟩
    aimed := by
      intro index place request works
      rw [target?_congr same]
      exact engaged.aimed ((job index).symm.trans works) }

theorem serve (engaged : Engaged crossbar stages) :
    Engaged crossbar.serve fun index => (stages index).moveOn where
  toConsistent := engaged.toConsistent.serve
  served := by
    intro place lane found isServed
    -- A lane that has just got its acknowledge is not served any more.
    have absent : ∀ index request response,
        stages index ≠ .completing place request response := by
      intro index request response stage
      rw [engaged.serve_completing stage, Option.map_eq_some_iff] at found
      obtain ⟨before, _, rfl⟩ := found
      cases isServed
    rw [engaged.serve_untouched absent] at found
    obtain ⟨index, request, works⟩ := engaged.served found isServed
    refine ⟨index, request, ?_⟩
    cases stage : stages index with
    | idle =>
      rw [stage] at works
      cases works
    | waiting _ _ | answered _ _ _ =>
      rw [stage] at works
      exact works
    | completing _ _ response =>
      rw [stage] at works
      cases works
      exact absurd stage (absent index request response)
  aimed := by
    intro index place request works
    rw [target?_congr (frame_serve crossbar)]
    exact engaged.aimed (Stage.job?_of_moveOn works)

theorem refuseLost (engaged : Engaged crossbar stages) : Engaged crossbar.refuseLost stages where
  toConsistent := engaged.toConsistent.refuseLost
  served := by
    intro place lane found isServed
    simp only [Crossbar.refuseLost, List.getElem?_map, Option.map_eq_some_iff] at found
    obtain ⟨before, at_, rfl⟩ := found
    refine engaged.served at_ ?_
    split at isServed <;> exact isServed
  aimed := by
    intro index place request works
    rw [target?_congr (frame_refuseLost crossbar)]
    exact engaged.aimed works

theorem grantAll (engaged : Engaged crossbar stages) (cycle : Nat) :
    Engaged (crossbar.grantAll cycle).1
      (fun index => (stages index).grant (crossbar.choice? index)) where
  toConsistent := engaged.toConsistent.grantAll cycle
  served := by
    intro place lane found isServed
    rw [grantAll_lanes, serveAll_getElem?] at found
    split at found
    · rename_i listed
      obtain ⟨candidate, member, rfl⟩ := List.mem_map.mp listed
      obtain ⟨index, chosen⟩ := mem_choices.mp member
      exact ⟨index, candidate.request, by rw [chosen]; rfl⟩
    · obtain ⟨index, request, works⟩ := engaged.served found isServed
      refine ⟨index, request, ?_⟩
      cases chosen : crossbar.choice? index with
      | none => exact works
      | some candidate =>
        rw [engaged.idle_of_choice chosen] at works
        cases works
  aimed := by
    intro index place request works
    rw [target?_congr (frame_grantAll crossbar cycle)]
    cases chosen : crossbar.choice? index with
    | none =>
      rw [chosen] at works
      exact engaged.aimed works
    | some candidate =>
      rw [chosen] at works
      cases works
      obtain ⟨_, _, _, target⟩ := Consistent.choice_target chosen
      exact target

theorem tick (engaged : Engaged crossbar stages) (cycle : Nat) :
    Engaged (crossbar.tick cycle).1
      (fun index => (stages index).next (crossbar.granted? index)) :=
  engaged.serve.refuseLost.grantAll cycle

theorem create (map : AddressMap) (masters : List (PortId × MasterAgent))
    (slaves : List (PortId × SlaveAgent)) (tieBreak : TieBreak) :
    Engaged (Crossbar.create map masters slaves tieBreak) fun _ => .idle where
  stands := by
    intro index slot found
    simp only [Crossbar.create, List.getElem?_map, Option.map_eq_some_iff] at found
    obtain ⟨_, _, rfl⟩ := found
    exact ⟨rfl, rfl⟩
  held := nofun
  apart := nofun
  beyond := fun _ => rfl
  served := by
    intro place lane found isServed
    simp only [Crossbar.create, List.getElem?_mapIdx, Option.map_eq_some_iff] at found
    obtain ⟨_, _, rfl⟩ := found
    cases isServed
  aimed := nofun

theorem of_request (engaged : Engaged crossbar stages) {slot : Slot SlaveAgent}
    (listed : slot ∈ crossbar.slots) {request : Request}
    (raised : slot.link.request? = some request) :
    ∃ place lane, slot.phase.lane? = some place ∧ crossbar.lanes[place]? = some lane ∧
      lane.link = .waiting request ∧ crossbar.map.decode request.address = some slot.port := by
  obtain ⟨index, found⟩ := List.mem_iff_getElem?.mp listed
  obtain ⟨phase, link⟩ := engaged.stands found
  have works : ∃ place, (stages index).job? = some (place, request) := by
    rw [link] at raised
    cases stage : stages index with
    | idle | completing _ _ _ =>
      rw [stage] at raised
      cases raised
    | waiting place _ | answered place _ _ =>
      rw [stage] at raised
      cases raised
      exact ⟨place, rfl⟩
  obtain ⟨place, works⟩ := works
  obtain ⟨lane, at_, _, waits⟩ := engaged.held works
  refine ⟨place, lane, ?_, at_, waits, ?_⟩
  · rw [phase, Stage.lane?_phase, works]
    rfl
  · obtain ⟨owner, decoded, first⟩ := Option.bind_eq_some_iff.mp (engaged.aimed works)
    obtain ⟨within, owned, _⟩ := List.findIdx?_eq_some_iff_getElem.mp first
    rw [List.getElem?_eq_getElem within, Option.some.injEq] at found
    rw [decoded, ← of_decide_eq_true owned, found]

/-- What a move makes of the stages, and what it shows of a slot: the jobs that are done with it. -/
theorem act (engaged : Engaged crossbar stages) (move : Move) :
    ∃ (stages' : Nat → Stage) (fresh : Nat → List (Nat × Request × Response)),
      Engaged (crossbar.act move).1 stages' ∧
      ∀ index < crossbar.slots.length, ∀ done : List (Nat × Request × Response),
        (History.of done (stages index)).append (observe crossbar (crossbar.act move).1 index) =
          History.of (done ++ fresh index) (stages' index) := by
  cases move with
  | issue place request =>
    have moved := fun other => List.getElem?_modify (fun lane : Lane MasterAgent =>
      { lane with link := (lane.link.issue? request).getD lane.link }) place crossbar.lanes other
    have keeps : ∀ (other : Nat) (lane : Lane MasterAgent), Link.Keeps lane.link
        (if place = other then { lane with link := (lane.link.issue? request).getD lane.link }
          else lane).link := by
      intro other lane
      split
      · exact Link.issue?_getD_keeps lane.link request
      · exact Link.Keeps.refl lane.link
    refine ⟨stages, fun _ => [], engaged.exchangeLanes moved ?_ keeps, ?_⟩
    · intro other lane
      split <;> rfl
    · intro index _ done
      rw [show observe crossbar (crossbar.act (.issue place request)).1 index = {} from
        observe_lanes moved keeps index]
      simp
  | complete place =>
    have moved := fun other => List.getElem?_modify (fun lane : Lane MasterAgent =>
      { lane with link := lane.link.completed }) place crossbar.lanes other
    have keeps : ∀ (other : Nat) (lane : Lane MasterAgent), Link.Keeps lane.link
        (if place = other then { lane with link := lane.link.completed } else lane).link := by
      intro other lane
      split
      · exact Link.completed_keeps lane.link
      · exact Link.Keeps.refl lane.link
    refine ⟨stages, fun _ => [], engaged.exchangeLanes moved ?_ keeps, ?_⟩
    · intro other lane
      split <;> rfl
    · intro index _ done
      rw [show observe crossbar (crossbar.act (.complete place)).1 index = {} from
        observe_lanes moved keeps index]
      simp
  | acknowledge place response =>
    have moved := fun other => List.getElem?_modify (fun slot : Slot SlaveAgent =>
      { slot with link := slot.link.acknowledge response }) place crossbar.slots other
    have served : ∀ (other : Nat) (slot : Slot SlaveAgent), Link.MayAcknowledge slot.link
        (if place = other then { slot with link := slot.link.acknowledge response }
          else slot).link := by
      intro other slot
      split
      · exact Link.acknowledge_mayAcknowledge slot.link response
      · exact .same
    refine ⟨_, fun _ => [], engaged.exchangeSlots moved ?_ ?_ served, ?_⟩
    · intro other slot
      split <;> rfl
    · intro other slot
      split <;> rfl
    · intro index within done
      have found := List.getElem?_eq_getElem within
      rw [show observe crossbar (crossbar.act (.acknowledge place response)).1 index = _ from
        observe_slots moved served found]
      simp only [found, Option.elim_some, List.append_nil]
      rw [(engaged.stands found).link]
      exact History.of_serve done (stages index)
        ((engaged.stands found).link ▸ served index crossbar.slots[index])
  | tick cycle =>
    refine ⟨_, fun index => (stages index).handover?.toList, engaged.tick cycle, ?_⟩
    intro index within done
    rw [show observe crossbar (crossbar.act (.tick cycle)).1 index = _ from
      engaged.observe_tick cycle (List.getElem?_eq_getElem within)]
    exact History.of_next done (stages index) _ engaged.free_of_granted?

theorem play (engaged : Engaged crossbar stages) (moves : List Move) :
    ∃ (stages' : Nat → Stage) (fresh : Nat → List (Nat × Request × Response)),
      Engaged (crossbar.play moves) stages' ∧
      ∀ index < crossbar.slots.length, ∀ done : List (Nat × Request × Response),
        (History.of done (stages index)).append (crossbar.history index moves) =
          History.of (done ++ fresh index) (stages' index) := by
  induction moves generalizing crossbar stages with
  | nil => exact ⟨stages, fun _ => [], engaged, fun index _ done => by simp [history]⟩
  | cons move rest ih =>
    obtain ⟨middle, some, moved, seen⟩ := engaged.act move
    obtain ⟨stages', more, played, later⟩ := ih moved
    refine ⟨stages', fun index => some index ++ more index, played, ?_⟩
    intro index within done
    rw [history, ← History.append_assoc, seen index within,
      later index (by rw [length_slots_act]; exact within), List.append_assoc]

end Engaged

end BusFabric.Crossbar
