import BusFabric.Proofs.Crossbar.Fairness

set_option autoImplicit false

namespace BusFabric.Crossbar

open Simple (Link Request Response)

variable {MasterAgent SlaveAgent Agent : Type}

structure Offer where
  cycle : Nat
  /-- The requests for the slave that are not acknowledged yet, each with its lane. -/
  asks : List (Nat × Request)
  /-- The acknowledge on the slave's link. -/
  answer : Option Response
  deriving DecidableEq

structure Sight (Agent : Type) where
  /-- The slot after the cycle. -/
  slot : Option (Slot Agent)
  /-- The grants made to the slave. -/
  grants : List Grant
  /-- What came up on the slave's link, and what came to the lanes that the slot works for. -/
  seen : History

/-- The lane's request, if it is for a slave and not acknowledged yet. -/
def Lane.asks? (lane : Lane Agent) (map : AddressMap) (port : PortId) : Option Request :=
  lane.link.awaiting?.filter fun request => map.decode request.address = some port

/-- The requests for a slave that are not acknowledged yet, in the order of their lanes. -/
def asks (crossbar : Crossbar MasterAgent SlaveAgent) (port : PortId) : List (Nat × Request) :=
  crossbar.lanes.zipIdx.filterMap fun (lane, place) =>
    (lane.asks? crossbar.map port).map (place, ·)

def offer (crossbar : Crossbar MasterAgent SlaveAgent) (port : PortId) (cycle : Nat) : Offer where
  cycle := cycle
  asks := crossbar.asks port
  answer := (crossbar.slot? port).bind (·.link.response?)

def place (crossbar : Crossbar MasterAgent SlaveAgent) (port : PortId) : Nat :=
  crossbar.slots.findIdx (·.port = port)

def sight (crossbar : Crossbar MasterAgent SlaveAgent) (port : PortId) (cycle : Nat) :
    Sight SlaveAgent where
  slot := (crossbar.tick cycle).1.slot? port
  grants := (crossbar.tick cycle).2.filter (·.slave = port)
  seen := observe crossbar (crossbar.tick cycle).1 (crossbar.place port)

def Move.cycle? : Move → Option Nat
  | .tick cycle => some cycle
  | .issue _ _ | .complete _ | .acknowledge _ _ => none

theorem Move.cycle?_eq_some {move : Move} {cycle : Nat} :
    move.cycle? = some cycle ↔ move = .tick cycle := by
  cases move <;> simp [cycle?]

def offers (crossbar : Crossbar MasterAgent SlaveAgent) (port : PortId) : List Move → List Offer
  | [] => []
  | move :: rest =>
    (move.cycle?.map (crossbar.offer port)).toList ++ (crossbar.act move).1.offers port rest

/-- What is seen of a slave in some moves, cycle by cycle. -/
def sights (crossbar : Crossbar MasterAgent SlaveAgent) (port : PortId) :
    List Move → List (Sight SlaveAgent)
  | [] => []
  | move :: rest =>
    (move.cycle?.map (crossbar.sight port)).toList ++ (crossbar.act move).1.sights port rest

theorem sights_grants (crossbar : Crossbar MasterAgent SlaveAgent) (port : PortId)
    (moves : List Move) :
    (crossbar.sights port moves).flatMap (·.grants) =
      (crossbar.grants moves).filter (·.slave = port) := by
  induction moves generalizing crossbar with
  | nil => rfl
  | cons move rest ih =>
    rw [sights, grants, List.flatMap_append, List.filter_append, ih]
    congr 1
    cases move with
    | issue _ _ | complete _ | acknowledge _ _ => rfl
    | tick cycle => exact List.flatMap_singleton ..

/-- What a request makes of its lane: a candidate, unless the slot works for the lane already. -/
def candidate? (roster : List (PortId × Nat)) (owned : Option Nat) (ask : Nat × Request) :
    Option Candidate :=
  if owned = some ask.1 then none
  else roster[ask.1]?.map fun seat => ⟨ask.1, seat.1, seat.2, ask.2⟩

namespace Slot

def answered (slot : Slot Agent) (answer : Option Response) : Slot Agent :=
  { slot with link := answer.elim slot.link slot.link.acknowledge }

def choice? (slot : Slot Agent) (roster : List (PortId × Nat)) (offer : Offer) :
    Option Candidate :=
  let moved := (slot.answered offer.answer).moveOn
  if moved.phase = .idle ∧ moved.link.isIdle then
    pick (offer.asks.filterMap (candidate? roster slot.phase.lane?)) moved.lastRank
  else none

def next (slot : Slot Agent) (roster : List (PortId × Nat)) (offer : Offer) : Slot Agent :=
  (slot.answered offer.answer).moveOn.grant (slot.choice? roster offer)

def handover (slot : Slot Agent) (asks : List (Nat × Request)) :
    List (Nat × Request × Response) :=
  match slot.phase with
  | .completing lane response =>
    (asks.filter (·.1 = lane)).map fun (lane, request) => (lane, request, response)
  | .idle | .granted _ => []

def sight (slot : Slot Agent) (roster : List (PortId × Nat)) (offer : Offer) : Sight Agent where
  slot := some (slot.next roster offer)
  grants := ((slot.choice? roster offer).map fun candidate =>
    ⟨offer.cycle, slot.port, candidate.port⟩).toList
  seen :=
    { forwarded := ((slot.choice? roster offer).map fun candidate =>
        (candidate.lane, candidate.request)).toList
      delivered := slot.handover offer.asks }

def replay (roster : List (PortId × Nat)) : Slot Agent → List Offer → List (Sight Agent)
  | _, [] => []
  | slot, offer :: rest => slot.sight roster offer :: (slot.next roster offer).replay roster rest

/-- A slot as the last cycle left it, and now: its slave may have acknowledged since. -/
structure Precedes (slot now : Slot Agent) : Prop where
  same : now = { slot with link := now.link }
  unanswered : slot.link.response? = none
  link : Link.MayAcknowledge slot.link now.link

theorem Precedes.answered {slot now : Slot Agent} (precedes : Precedes slot now) :
    slot.answered now.link.response? = now := by
  have link : now.link.response?.elim slot.link slot.link.acknowledge = now.link := by
    generalize final : now.link = link at precedes
    have acknowledged := final ▸ precedes.link
    cases acknowledged with
    | same =>
      rw [precedes.unanswered]
      rfl
    | acknowledged response waits =>
      rw [waits]
      rfl
  show { slot with link := _ } = now
  rw [link]
  exact precedes.same.symm

theorem Precedes.acknowledge {slot now : Slot Agent} (precedes : Precedes slot now)
    (response : Response) :
    Precedes slot { now with link := now.link.acknowledge response } where
  same := by
    conv => lhs; rw [precedes.same]
  unanswered := precedes.unanswered
  link := by
    have acknowledged := precedes.link
    generalize now.link = link at acknowledged
    cases acknowledged with
    | same => exact Link.acknowledge_mayAcknowledge slot.link response
    | acknowledged given waits => exact .acknowledged given waits

end Slot

section

variable {crossbar : Crossbar MasterAgent SlaveAgent} {stages : Nat → Stage} {port : PortId}
  {slot now : Slot SlaveAgent}

theorem place_eq (crossbar : Crossbar MasterAgent SlaveAgent) (port : PortId) :
    crossbar.place port = crossbar.frame.owners.findIdx (· = port) := by
  simp only [place, frame, List.findIdx_map]
  rfl

/-- The slots keep their places. -/
theorem place_congr {before after : Crossbar MasterAgent SlaveAgent}
    (same : after.frame = before.frame) (port : PortId) : after.place port = before.place port := by
  rw [place_eq, place_eq, same]

theorem slot?_eq (crossbar : Crossbar MasterAgent SlaveAgent) (port : PortId) :
    crossbar.slot? port = crossbar.slots[crossbar.place port]? :=
  List.find?_eq_getElem?_findIdx

theorem findIdx?_place (found : crossbar.slots[crossbar.place port]? = some slot) :
    crossbar.slots.findIdx? (·.port = port) = some (crossbar.place port) :=
  List.findIdx?_eq_some_iff_findIdx_eq.mpr ⟨(List.getElem?_eq_some_iff.mp found).1, rfl⟩

/-- The slot of a slave gets the requests that are decoded to the slave. -/
theorem target?_eq_place_iff (found : crossbar.slots[crossbar.place port]? = some slot)
    {address : Address} :
    crossbar.target? address = some (crossbar.place port) ↔
      crossbar.map.decode address = some port := by
  have first := findIdx?_place found
  constructor
  · intro target
    obtain ⟨owner, decoded, place⟩ := Option.bind_eq_some_iff.mp target
    obtain ⟨_, owns, _⟩ := List.findIdx?_eq_some_iff_getElem.mp place
    obtain ⟨_, named, _⟩ := List.findIdx?_eq_some_iff_getElem.mp first
    have same : owner = port := (of_decide_eq_true owns).symm.trans (of_decide_eq_true named)
    rw [decoded, same]
  · intro decoded
    rw [target?, decoded]
    exact first

theorem filterMap_zipIdx {α β : Type} (items : List α) (pick : α × Nat → Option β) :
    items.zipIdx.filterMap pick =
      (List.range items.length).filterMap fun index =>
        items[index]?.bind fun item => pick (item, index) := by
  have pairs : items.zipIdx = items.mapIdx fun index item => (item, index) := by
    rw [List.mapIdx_eq_zipIdx_map]
    exact (List.map_id' _).symm
  rw [pairs, filterMap_mapIdx]

/-- A slot works on a request that is for its slave just when the request's lane is served. -/
theorem Engaged.owns_iff (engaged : Engaged crossbar stages)
    (found : crossbar.slots[crossbar.place port]? = some slot) {place : Nat}
    {lane : Lane MasterAgent} {request : Request} (at_ : crossbar.lanes[place]? = some lane)
    (waits : lane.link = .waiting request)
    (decoded : crossbar.map.decode request.address = some port) :
    slot.phase.lane? = some place ↔ lane.isServed = true := by
  constructor
  · intro owns
    obtain ⟨held, works⟩ := engaged.exists_job found owns
    obtain ⟨same, there, served, _⟩ := engaged.held works
    rw [at_, Option.some.injEq] at there
    rw [there]
    exact served
  · intro served
    obtain ⟨index, held, works⟩ := engaged.served at_ served
    obtain ⟨same, there, _, link⟩ := engaged.held works
    rw [at_, Option.some.injEq] at there
    rw [← there, waits, Link.waiting.injEq] at link
    have target := engaged.aimed works
    rw [← link, (target?_eq_place_iff found).mpr decoded, Option.some.injEq] at target
    rw [(engaged.stands found).phase, Stage.lane?_phase, target, works]
    rfl

/-- A request for a slave still waits when slots moved on and lost requests are refused, unless the
slave's slot is at work on it. -/
theorem Engaged.wants?_refuseLost (engaged : Engaged crossbar stages)
    (found : crossbar.slots[crossbar.place port]? = some slot) {place : Nat}
    {lane after : Lane MasterAgent} (at_ : crossbar.lanes[place]? = some lane)
    (there : crossbar.serve.refuseLost.lanes[place]? = some after) :
    (after.wants?.filter fun request => crossbar.map.decode request.address = some port) =
      if slot.phase.lane? = some place then none else lane.asks? crossbar.map port := by
  simp only [Crossbar.refuseLost, List.getElem?_map, Option.map_eq_some_iff] at there
  obtain ⟨moved, served, rfl⟩ := there
  rcases engaged.serve_cases at_ with
    ⟨_, _, request, response, _, _, isServed, waits, same, again, link⟩ | ⟨_, again⟩
  · rw [served, Option.some.injEq] at again
    subst again
    have kept : crossbar.serve.isLost moved = false := by
      simp [isLost, Lane.wants?, link, Link.awaiting?]
    have owned := engaged.owns_iff found at_ waits
    by_cases decoded : crossbar.map.decode request.address = some port
    · simp [kept, Lane.wants?, link, Link.awaiting?, owned decoded, isServed]
    · simp [kept, Lane.wants?, link, Link.awaiting?, Lane.asks?, waits, decoded, Option.filter]
  · rw [served, Option.some.injEq] at again
    subst again
    cases link : moved.link with
    | idle | answered _ _ =>
      simp [isLost, Lane.wants?, Lane.asks?, link, Link.awaiting?]
    | waiting request =>
      by_cases decoded : crossbar.map.decode request.address = some port
      · have owned := engaged.owns_iff found at_ link decoded
        have kept : crossbar.serve.isLost moved = false := by
          have target := (target?_eq_place_iff found).mpr decoded
          rw [isLost_congr (frame_serve crossbar)]
          cases isServed : moved.isServed <;>
            simp [isLost, Lane.wants?, link, Link.awaiting?, isServed, target]
        cases isServed : moved.isServed <;>
          simp [kept, Lane.wants?, Lane.asks?, link, Link.awaiting?, owned, isServed]
      · cases crossbar.serve.isLost moved <;> cases isServed : moved.isServed <;>
          simp [Lane.wants?, Lane.asks?, link, Link.awaiting?, isServed, decoded, Option.filter,
            Link.acknowledge, Link.acknowledge?]

/-- The lanes that a cycle takes into account for a slot. -/
theorem Engaged.candidates_eq (engaged : Engaged crossbar stages)
    (found : crossbar.slots[crossbar.place port]? = some slot) :
    crossbar.serve.refuseLost.candidates (crossbar.place port) =
      (crossbar.asks port).filterMap (candidate? crossbar.frame.roster slot.phase.lane?) := by
  have frame_eq : crossbar.serve.refuseLost.frame = crossbar.frame :=
    (frame_refuseLost crossbar.serve).trans (frame_serve crossbar)
  have length : crossbar.serve.refuseLost.lanes.length = crossbar.lanes.length := by
    simpa [frame] using congrArg (·.roster.length) frame_eq
  unfold candidates asks
  rw [filterMap_zipIdx, filterMap_zipIdx, List.filterMap_filterMap, length]
  apply List.filterMap_congr
  intro place member
  obtain ⟨lane, at_⟩ : ∃ lane, crossbar.lanes[place]? = some lane :=
    ⟨_, List.getElem?_eq_getElem (List.mem_range.mp member)⟩
  obtain ⟨after, there⟩ : ∃ after, crossbar.serve.refuseLost.lanes[place]? = some after :=
    ⟨_, List.getElem?_eq_getElem (length ▸ List.mem_range.mp member)⟩
  have wants := engaged.wants?_refuseLost found at_ there
  have seat : crossbar.frame.roster[place]? = some (after.port, after.rank) := by
    rw [← frame_eq]
    simp [frame, there]
  rw [at_, there]
  simp only [Option.bind_some, target?_congr frame_eq, target?_eq_place_iff found]
  trans (after.wants?.filter fun request => crossbar.map.decode request.address = some port).map
    fun request => ⟨place, after.port, after.rank, request⟩
  · cases after.wants? with
    | none => rfl
    | some request => by_cases decoded : crossbar.map.decode request.address = some port <;>
        simp [decoded, Option.filter]
  · rw [wants]
    by_cases owned : slot.phase.lane? = some place <;> cases lane.asks? crossbar.map port <;>
      simp [owned, candidate?, seat]

theorem offer_answer (found : crossbar.slots[crossbar.place port]? = some now) (cycle : Nat) :
    (crossbar.offer port cycle).answer = now.link.response? := by
  simp [offer, slot?_eq, found]

/-- A cycle grants a slot to the lane that the slot by itself would be granted to. -/
theorem Engaged.granted?_eq (engaged : Engaged crossbar stages)
    (found : crossbar.slots[crossbar.place port]? = some now) (precedes : slot.Precedes now)
    (cycle : Nat) :
    crossbar.granted? (crossbar.place port) =
      slot.choice? crossbar.frame.roster (crossbar.offer port cycle) := by
  have owned : slot.phase = now.phase := by
    rw [precedes.same]
  have moved : crossbar.serve.refuseLost.slots[crossbar.place port]? = some now.moveOn := by
    rw [show crossbar.serve.refuseLost.slots = crossbar.slots.map (·.moveOn) from rfl,
      List.getElem?_map, found]
    rfl
  rw [granted?, choice?, moved, Option.bind_some, choose, engaged.candidates_eq found,
    Slot.choice?, offer_answer found, precedes.answered, owned]
  rfl

theorem Engaged.slot_tick (engaged : Engaged crossbar stages)
    (found : crossbar.slots[crossbar.place port]? = some now) (precedes : slot.Precedes now)
    (cycle : Nat) :
    (crossbar.tick cycle).1.slots[crossbar.place port]? =
      some (slot.next crossbar.frame.roster (crossbar.offer port cycle)) := by
  rw [tick_slots, found, Option.map_some, engaged.granted?_eq found precedes cycle, Slot.next,
    offer_answer found, precedes.answered]

/-- What a slot hands over is the request that its lane holds. -/
theorem Engaged.handover_eq (engaged : Engaged crossbar stages)
    (found : crossbar.slots[crossbar.place port]? = some slot) :
    (stages (crossbar.place port)).handover?.toList = slot.handover (crossbar.asks port) := by
  have phase := (engaged.stands found).phase
  unfold Slot.handover
  rw [phase]
  cases stage : stages (crossbar.place port) with
  | idle | waiting _ _ | answered _ _ _ => rfl
  | completing place request response =>
    have works : (stages (crossbar.place port)).job? = some (place, request) := by
      rw [stage]
      rfl
    obtain ⟨lane, at_, _, waits⟩ := engaged.held works
    have decoded := (target?_eq_place_iff found).mp (engaged.aimed works)
    have asked : (crossbar.asks port).filter (·.1 = place) = [(place, request)] := by
      unfold asks
      rw [filterMap_zipIdx, List.filter_filterMap,
        filterMap_range (List.getElem?_eq_some_iff.mp at_).1]
      · simp [at_, Lane.asks?, waits, Link.awaiting?, decoded, Option.filter]
      · intro other _ apart
        rw [Option.filter_eq_none_iff]
        intro ask listed
        obtain ⟨_, _, request, _, rfl⟩ := by
          simpa [Option.bind_eq_some_iff] using listed
        simpa using apart
    simp only [Stage.phase, asked]
    rfl

/-- A cycle shows of a slave what its slot shows by itself. -/
theorem Engaged.sight_eq (engaged : Engaged crossbar stages)
    (found : crossbar.slots[crossbar.place port]? = some now) (precedes : slot.Precedes now)
    (cycle : Nat) :
    crossbar.sight port cycle =
      slot.sight crossbar.frame.roster (crossbar.offer port cycle) := by
  have granted := engaged.granted?_eq found precedes cycle
  have slots : (crossbar.tick cycle).1.slot? port =
      some (slot.next crossbar.frame.roster (crossbar.offer port cycle)) := by
    rw [slot?_eq, place_congr (frame_tick crossbar cycle), engaged.slot_tick found precedes]
  have grants : (crossbar.tick cycle).2.filter (·.slave = port) =
      ((slot.choice? crossbar.frame.roster (crossbar.offer port cycle)).map fun candidate =>
        (⟨cycle, slot.port, candidate.port⟩ : Grant)).toList := by
    have first : crossbar.frame.owners.findIdx? (· = port) = some (crossbar.place port) := by
      simp only [frame, List.findIdx?_map]
      exact findIdx?_place found
    have named : now.port = slot.port := by
      rw [precedes.same]
    rw [engaged.tick_grants_to cycle first, grant?, found, granted, ← named]
    cases slot.choice? crossbar.frame.roster (crossbar.offer port cycle) <;> rfl
  have seen : observe crossbar (crossbar.tick cycle).1 (crossbar.place port) =
      { forwarded :=
          ((slot.choice? crossbar.frame.roster (crossbar.offer port cycle)).map fun candidate =>
            (candidate.lane, candidate.request)).toList
        delivered := slot.handover (crossbar.asks port) } := by
    have phase : now.phase = slot.phase := by
      rw [precedes.same]
    rw [engaged.observe_tick cycle found, engaged.handover_eq found, granted, Slot.handover,
      Slot.handover, phase]
  unfold sight Slot.sight
  rw [slots, grants, seen]
  rfl

/-- A cycle leaves no acknowledge on the link of a slave. -/
theorem Stage.response?_next (stage : Stage) (choice : Option Candidate) :
    (stage.next choice).link.response? = none := by
  cases choice <;> cases stage <;> rfl

theorem Slot.Precedes.tick (engaged : Engaged crossbar stages)
    (found : crossbar.slots[crossbar.place port]? = some now) (precedes : slot.Precedes now)
    (cycle : Nat) :
    (slot.next crossbar.frame.roster (crossbar.offer port cycle)).Precedes
      (slot.next crossbar.frame.roster (crossbar.offer port cycle)) where
  same := rfl
  unanswered := by
    rw [((engaged.tick cycle).stands (engaged.slot_tick found precedes cycle)).link]
    exact Stage.response?_next _ _
  link := .same

/-- Between cycles nothing happens to a slot but that its slave acknowledges. -/
theorem Slot.Precedes.act {move : Move} (quiet : move.cycle? = none) {index : Nat}
    (found : crossbar.slots[index]? = some now) (precedes : slot.Precedes now) :
    ∃ later, (crossbar.act move).1.slots[index]? = some later ∧ slot.Precedes later := by
  cases move with
  | tick cycle => cases quiet
  | issue _ _ | complete _ => exact ⟨now, found, precedes⟩
  | acknowledge other response =>
    simp only [Crossbar.act, List.getElem?_modify, found]
    refine ⟨_, rfl, ?_⟩
    split
    · exact precedes.acknowledge response
    · exact precedes

/-- What is seen of a slave in a run is what its slot shows by itself when the same is offered. -/
theorem Engaged.sights_eq (engaged : Engaged crossbar stages)
    (found : crossbar.slots[crossbar.place port]? = some now) (precedes : slot.Precedes now)
    (moves : List Move) :
    crossbar.sights port moves =
      slot.replay crossbar.frame.roster (crossbar.offers port moves) := by
  induction moves generalizing crossbar stages slot now with
  | nil => rfl
  | cons move rest ih =>
    have places : (crossbar.act move).1.place port = crossbar.place port :=
      place_congr (frame_act crossbar move) port
    obtain ⟨_, _, moved, _⟩ := engaged.act move
    cases passing : move.cycle? with
    | none =>
      obtain ⟨later, at_, still⟩ := precedes.act passing found
      rw [← places] at at_
      have follows := ih moved at_ still
      rw [frame_act] at follows
      rw [sights, offers, passing]
      exact follows
    | some cycle =>
      obtain rfl := Move.cycle?_eq_some.mp passing
      have at_ := engaged.slot_tick found precedes cycle
      rw [← places] at at_
      have follows := ih moved at_ (precedes.tick engaged found cycle)
      rw [frame_act] at follows
      rw [sights, offers, passing, Option.map_some, Option.map_some, Option.toList_some,
        Option.toList_some, List.singleton_append, List.singleton_append, Slot.replay, follows,
        engaged.sight_eq found precedes]

end

/-- What is seen of a slave depends on nothing but what is offered to it. Take two runs between the
same masters and slaves, in which the masters raise requests and take acknowledges and the slaves
acknowledge as they like. If before every cycle the same requests for a slave are waiting and the
slave has given the same acknowledge, then the cycles leave its slot the same, grant it to the same
masters, and hand the same acknowledges over, whatever goes on at other slaves and whatever is asked
for that is for no slave. -/
theorem slaves_are_independent (map : AddressMap) (masters : List (PortId × MasterAgent))
    (slaves : List (PortId × SlaveAgent)) (tieBreak : TieBreak) {port : PortId}
    (listed : port ∈ slaves.map (·.1)) {moves others : List Move}
    (same : (create map masters slaves tieBreak).offers port moves =
      (create map masters slaves tieBreak).offers port others) :
    (create map masters slaves tieBreak).sights port moves =
        (create map masters slaves tieBreak).sights port others ∧
      ((create map masters slaves tieBreak).grants moves).filter (·.slave = port) =
        ((create map masters slaves tieBreak).grants others).filter (·.slave = port) := by
  have engaged := Engaged.create map masters slaves tieBreak
  generalize created : create map masters slaves tieBreak = start at engaged same
  have owner : port ∈ start.frame.owners := by
    rw [← created, owners_create]
    exact listed
  have within : start.place port < start.slots.length := by
    obtain ⟨slot, member, named⟩ := List.mem_map.mp owner
    exact List.findIdx_lt_length_of_exists ⟨slot, member, decide_eq_true named⟩
  obtain ⟨slot, found⟩ : ∃ slot, start.slots[start.place port]? = some slot :=
    ⟨_, List.getElem?_eq_getElem within⟩
  have fresh : slot.Precedes slot := by
    refine ⟨rfl, ?_, .same⟩
    rw [(engaged.stands found).link]
    rfl
  have sights : start.sights port moves = start.sights port others := by
    rw [engaged.sights_eq found fresh, engaged.sights_eq found fresh, same]
  refine ⟨sights, ?_⟩
  rw [← sights_grants, ← sights_grants, sights]

/-- Two masters take turns at one slave. At the other slave a third master is served in one run; in
the other it asks for an address that is for no slave. -/
theorem neighbour_changes_nothing :
    let low : Window := ⟨"low", 0, 0x1000, ⟨10⟩, 32⟩
    let high : Window := ⟨"high", 0x1000, 0x1000, ⟨11⟩, 32⟩
    let masters : List (PortId × Unit) := [(⟨0⟩, ()), (⟨1⟩, ()), (⟨2⟩, ())]
    let slaves : List (PortId × Unit) := [(⟨10⟩, ()), (⟨11⟩, ())]
    let start := create { windows := [low, high] } masters slaves .ascending
    let moves : List Move := [.issue 0 (.read 0x10 0xF), .issue 1 (.read 0x14 0xF),
      .issue 2 (.read 0x1000 0xF), .tick 0, .acknowledge 0 (.ok 7), .tick 1, .acknowledge 1 (.ok 8),
      .tick 2, .acknowledge 0 (.ok 9), .tick 3, .complete 2, .tick 4]
    let others : List Move := [.issue 0 (.read 0x10 0xF), .issue 1 (.read 0x14 0xF), .tick 0,
      .acknowledge 0 (.ok 7), .tick 1, .issue 2 (.read 0x2000 0xF), .tick 2, .complete 2,
      .acknowledge 0 (.ok 9), .tick 3, .tick 4]
    ⟨10⟩ ∈ slaves.map (·.1) ∧ start.offers ⟨10⟩ moves = start.offers ⟨10⟩ others ∧
      start.grants moves = [⟨0, ⟨10⟩, ⟨0⟩⟩, ⟨0, ⟨11⟩, ⟨2⟩⟩, ⟨2, ⟨10⟩, ⟨1⟩⟩] ∧
      start.grants others = [⟨0, ⟨10⟩, ⟨0⟩⟩, ⟨2, ⟨10⟩, ⟨1⟩⟩] ∧
      start.sights ⟨10⟩ moves = start.sights ⟨10⟩ others := by
  intro low high masters slaves start moves others
  have listed : ⟨10⟩ ∈ slaves.map (·.1) := by decide
  have same : start.offers ⟨10⟩ moves = start.offers ⟨10⟩ others := by decide +kernel
  exact ⟨listed, same, by decide +kernel, by decide +kernel,
    (slaves_are_independent _ masters slaves _ listed same).1⟩

end BusFabric.Crossbar
