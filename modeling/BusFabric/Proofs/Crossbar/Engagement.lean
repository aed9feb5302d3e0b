import BusFabric.Crossbar.Tick
import BusFabric.Proofs.Simple.Handshake

set_option autoImplicit false

namespace BusFabric.Crossbar

open Simple (Request Response)

variable {MasterAgent SlaveAgent : Type}

/-- How far a slot is with the request it works on. -/
inductive Stage where
  | idle
  /-- The slave has not acknowledged yet. -/
  | waiting (lane : Nat) (request : Request)
  /-- The slave has acknowledged, which the slot has not seen. -/
  | answered (lane : Nat) (request : Request) (response : Response)
  | completing (lane : Nat) (request : Request) (response : Response)

namespace Stage

def job? : Stage → Option (Nat × Request)
  | idle => none
  | waiting lane request | answered lane request _ | completing lane request _ =>
    some (lane, request)

def phase : Stage → Phase
  | idle => .idle
  | waiting lane _ | answered lane _ _ => .granted lane
  | completing lane _ response => .completing lane response

def link : Stage → Simple.Link
  | idle | completing _ _ _ => .idle
  | waiting _ request => .waiting request
  | answered _ request response => .answered request response

/-- A slot's next stage when every slot moves on. -/
def moveOn : Stage → Stage
  | answered lane request response => completing lane request response
  | completing _ _ _ => idle
  | idle => idle
  | waiting lane request => waiting lane request

/-- A slot's next stage when a lane is chosen for it. -/
def grant (stage : Stage) : Option Candidate → Stage
  | some candidate => waiting candidate.lane candidate.request
  | none => stage

/-- A slot's next stage when its slave has moved and left the link as it is now. -/
def serve (stage : Stage) (link : Simple.Link) : Stage :=
  match stage, link with
  | waiting lane request, .answered _ response => answered lane request response
  | stage, _ => stage

theorem job?_serve (stage : Stage) (link : Simple.Link) : (stage.serve link).job? = stage.job? := by
  cases stage <;> cases link <;> rfl

theorem lane?_phase (stage : Stage) : stage.phase.lane? = stage.job?.map (·.1) := by
  cases stage <;> rfl

theorem job?_of_moveOn {stage : Stage} {lane : Nat} {request : Request}
    (works : stage.moveOn.job? = some (lane, request)) : stage.job? = some (lane, request) := by
  cases stage with
  | idle => cases works
  | waiting _ _ => exact works
  | answered _ _ _ => exact works
  | completing _ _ _ => cases works

end Stage

structure Slot.Stands {Agent : Type} (slot : Slot Agent) (stage : Stage) : Prop where
  phase : slot.phase = stage.phase
  link : slot.link = stage.link

/-- The lane is served, and its master holds the request up. -/
def Holds (lanes : List (Lane MasterAgent)) (index : Nat) (request : Request) : Prop :=
  ∃ lane, lanes[index]? = some lane ∧ lane.isServed = true ∧ lane.link = .waiting request

structure Consistent (crossbar : Crossbar MasterAgent SlaveAgent) (stages : Nat → Stage) :
    Prop where
  stands : ∀ {index : Nat} {slot : Slot SlaveAgent}, crossbar.slots[index]? = some slot →
    slot.Stands (stages index)
  held : ∀ {index lane : Nat} {request : Request}, (stages index).job? = some (lane, request) →
    Holds crossbar.lanes lane request
  apart : ∀ {first second lane : Nat} {held other : Request},
    (stages first).job? = some (lane, held) → (stages second).job? = some (lane, other) →
      first = second
  beyond : ∀ {index : Nat}, crossbar.slots[index]? = none → stages index = .idle

/-! ### Masters and slaves -/

/-- Masters may do to their lanes, each in its own way, whatever does not take a request back. -/
theorem Consistent.exchangeLanes {crossbar : Crossbar MasterAgent SlaveAgent}
    {stages : Nat → Stage} (consistent : Consistent crossbar stages)
    {lanes : List (Lane MasterAgent)} {move : Nat → Lane MasterAgent → Lane MasterAgent}
    (moved : ∀ place, lanes[place]? = crossbar.lanes[place]?.map (move place))
    (served : ∀ place lane, (move place lane).isServed = lane.isServed)
    (keeps : ∀ place lane, Simple.Link.Keeps lane.link (move place lane).link) :
    Consistent { crossbar with lanes := lanes } stages where
  stands := consistent.stands
  held := by
    intro index place request works
    obtain ⟨lane, at_, isServed, link⟩ := consistent.held works
    exact ⟨move place lane, by simp [moved, at_], (served place lane).trans isServed,
      keeps place lane request link⟩
  apart := consistent.apart
  beyond := consistent.beyond

/-- Masters may do to their lanes whatever does not take a request back. -/
theorem Consistent.mapLanes {crossbar : Crossbar MasterAgent SlaveAgent} {stages : Nat → Stage}
    (consistent : Consistent crossbar stages) (move : Lane MasterAgent → Lane MasterAgent)
    (served : ∀ lane, (move lane).isServed = lane.isServed)
    (keeps : ∀ lane, Simple.Link.Keeps lane.link (move lane).link) :
    Consistent { crossbar with lanes := crossbar.lanes.map move } stages :=
  consistent.exchangeLanes (fun _ => List.getElem?_map) (fun _ => served) (fun _ => keeps)

theorem Slot.Stands.serve {Agent : Type} {before after : Slot Agent} {stage : Stage}
    (stands : before.Stands stage) (phase : after.phase = before.phase)
    (link : Simple.Link.MayAcknowledge before.link after.link) :
    after.Stands (stage.serve after.link) := by
  obtain ⟨held, linked⟩ := stands
  cases stage with
  | waiting lane request =>
    generalize given : after.link = final at link ⊢
    rw [linked] at link
    cases link with
    | same => exact ⟨phase.trans held, given⟩
    | acknowledged response waits =>
      cases waits
      exact ⟨phase.trans held, given⟩
  | idle | answered _ _ _ | completing _ _ _ =>
    have same := link.eq_of_awaiting? (by rw [linked]; rfl)
    exact ⟨phase.trans held, same.trans linked⟩

theorem Consistent.exchangeSlots {crossbar : Crossbar MasterAgent SlaveAgent}
    {stages : Nat → Stage} (consistent : Consistent crossbar stages)
    {slots : List (Slot SlaveAgent)} {move : Nat → Slot SlaveAgent → Slot SlaveAgent}
    (moved : ∀ index, slots[index]? = crossbar.slots[index]?.map (move index))
    (phase : ∀ index slot, (move index slot).phase = slot.phase)
    (link : ∀ index slot, Simple.Link.MayAcknowledge slot.link (move index slot).link) :
    Consistent { crossbar with slots := slots }
      (fun index => crossbar.slots[index]?.elim (stages index)
        fun slot => (stages index).serve (move index slot).link) where
  stands := by
    intro index slot found
    simp only [moved, Option.map_eq_some_iff] at found
    obtain ⟨before, at_, rfl⟩ := found
    simpa [at_] using (consistent.stands at_).serve (phase index before) (link index before)
  held := by
    intro index lane request works
    refine consistent.held (?_ : (stages index).job? = some (lane, request))
    cases at_ : crossbar.slots[index]? <;> simpa [at_, Stage.job?_serve] using works
  apart := by
    intro first second lane held other one another
    refine consistent.apart (?_ : (stages first).job? = some (lane, held))
      (?_ : (stages second).job? = some (lane, other))
    · cases at_ : crossbar.slots[first]? <;> simpa [at_, Stage.job?_serve] using one
    · cases at_ : crossbar.slots[second]? <;> simpa [at_, Stage.job?_serve] using another
  beyond := by
    intro index past
    simp only [moved, Option.map_eq_none_iff] at past
    simpa [past] using consistent.beyond past

theorem Consistent.mapSlots {crossbar : Crossbar MasterAgent SlaveAgent} {stages : Nat → Stage}
    (consistent : Consistent crossbar stages) (move : Slot SlaveAgent → Slot SlaveAgent)
    (phase : ∀ slot, (move slot).phase = slot.phase)
    (link : ∀ slot, Simple.Link.MayAcknowledge slot.link (move slot).link) :
    Consistent { crossbar with slots := crossbar.slots.map move }
      (fun index => crossbar.slots[index]?.elim (stages index)
        fun slot => (stages index).serve (move slot).link) :=
  consistent.exchangeSlots (fun _ => List.getElem?_map) (fun _ => phase) (fun _ => link)

/-! ### Moving on -/

theorem Slot.Stands.moveOn {Agent : Type} {slot : Slot Agent} {stage : Stage}
    (stands : slot.Stands stage) : slot.moveOn.Stands stage.moveOn := by
  obtain ⟨phase, link⟩ := stands
  cases stage with
  | idle =>
    have same : slot.moveOn = slot := by simp [Slot.moveOn, phase, Stage.phase]
    rw [same]
    exact ⟨phase, link⟩
  | waiting lane request =>
    have same : slot.moveOn = slot := by
      simp [Slot.moveOn, phase, link, Stage.phase, Stage.link, Simple.Link.response?]
    rw [same]
    exact ⟨phase, link⟩
  | answered lane request response =>
    constructor <;>
      simp [Slot.moveOn, phase, link, Stage.phase, Stage.link, Stage.moveOn,
        Simple.Link.response?, Simple.Link.completed]
  | completing lane request response =>
    constructor <;> simp [Slot.moveOn, phase, link, Stage.phase, Stage.link, Stage.moveOn]

theorem deliverAll_cons (slot : Slot SlaveAgent) (slots : List (Slot SlaveAgent))
    (lanes : List (Lane MasterAgent)) :
    deliverAll (slot :: slots) lanes = deliverAll slots (deliverAll [slot] lanes) := rfl

theorem deliverAll_untouched (slots : List (Slot SlaveAgent)) (lanes : List (Lane MasterAgent))
    (index : Nat)
    (absent : ∀ slot ∈ slots, ∀ response, slot.phase ≠ .completing index response) :
    (deliverAll slots lanes)[index]? = lanes[index]? := by
  induction slots generalizing lanes with
  | nil => rfl
  | cons slot slots ih =>
    rw [deliverAll_cons, ih _ fun other member => absent other (List.mem_cons_of_mem _ member)]
    have first := absent slot (List.mem_cons_self ..)
    unfold deliverAll
    simp only [List.foldl_cons, List.foldl_nil]
    split
    · rename_i lane response phase
      have elsewhere : lane ≠ index := fun same => first response (same ▸ phase)
      rw [List.getElem?_modify]
      simp [elsewhere]
    · rfl
    · rfl

theorem deliverAll_delivered (slots : List (Slot SlaveAgent)) (lanes : List (Lane MasterAgent))
    {place index : Nat} {slot : Slot SlaveAgent} {response : Response}
    (found : slots[place]? = some slot) (phase : slot.phase = .completing index response)
    (alone : ∀ (other : Nat) (rival : Slot SlaveAgent), slots[other]? = some rival →
      ∀ given, rival.phase = .completing index given → other = place) :
    (deliverAll slots lanes)[index]? = lanes[index]?.map (·.deliver response) := by
  induction slots generalizing lanes place with
  | nil => cases found
  | cons head slots ih =>
    rw [deliverAll_cons]
    cases place with
    | zero =>
      simp only [List.getElem?_cons_zero, Option.some.injEq] at found
      subst found
      rw [deliverAll_untouched]
      · simp [deliverAll, phase]
      · intro rival member given busy
        obtain ⟨other, _, at_⟩ := List.getElem_of_mem member
        have later := alone (other + 1) rival (by simp [← at_]) given busy
        omega
    | succ place =>
      rw [ih (deliverAll [head] lanes) (by simpa using found)]
      · congr 1
        apply deliverAll_untouched
        intro rival member given busy
        rw [List.mem_singleton] at member
        have first := alone 0 rival (by simp [member]) given busy
        omega
      · intro other rival held given busy
        have shifted := alone (other + 1) rival (by simpa using held) given busy
        omega

/-! ### Choosing -/

theorem mem_of_first? {candidates : List Candidate} {candidate : Candidate}
    (chosen : first? candidates = some candidate) : candidate ∈ candidates := by
  induction candidates generalizing candidate with
  | nil => cases chosen
  | cons head rest ih =>
    unfold first? at chosen
    split at chosen
    · cases chosen
      exact List.mem_cons_self ..
    · rename_i other found
      split at chosen
      · cases chosen
        exact List.mem_cons_of_mem _ (ih found)
      · cases chosen
        exact List.mem_cons_self ..

theorem mem_of_pick {candidates : List Candidate} {last : Option Nat} {candidate : Candidate}
    (chosen : pick candidates last = some candidate) : candidate ∈ candidates := by
  cases last with
  | none => exact mem_of_first? chosen
  | some last =>
    simp only [pick, Option.or_eq_some_iff] at chosen
    rcases chosen with after | ⟨_, least⟩
    · exact (List.mem_filter.mp (mem_of_first? after)).1
    · exact mem_of_first? least

theorem Lane.wants?_eq_some {Agent : Type} {lane : Lane Agent} {request : Request} :
    lane.wants? = some request ↔ lane.isServed = false ∧ lane.link = .waiting request := by
  unfold wants?
  cases lane.isServed with
  | true => simp
  | false => cases lane.link <;> simp [Simple.Link.awaiting?]

/-- The candidates for a slot are the lanes whose request waits and is for that slot. -/
theorem mem_candidates {crossbar : Crossbar MasterAgent SlaveAgent} {index : Nat}
    {candidate : Candidate} :
    candidate ∈ crossbar.candidates index ↔ ∃ lane, crossbar.lanes[candidate.lane]? = some lane ∧
      candidate.port = lane.port ∧ candidate.rank = lane.rank ∧
      lane.wants? = some candidate.request ∧
      crossbar.target? candidate.request.address = some index := by
  simp only [candidates, List.mem_filterMap, Prod.exists, List.mem_zipIdx_iff_getElem?]
  constructor
  · rintro ⟨lane, place, at_, chosen⟩
    split at chosen
    · rename_i request wants
      split at chosen
      · rename_i target
        cases chosen
        exact ⟨lane, at_, rfl, rfl, wants, target⟩
      · cases chosen
    · cases chosen
  · rintro ⟨lane, at_, port, rank, wants, target⟩
    refine ⟨lane, candidate.lane, at_, ?_⟩
    obtain ⟨place, _, _, request⟩ := candidate
    subst port rank
    simp only at wants target
    simp [wants, target]

theorem choose_eq_some {crossbar : Crossbar MasterAgent SlaveAgent} {index : Nat}
    {slot : Slot SlaveAgent} {candidate : Candidate}
    (chosen : crossbar.choose index slot = some candidate) :
    slot.phase = .idle ∧ slot.link = .idle ∧ ∃ lane,
      crossbar.lanes[candidate.lane]? = some lane ∧ lane.isServed = false ∧
      lane.link = .waiting candidate.request ∧
      crossbar.target? candidate.request.address = some index := by
  unfold choose at chosen
  split at chosen
  · rename_i free
    obtain ⟨lane, at_, _, _, wants, target⟩ := mem_candidates.mp (mem_of_pick chosen)
    obtain ⟨unserved, link⟩ := Lane.wants?_eq_some.mp wants
    refine ⟨free.1, ?_, lane, at_, unserved, link, target⟩
    cases slotLink : slot.link <;> simp [slotLink, Simple.Link.isIdle] at free ⊢
  · cases chosen

theorem choose_lane {crossbar : Crossbar MasterAgent SlaveAgent} {index : Nat}
    {slot : Slot SlaveAgent} {candidate : Candidate}
    (chosen : crossbar.choose index slot = some candidate) :
    ∃ lane, crossbar.lanes[candidate.lane]? = some lane ∧ candidate.port = lane.port ∧
      candidate.rank = lane.rank := by
  unfold choose at chosen
  split at chosen
  · obtain ⟨lane, at_, port, rank, _⟩ := mem_candidates.mp (mem_of_pick chosen)
    exact ⟨lane, at_, port, rank⟩
  · cases chosen

/-! ### Refusing and granting -/

theorem refuseLost_holds {crossbar : Crossbar MasterAgent SlaveAgent} {index : Nat}
    {request : Request} (holds : Holds crossbar.lanes index request) :
    Holds crossbar.refuseLost.lanes index request := by
  obtain ⟨lane, at_, served, link⟩ := holds
  refine ⟨lane, ?_, served, link⟩
  have kept : crossbar.isLost lane = false := by simp [isLost, Lane.wants?, served]
  simp [refuseLost, at_, kept]

def serveAll (candidates : List Candidate) (lanes : List (Lane MasterAgent)) :
    List (Lane MasterAgent) :=
  candidates.foldl
    (fun lanes candidate => lanes.modify candidate.lane ({ · with isServed := true })) lanes

theorem serveAll_getElem? (candidates : List Candidate) (lanes : List (Lane MasterAgent))
    (index : Nat) :
    (serveAll candidates lanes)[index]? =
      if index ∈ candidates.map (·.lane) then
        lanes[index]?.map ({ · with isServed := true }) else lanes[index]? := by
  induction candidates generalizing lanes with
  | nil => rfl
  | cons candidate candidates ih =>
    have unfolded : serveAll (candidate :: candidates) lanes =
        serveAll candidates (lanes.modify candidate.lane ({ · with isServed := true })) := rfl
    rw [unfolded, ih, List.getElem?_modify]
    by_cases here : candidate.lane = index
    · subst here
      cases lanes[candidate.lane]? <;> simp
    · have differs : ¬ index = candidate.lane := fun same => here same.symm
      simp [here, differs]

theorem serveAll_holds {candidates : List Candidate} {lanes : List (Lane MasterAgent)}
    {index : Nat} {request : Request} (holds : Holds lanes index request) :
    Holds (serveAll candidates lanes) index request := by
  obtain ⟨lane, at_, served, link⟩ := holds
  rw [Holds, serveAll_getElem?, at_]
  split
  · exact ⟨_, rfl, rfl, link⟩
  · exact ⟨lane, rfl, served, link⟩

def choice? (crossbar : Crossbar MasterAgent SlaveAgent) (index : Nat) : Option Candidate :=
  crossbar.slots[index]?.bind (crossbar.choose index)

theorem grantAll_slots (crossbar : Crossbar MasterAgent SlaveAgent) (cycle index : Nat) :
    (crossbar.grantAll cycle).1.slots[index]? =
      crossbar.slots[index]?.map (·.grant (crossbar.choice? index)) := by
  cases found : crossbar.slots[index]? <;> simp [grantAll, choice?, found]

theorem grantAll_lanes (crossbar : Crossbar MasterAgent SlaveAgent) (cycle : Nat) :
    (crossbar.grantAll cycle).1.lanes =
      serveAll ((crossbar.slots.mapIdx fun index slot =>
        (slot, crossbar.choose index slot)).filterMap (·.2)) crossbar.lanes := rfl

/-! ### What a cycle leaves alone of its lanes -/

theorem map_eq_self {α : Type} {change : α → α} {items : List α}
    (same : ∀ item ∈ items, change item = item) : items.map change = items :=
  (List.map_congr_left same).trans (List.map_id' items)

theorem map_modify_of_eq {α β : Type} {view : α → β} {change : α → α} (items : List α)
    (index : Nat) (same : ∀ item, view (change item) = view item) :
    (items.modify index change).map view = items.map view := by
  apply List.ext_getElem?
  intro place
  rw [List.getElem?_map, List.getElem?_map, List.getElem?_modify]
  cases items[place]? with
  | none => rfl
  | some item => by_cases here : index = place <;> simp [here, same]

/-- What a lane shows whether or not it is acknowledged and served. -/
structure Lane.Lasting {Agent β : Type} (view : Lane Agent → β) : Prop where
  acknowledge : ∀ (lane : Lane Agent) (response : Response),
    view { lane with link := lane.link.acknowledge response } = view lane
  serve : ∀ (lane : Lane Agent) (isServed : Bool), view { lane with isServed } = view lane

namespace Lane.Lasting

variable {β : Type} {view : Lane MasterAgent → β}

theorem deliver (lasting : Lasting view) (lane : Lane MasterAgent) (response : Response) :
    view (lane.deliver response) = view lane :=
  (lasting.serve { lane with link := lane.link.acknowledge response } false).trans
    (lasting.acknowledge lane response)

theorem deliverAll (lasting : Lasting view) (slots : List (Slot SlaveAgent))
    (lanes : List (Lane MasterAgent)) :
    (Crossbar.deliverAll slots lanes).map view = lanes.map view := by
  induction slots generalizing lanes with
  | nil => rfl
  | cons slot slots ih =>
    rw [deliverAll_cons, ih]
    simp only [Crossbar.deliverAll, List.foldl_cons, List.foldl_nil]
    split
    · exact map_modify_of_eq lanes _ fun lane => lasting.deliver lane _
    · rfl
    · rfl

theorem refuseLost (lasting : Lasting view) (crossbar : Crossbar MasterAgent SlaveAgent) :
    crossbar.refuseLost.lanes.map view = crossbar.lanes.map view := by
  simp only [Crossbar.refuseLost, List.map_map]
  apply List.map_congr_left
  intro lane _
  simp only [Function.comp_apply]
  split
  · exact lasting.acknowledge lane .refused
  · rfl

theorem serveAll (lasting : Lasting view) (candidates : List Candidate)
    (lanes : List (Lane MasterAgent)) :
    (Crossbar.serveAll candidates lanes).map view = lanes.map view := by
  induction candidates generalizing lanes with
  | nil => rfl
  | cons candidate candidates ih =>
    exact (ih _).trans (map_modify_of_eq lanes _ fun lane => lasting.serve lane true)

theorem tick (lasting : Lasting view) (crossbar : Crossbar MasterAgent SlaveAgent) (cycle : Nat) :
    (crossbar.tick cycle).1.lanes.map view = crossbar.lanes.map view := by
  unfold Crossbar.tick
  rw [grantAll_lanes, lasting.serveAll, lasting.refuseLost]
  exact lasting.deliverAll crossbar.slots crossbar.lanes

end Lane.Lasting

/-! ### Choices -/

theorem choice?_eq_some {crossbar : Crossbar MasterAgent SlaveAgent} {index : Nat}
    {candidate : Candidate} (chosen : crossbar.choice? index = some candidate) :
    ∃ slot, crossbar.slots[index]? = some slot ∧ crossbar.choose index slot = some candidate := by
  simpa [choice?, Option.bind_eq_some_iff] using chosen

/-- The candidates that are chosen in a cycle are those chosen for some slot. -/
theorem mem_choices {crossbar : Crossbar MasterAgent SlaveAgent} {candidate : Candidate} :
    candidate ∈ (crossbar.slots.mapIdx fun index slot =>
        (slot, crossbar.choose index slot)).filterMap (·.2) ↔
      ∃ index, crossbar.choice? index = some candidate := by
  rw [List.mem_filterMap]
  constructor
  · rintro ⟨pair, member, chosen⟩
    obtain ⟨index, at_⟩ := List.mem_iff_getElem?.mp member
    rw [List.getElem?_mapIdx, Option.map_eq_some_iff] at at_
    obtain ⟨slot, found, rfl⟩ := at_
    exact ⟨index, by rw [choice?, found]; exact chosen⟩
  · rintro ⟨index, chosen⟩
    obtain ⟨slot, found, choose⟩ := choice?_eq_some chosen
    refine ⟨(slot, some candidate), List.mem_of_getElem? (i := index) ?_, rfl⟩
    rw [List.getElem?_mapIdx, found, ← choose]
    rfl

theorem grantAll_holds {crossbar : Crossbar MasterAgent SlaveAgent} {index : Nat}
    {candidate : Candidate} (cycle : Nat) (chosen : crossbar.choice? index = some candidate) :
    Holds (crossbar.grantAll cycle).1.lanes candidate.lane candidate.request := by
  obtain ⟨slot, at_, choose⟩ := choice?_eq_some chosen
  obtain ⟨_, _, lane, found, _, link, _⟩ := choose_eq_some choose
  rw [Holds, grantAll_lanes, serveAll_getElem?,
    if_pos (List.mem_map_of_mem (mem_choices.mpr ⟨index, chosen⟩)), found]
  exact ⟨_, rfl, rfl, link⟩

theorem Slot.Stands.grant {crossbar : Crossbar MasterAgent SlaveAgent} {index : Nat}
    {slot : Slot SlaveAgent} {stage : Stage} (stands : slot.Stands stage)
    (found : crossbar.slots[index]? = some slot) :
    (slot.grant (crossbar.choice? index)).Stands (stage.grant (crossbar.choice? index)) := by
  cases chosen : crossbar.choice? index with
  | none => exact stands
  | some candidate =>
    obtain ⟨same, at_, choose⟩ := choice?_eq_some chosen
    rw [found, Option.some.injEq] at at_
    subst at_
    obtain ⟨_, link, _⟩ := choose_eq_some choose
    constructor
    · rfl
    · simp [Slot.grant, link, Simple.Link.issue?, Stage.grant, Stage.link]

/-! ### A cycle -/

section Cycle

variable {crossbar : Crossbar MasterAgent SlaveAgent} {stages : Nat → Stage}

theorem Consistent.completing_place (consistent : Consistent crossbar stages) {place lane : Nat}
    {slot : Slot SlaveAgent} {response : Response} (found : crossbar.slots[place]? = some slot)
    (phase : slot.phase = .completing lane response) :
    ∃ request, stages place = .completing lane request response := by
  have stands := (consistent.stands found).phase
  rw [phase] at stands
  cases stage : stages place with
  | idle | waiting _ _ | answered _ _ _ =>
    rw [stage] at stands
    cases stands
  | completing _ request _ =>
    rw [stage] at stands
    cases stands
    exact ⟨request, rfl⟩

/-- A lane gets the acknowledge of the slot that completes its request. -/
theorem Consistent.serve_completing (consistent : Consistent crossbar stages)
    {index place : Nat} {request : Request} {response : Response}
    (stage : stages index = .completing place request response) :
    crossbar.serve.lanes[place]? = crossbar.lanes[place]?.map (·.deliver response) := by
  have works : (stages index).job? = some (place, request) := by
    rw [stage]
    rfl
  cases found : crossbar.slots[index]? with
  | none =>
    rw [consistent.beyond found] at stage
    cases stage
  | some slot =>
    have phase := (consistent.stands found).phase
    rw [stage] at phase
    apply deliverAll_delivered crossbar.slots crossbar.lanes found phase
    intro other rival at_ given busy
    obtain ⟨held, working⟩ := consistent.completing_place at_ busy
    exact consistent.apart (by rw [working]; rfl) works

/-- A lane whose request no slot completes is left as it is when the slots move on. -/
theorem Consistent.serve_untouched (consistent : Consistent crossbar stages) {place : Nat}
    (absent : ∀ index request response, stages index ≠ .completing place request response) :
    crossbar.serve.lanes[place]? = crossbar.lanes[place]? := by
  apply deliverAll_untouched
  intro slot member response phase
  obtain ⟨index, _, found⟩ := List.getElem_of_mem member
  obtain ⟨request, stage⟩ :=
    consistent.completing_place (List.getElem?_eq_some_iff.mpr ⟨_, found⟩) phase
  exact absent index request response stage

theorem Consistent.serve (consistent : Consistent crossbar stages) :
    Consistent crossbar.serve (fun index => (stages index).moveOn) where
  stands := by
    intro index slot found
    simp only [Crossbar.serve, List.getElem?_map, Option.map_eq_some_iff] at found
    obtain ⟨before, at_, rfl⟩ := found
    exact (consistent.stands at_).moveOn
  held := by
    intro index lane request works
    have job := Stage.job?_of_moveOn works
    obtain ⟨held, at_, served, link⟩ := consistent.held job
    refine ⟨held, ?_, served, link⟩
    rw [← at_]
    apply consistent.serve_untouched
    intro place other response stage
    have same := consistent.apart job (show (stages place).job? = some (lane, other) by
      rw [stage]
      rfl)
    subst same
    simp only [stage] at works
    cases works
  apart := fun one another =>
    consistent.apart (Stage.job?_of_moveOn one) (Stage.job?_of_moveOn another)
  beyond := by
    intro index past
    simp only [Crossbar.serve, List.getElem?_map, Option.map_eq_none_iff] at past
    rw [consistent.beyond past]
    rfl

/-- The acknowledge that a slot hands over reaches the lane that asked. -/
theorem Consistent.serve_delivers (consistent : Consistent crossbar stages)
    {index lane : Nat} {request : Request} {response : Response}
    (stage : stages index = .completing lane request response) :
    ∃ after, crossbar.serve.lanes[lane]? = some after ∧
      after.link = .answered request response := by
  obtain ⟨held, at_, _, link⟩ := consistent.held (show (stages index).job? = some (lane, request) by
    rw [stage]
    rfl)
  refine ⟨held.deliver response, ?_, ?_⟩
  · rw [consistent.serve_completing stage, at_]
    rfl
  · simp [Lane.deliver, link, Simple.Link.acknowledge, Simple.Link.acknowledge?]

theorem Consistent.refuseLost (consistent : Consistent crossbar stages) :
    Consistent crossbar.refuseLost stages where
  stands := consistent.stands
  held := fun works => refuseLost_holds (consistent.held works)
  apart := consistent.apart
  beyond := consistent.beyond

theorem Consistent.idle_of_choice (consistent : Consistent crossbar stages) {index : Nat}
    {candidate : Candidate} (chosen : crossbar.choice? index = some candidate) :
    stages index = .idle := by
  obtain ⟨slot, found, choose⟩ := choice?_eq_some chosen
  have phase := (consistent.stands found).phase
  rw [(choose_eq_some choose).1] at phase
  cases stage : stages index with
  | idle => rfl
  | waiting _ _ | answered _ _ _ | completing _ _ _ =>
    rw [stage] at phase
    cases phase

theorem Consistent.choice_unserved (consistent : Consistent crossbar stages) {index other : Nat}
    {candidate : Candidate} {request : Request} (chosen : crossbar.choice? index = some candidate)
    (works : (stages other).job? = some (candidate.lane, request)) : False := by
  obtain ⟨slot, _, choose⟩ := choice?_eq_some chosen
  obtain ⟨_, _, lane, found, unserved, _⟩ := choose_eq_some choose
  obtain ⟨held, at_, served, _⟩ := consistent.held works
  rw [found, Option.some.injEq] at at_
  rw [← at_, unserved] at served
  cases served

theorem Consistent.choice_target {index : Nat} {candidate : Candidate}
    (chosen : crossbar.choice? index = some candidate) :
    ∃ lane, crossbar.lanes[candidate.lane]? = some lane ∧ lane.link = .waiting candidate.request ∧
      crossbar.target? candidate.request.address = some index := by
  obtain ⟨slot, _, choose⟩ := choice?_eq_some chosen
  obtain ⟨_, _, lane, found, _, link, target⟩ := choose_eq_some choose
  exact ⟨lane, found, link, target⟩

theorem Consistent.grantAll (consistent : Consistent crossbar stages) (cycle : Nat) :
    Consistent (crossbar.grantAll cycle).1
      (fun index => (stages index).grant (crossbar.choice? index)) where
  stands := by
    intro index slot found
    rw [grantAll_slots, Option.map_eq_some_iff] at found
    obtain ⟨before, at_, rfl⟩ := found
    exact (consistent.stands at_).grant at_
  held := by
    intro index lane request works
    cases chosen : crossbar.choice? index with
    | none =>
      rw [chosen] at works
      exact serveAll_holds (consistent.held works)
    | some candidate =>
      rw [chosen] at works
      cases works
      exact grantAll_holds cycle chosen
  apart := by
    intro first second lane held other one another
    cases left : crossbar.choice? first with
    | none =>
      rw [left] at one
      cases right : crossbar.choice? second with
      | none =>
        rw [right] at another
        exact consistent.apart one another
      | some candidate =>
        rw [right] at another
        cases another
        exact (consistent.choice_unserved right one).elim
    | some candidate =>
      rw [left] at one
      cases one
      cases right : crossbar.choice? second with
      | none =>
        rw [right] at another
        exact (consistent.choice_unserved left another).elim
      | some rival =>
        rw [right] at another
        -- Both slots chose the same lane, and a lane asks for one address only.
        simp only [Stage.grant, Stage.job?, Option.some.injEq, Prod.mk.injEq] at another
        obtain ⟨lane, found, link, target⟩ := Consistent.choice_target left
        obtain ⟨same, at_, again, aim⟩ := Consistent.choice_target right
        rw [another.1, found, Option.some.injEq] at at_
        subst at_
        rw [link, Simple.Link.waiting.injEq] at again
        rw [← again, target, Option.some.injEq] at aim
        exact aim
  beyond := by
    intro index past
    rw [grantAll_slots, Option.map_eq_none_iff] at past
    simp [consistent.beyond past, choice?, past, Stage.grant]

/-- The choice made for a slot in a cycle, once slots moved on and lost requests are refused. -/
def granted? (crossbar : Crossbar MasterAgent SlaveAgent) (index : Nat) : Option Candidate :=
  crossbar.serve.refuseLost.choice? index

theorem tick_slots (crossbar : Crossbar MasterAgent SlaveAgent) (cycle index : Nat) :
    (crossbar.tick cycle).1.slots[index]? =
      crossbar.slots[index]?.map fun slot => slot.moveOn.grant (crossbar.granted? index) := by
  have moved : crossbar.serve.refuseLost.slots[index]? =
      crossbar.slots[index]?.map (·.moveOn) := List.getElem?_map ..
  rw [Crossbar.tick, grantAll_slots, moved, Option.map_map]
  rfl

theorem Slot.moveOn_agent {Agent : Type} (slot : Slot Agent) : slot.moveOn.agent = slot.agent := by
  unfold Slot.moveOn
  split
  · rfl
  · split <;> rfl
  · rfl

theorem Slot.grant_agent {Agent : Type} (slot : Slot Agent) (choice : Option Candidate) :
    (slot.grant choice).agent = slot.agent := by
  cases choice <;> rfl

/-- A slot's stage after a cycle of the crossbar. -/
def Stage.next (stage : Stage) (choice : Option Candidate) : Stage :=
  stage.moveOn.grant choice

theorem Consistent.tick (consistent : Consistent crossbar stages) (cycle : Nat) :
    Consistent (crossbar.tick cycle).1
      (fun index => (stages index).next (crossbar.granted? index)) :=
  consistent.serve.refuseLost.grantAll cycle

/-- Once it is on a lane's link, an acknowledge stays there for the rest of the cycle. -/
theorem answered_of_serve {lane : Nat} {after : Lane MasterAgent} {request : Request}
    {response : Response} (cycle : Nat) (found : crossbar.serve.lanes[lane]? = some after)
    (link : after.link = .answered request response) :
    ∃ final, (crossbar.tick cycle).1.lanes[lane]? = some final ∧
      final.link = .answered request response := by
  have kept : crossbar.serve.isLost after = false := by
    simp [isLost, Lane.wants?, link, Simple.Link.awaiting?]
  have refused : crossbar.serve.refuseLost.lanes[lane]? = some after := by
    simp [Crossbar.refuseLost, found, kept]
  unfold Crossbar.tick
  rw [grantAll_lanes, serveAll_getElem?, refused]
  split
  · exact ⟨_, rfl, link⟩
  · exact ⟨after, rfl, link⟩

end Cycle

end BusFabric.Crossbar
