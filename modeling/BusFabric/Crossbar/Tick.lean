import BusFabric.Crossbar.Basic

set_option autoImplicit false

namespace BusFabric.Crossbar

variable {MasterAgent SlaveAgent : Type}

namespace Lane

variable {Agent : Type}

def wants? (lane : Lane Agent) : Option Simple.Request :=
  if lane.isServed then none else lane.link.awaiting?

/-- Hands an acknowledge to the lane's master. -/
def deliver (lane : Lane Agent) (response : Simple.Response) : Lane Agent :=
  { lane with link := lane.link.acknowledge response, isServed := false }

end Lane

namespace Slot

variable {Agent : Type}

/-- Takes the slave's acknowledge, or ends the hand-over of one. -/
def moveOn (slot : Slot Agent) : Slot Agent :=
  match slot.phase with
  | .idle => slot
  | .granted lane =>
    match slot.link.response? with
    | some response =>
      { slot with phase := .completing lane response, link := slot.link.completed }
    | none => slot
  | .completing _ _ => { slot with phase := .idle }

end Slot

/-- Hands every acknowledge that was taken a cycle ago to its lane. -/
def deliverAll (slots : List (Slot SlaveAgent)) (lanes : List (Lane MasterAgent)) :
    List (Lane MasterAgent) :=
  slots.foldl
    (fun lanes slot =>
      match slot.phase with
      | .completing lane response => lanes.modify lane (·.deliver response)
      | .idle | .granted _ => lanes)
    lanes

def target? (crossbar : Crossbar MasterAgent SlaveAgent) (address : Address) : Option Nat :=
  (crossbar.map.decode address).bind fun owner => crossbar.slots.findIdx? (·.port = owner)

/-- Whether the lane's request is for no slot. -/
def isLost (crossbar : Crossbar MasterAgent SlaveAgent) (lane : Lane MasterAgent) : Bool :=
  match lane.wants? with
  | some request => (crossbar.target? request.address).isNone
  | none => false

/-- Moves every slot on and hands out the acknowledges. -/
def serve (crossbar : Crossbar MasterAgent SlaveAgent) : Crossbar MasterAgent SlaveAgent :=
  { crossbar with
    lanes := deliverAll crossbar.slots crossbar.lanes
    slots := crossbar.slots.map (·.moveOn) }

def refuseLost (crossbar : Crossbar MasterAgent SlaveAgent) : Crossbar MasterAgent SlaveAgent :=
  { crossbar with
    lanes := crossbar.lanes.map fun lane =>
      if crossbar.isLost lane then { lane with link := lane.link.acknowledge .refused } else lane
    decodeErrors := crossbar.decodeErrors + crossbar.lanes.countP crossbar.isLost }

structure Candidate where
  /-- The lane's place in the list of lanes. -/
  lane : Nat
  port : PortId
  rank : Nat
  request : Simple.Request
  deriving DecidableEq

def candidates (crossbar : Crossbar MasterAgent SlaveAgent) (slot : Nat) : List Candidate :=
  crossbar.lanes.zipIdx.filterMap fun (lane, index) =>
    match lane.wants? with
    | some request =>
      if crossbar.target? request.address = some slot then
        some ⟨index, lane.port, lane.rank, request⟩
      else none
    | none => none

def first? : List Candidate → Option Candidate
  | [] => none
  | candidate :: rest =>
    match first? rest with
    | none => some candidate
    | some other => if other.rank < candidate.rank then some other else some candidate

/-- Whose turn it is after a grant to rank `last`: the least rank above it or, if there is none, the
least rank. -/
def pick (candidates : List Candidate) (last : Option Nat) : Option Candidate :=
  match last with
  | none => first? candidates
  | some last => (first? (candidates.filter (last < ·.rank))).or (first? candidates)

/-- The lane to be granted a slot, if the slot is idle and its slave's link is free. -/
def choose (crossbar : Crossbar MasterAgent SlaveAgent) (index : Nat) (slot : Slot SlaveAgent) :
    Option Candidate :=
  if slot.phase = .idle ∧ slot.link.isIdle then pick (crossbar.candidates index) slot.lastRank
  else none

/-- Forwards a candidate's request to the slave. -/
def Slot.grant {Agent : Type} (slot : Slot Agent) (choice : Option Candidate) : Slot Agent :=
  match choice with
  | none => slot
  | some candidate =>
    { slot with
      phase := .granted candidate.lane
      lastRank := some candidate.rank
      link := (slot.link.issue? candidate.request).getD slot.link }

/-- Grants every idle slot that a lane waits for. A lane waits for one slot only, so the slots
choose without looking at each other. -/
def grantAll (crossbar : Crossbar MasterAgent SlaveAgent) (cycle : Nat) :
    Crossbar MasterAgent SlaveAgent × List Grant :=
  let choices := crossbar.slots.mapIdx fun index slot => (slot, crossbar.choose index slot)
  ({ crossbar with
      slots := choices.map fun (slot, choice) => slot.grant choice
      lanes := (choices.filterMap (·.2)).foldl
        (fun lanes candidate => lanes.modify candidate.lane ({ · with isServed := true }))
        crossbar.lanes },
    choices.filterMap fun (slot, choice) =>
      choice.map fun candidate => ⟨cycle, slot.port, candidate.port⟩)

/-- One cycle, with the grants made in it. First every slot moves on: an acknowledge from its slave
is taken, and one taken a cycle ago is handed to its lane. Then requests that no slot decodes are
refused. Last, every idle slot is granted to one of the lanes that wait for it. -/
def tick (crossbar : Crossbar MasterAgent SlaveAgent) (cycle : Nat) :
    Crossbar MasterAgent SlaveAgent × List Grant :=
  crossbar.serve.refuseLost.grantAll cycle

end BusFabric.Crossbar
