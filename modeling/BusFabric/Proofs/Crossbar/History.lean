import BusFabric.Proofs.Crossbar.Engagement

set_option autoImplicit false

namespace BusFabric

open Simple (Link Request Response)

/-- What is seen at a slot over some cycles. -/
structure History where
  /-- Requests that came up on the slave's link, each with the lane that was granted. -/
  forwarded : List (Nat × Request) := []
  /-- Requests that the slave acknowledged. -/
  performed : List (Request × Response) := []
  /-- Acknowledges that came to the lane which the slot worked for, with the lane's request. -/
  delivered : List (Nat × Request × Response) := []

def History.append (earlier later : History) : History where
  forwarded := earlier.forwarded ++ later.forwarded
  performed := earlier.performed ++ later.performed
  delivered := earlier.delivered ++ later.delivered

@[simp] theorem History.append_empty (history : History) : history.append {} = history := by
  simp [append]

@[simp] theorem History.empty_append (history : History) : History.append {} history = history := by
  simp [append]

theorem History.append_assoc (first second third : History) :
    (first.append second).append third = first.append (second.append third) := by
  simp [append]

/-- Requests are acknowledged one after the other, in the order in which they were forwarded, and
every acknowledge goes to the lane whose request it acknowledges. -/
structure History.InTurn (history : History) : Prop where
  /-- None is left out or repeated. -/
  performed_forwarded : history.performed.map (·.1) <+: history.forwarded.map (·.2)
  /-- Only the latest may still be to come. -/
  forwarded_length : history.forwarded.length ≤ history.performed.length + 1
  delivered_performed : history.delivered <+: history.forwarded.zipWith
    (fun (lane, request) (_, response) => (lane, request, response)) history.performed
  performed_length : history.performed.length ≤ history.delivered.length + 1

namespace Crossbar.Stage

/-- The acknowledge that the slave gave for the request that the slot works on. -/
def reply? : Stage → Option (Request × Response)
  | idle | waiting _ _ => none
  | answered _ request response | completing _ request response => some (request, response)

/-- What the slot hands over to its lane when it moves on. -/
def handover? : Stage → Option (Nat × Request × Response)
  | completing lane request response => some (lane, request, response)
  | idle | waiting _ _ | answered _ _ _ => none

end Crossbar.Stage

open Crossbar (Candidate Consistent Slot Stage)

/-- The history of a slot that has done some jobs to the end and is at a stage of the next. -/
def History.of (done : List (Nat × Request × Response)) (stage : Stage) : History where
  forwarded := done.map (fun job => (job.1, job.2.1)) ++ stage.job?.toList
  performed := done.map (·.2) ++ stage.reply?.toList
  delivered := done

@[simp] theorem History.of_idle : History.of [] .idle = {} := rfl

/-- What the crossbar does in a cycle, on record. -/
theorem History.of_next (done : List (Nat × Request × Response)) (stage : Stage)
    (choice : Option Candidate) (free : choice ≠ none → stage.moveOn = .idle) :
    (History.of done stage).append
        { forwarded := (choice.map fun candidate => (candidate.lane, candidate.request)).toList
          delivered := stage.handover?.toList } =
      History.of (done ++ stage.handover?.toList) (stage.next choice) := by
  cases choice with
  | none =>
    cases stage <;> simp [History.of, History.append, Stage.next, Stage.moveOn, Stage.grant,
      Stage.handover?, Stage.job?, Stage.reply?]
  | some candidate =>
    have idle := free (Option.some_ne_none _)
    cases stage with
    | waiting _ _ | answered _ _ _ => cases idle
    | idle | completing _ _ _ =>
      simp [History.of, History.append, Stage.next, Stage.grant, Stage.handover?, Stage.job?,
        Stage.reply?]

/-- What the crossbar does acknowledges nothing. -/
theorem History.of_next_performed (done : List (Nat × Request × Response)) (stage : Stage)
    (choice : Option Candidate) (free : choice ≠ none → stage.moveOn = .idle) :
    (History.of (done ++ stage.handover?.toList) (stage.next choice)).performed =
      (History.of done stage).performed := by
  rw [← of_next done stage choice free]
  simp [append]

theorem History.of_serve (done : List (Nat × Request × Response)) (stage : Stage) {link : Link}
    (served : Link.MayAcknowledge stage.link link) :
    (History.of done stage).append
        { performed := (stage.link.acknowledged? link).toList } =
      History.of done (stage.serve link) := by
  cases served with
  | same =>
    have unmoved : stage.serve stage.link = stage := by cases stage <;> rfl
    simp [unmoved, append]
  | acknowledged response waits =>
    cases stage with
    | waiting lane request =>
      cases waits
      simp [History.of, append, Stage.link, Stage.serve, Stage.job?, Stage.reply?,
        Link.acknowledged?, Link.awaiting?, Link.response?]
    | idle | answered _ _ _ | completing _ _ _ => cases waits

/-- A history from jobs done to the end and a stage of the next is in turn. -/
theorem History.inTurn_of (done : List (Nat × Request × Response)) (stage : Stage) :
    (History.of done stage).InTurn where
  performed_forwarded := by
    cases stage <;> simp [History.of, Stage.job?, Stage.reply?, Function.comp_def]
  forwarded_length := by
    cases stage <;> simp [History.of, Stage.job?, Stage.reply?]
  delivered_performed := by
    have zipped : done = List.zipWith
        (fun (job : Nat × Request) (reply : Request × Response) => (job.1, job.2, reply.2))
        (done.map fun job => (job.1, job.2.1)) (done.map (·.2)) := by
      simp [List.zipWith_map, List.zipWith_self]
    have lengths : (done.map fun job => (job.1, job.2.1)).length = (done.map (·.2)).length := by
      simp
    simp only [History.of]
    rw [List.zipWith_append lengths, ← zipped]
    exact List.prefix_append _ _
  performed_length := by
    cases stage <;> simp [History.of, Stage.reply?]

namespace Crossbar

variable {MasterAgent SlaveAgent : Type}

/-- The request that comes up at a slot between two states of a crossbar, with the lane granted. -/
def forwarded? (before after : Crossbar MasterAgent SlaveAgent) (index : Nat) :
    Option (Nat × Request) := do
  let slot ← before.slots[index]?
  let next ← after.slots[index]?
  let lane ← next.phase.lane?
  let request ← slot.link.raised? next.link
  return (lane, request)

def performed? (before after : Crossbar MasterAgent SlaveAgent) (index : Nat) :
    Option (Request × Response) := do
  let slot ← before.slots[index]?
  let next ← after.slots[index]?
  slot.link.acknowledged? next.link

/-- The acknowledge that comes to the lane for which a slot works, between two states of a
crossbar. -/
def delivered? (before after : Crossbar MasterAgent SlaveAgent) (index : Nat) :
    Option (Nat × Request × Response) := do
  let slot ← before.slots[index]?
  let lane ← slot.phase.lane?
  let earlier ← before.lanes[lane]?
  let later ← after.lanes[lane]?
  let (request, response) ← earlier.link.acknowledged? later.link
  return (lane, request, response)

/-- What is seen at a slot between two states of a crossbar. -/
def observe (before after : Crossbar MasterAgent SlaveAgent) (index : Nat) : History where
  forwarded := (forwarded? before after index).toList
  performed := (performed? before after index).toList
  delivered := (delivered? before after index).toList

variable {crossbar : Crossbar MasterAgent SlaveAgent} {stages : Nat → Stage}

theorem observe_lanes {lanes : List (Lane MasterAgent)}
    {move : Nat → Lane MasterAgent → Lane MasterAgent}
    (moved : ∀ place, lanes[place]? = crossbar.lanes[place]?.map (move place))
    (keeps : ∀ place lane, Link.Keeps lane.link (move place lane).link) (index : Nat) :
    observe crossbar { crossbar with lanes := lanes } index = {} := by
  have forwards : forwarded? crossbar { crossbar with lanes := lanes } index = none := by
    cases found : crossbar.slots[index]? with
    | none => simp [forwarded?, found]
    | some slot => cases slot.phase.lane? <;> simp [forwarded?, found]
  have performs : performed? crossbar { crossbar with lanes := lanes } index = none := by
    cases found : crossbar.slots[index]? <;> simp [performed?, found]
  have delivers : delivered? crossbar { crossbar with lanes := lanes } index = none := by
    simp only [delivered?, moved, Option.bind_eq_bind, Option.bind_eq_none_iff]
    intro slot _ place _ lane at_ after changed
    rw [at_, Option.map_some, Option.some.injEq] at changed
    subst changed
    rw [(keeps place lane).acknowledged?_eq_none]
    nofun
  rw [observe, forwards, performs, delivers]
  rfl

/-- What slaves do shows the requests that they acknowledge. -/
theorem observe_slots {slots : List (Slot SlaveAgent)}
    {move : Nat → Slot SlaveAgent → Slot SlaveAgent}
    (moved : ∀ index, slots[index]? = crossbar.slots[index]?.map (move index))
    (served : ∀ index slot, Link.MayAcknowledge slot.link (move index slot).link) {index : Nat}
    {slot : Slot SlaveAgent} (found : crossbar.slots[index]? = some slot) :
    observe crossbar { crossbar with slots := slots } index =
      { performed := (slot.link.acknowledged? (move index slot).link).toList } := by
  have forwards : forwarded? crossbar { crossbar with slots := slots } index = none := by
    simp [forwarded?, moved, found, (served index slot).raised?_eq_none]
  have performs : performed? crossbar { crossbar with slots := slots } index =
      slot.link.acknowledged? (move index slot).link := by
    simp [performed?, moved, found]
  have delivers : delivered? crossbar { crossbar with slots := slots } index = none := by
    cases phase : slot.phase.lane? with
    | none => simp [delivered?, found, phase]
    | some place => cases at_ : crossbar.lanes[place]? <;> simp [delivered?, found, phase, at_]
  rw [observe, forwards, performs, delivers]
  rfl

theorem Consistent.granted?_eq_none (consistent : Consistent crossbar stages) {index : Nat}
    (busy : (stages index).moveOn ≠ .idle) : crossbar.granted? index = none := by
  cases granted : crossbar.granted? index with
  | none => rfl
  | some candidate => exact absurd (consistent.serve.refuseLost.idle_of_choice granted) busy

theorem Consistent.free_of_granted? (consistent : Consistent crossbar stages) {index : Nat}
    (granted : crossbar.granted? index ≠ none) : (stages index).moveOn = .idle := by
  by_cases idle : (stages index).moveOn = .idle
  · exact idle
  · exact absurd (consistent.granted?_eq_none idle) granted

theorem Consistent.forwarded?_tick (consistent : Consistent crossbar stages) (cycle : Nat)
    {index : Nat} {slot : Slot SlaveAgent} (found : crossbar.slots[index]? = some slot) :
    forwarded? crossbar (crossbar.tick cycle).1 index =
      (crossbar.granted? index).map fun candidate => (candidate.lane, candidate.request) := by
  have before := consistent.stands found
  obtain ⟨after, at_⟩ : ∃ after, (crossbar.tick cycle).1.slots[index]? = some after := by
    rw [tick_slots, found]
    exact ⟨_, rfl⟩
  have next := (consistent.tick cycle).stands at_
  simp only [forwarded?, found, at_, Option.bind_eq_bind, Option.bind_some, next.phase, next.link,
    before.link, Stage.lane?_phase]
  cases stage : stages index with
  | idle | completing _ _ _ => cases crossbar.granted? index <;> rfl
  | waiting _ _ | answered _ _ _ =>
    have busy : (stages index).moveOn ≠ .idle := by
      rw [stage]
      nofun
    rw [consistent.granted?_eq_none busy]
    rfl

theorem Consistent.performed?_tick (consistent : Consistent crossbar stages) (cycle index : Nat) :
    performed? crossbar (crossbar.tick cycle).1 index = none := by
  cases found : crossbar.slots[index]? with
  | none => simp [performed?, found]
  | some slot =>
    have link := (consistent.stands found).link
    obtain ⟨after, at_⟩ : ∃ after, (crossbar.tick cycle).1.slots[index]? = some after := by
      rw [tick_slots, found]
      exact ⟨_, rfl⟩
    have next := ((consistent.tick cycle).stands at_).link
    simp only [performed?, found, at_, Option.bind_eq_bind, Option.bind_some, link, next]
    cases stage : stages index with
    | idle | answered _ _ _ | completing _ _ _ => rfl
    | waiting lane request =>
      have busy : (stages index).moveOn ≠ .idle := by
        rw [stage]
        nofun
      rw [consistent.granted?_eq_none busy]
      rfl

theorem Consistent.delivered?_tick (consistent : Consistent crossbar stages) (cycle : Nat)
    {index : Nat} {slot : Slot SlaveAgent} (found : crossbar.slots[index]? = some slot) :
    delivered? crossbar (crossbar.tick cycle).1 index = (stages index).handover? := by
  have phase := (consistent.stands found).phase
  simp only [delivered?, found, Option.bind_eq_bind, Option.bind_some, phase, Stage.lane?_phase]
  -- While the slot waits for its slave, its lane goes on waiting too.
  have stays {lane : Nat} {request : Request}
      (works : (stages index).moveOn.job? = some (lane, request)) :
      ∃ before after, crossbar.lanes[lane]? = some before ∧
        (crossbar.tick cycle).1.lanes[lane]? = some after ∧
        before.link.acknowledged? after.link = none := by
    have busy : (stages index).moveOn ≠ .idle := by
      intro idle
      rw [idle] at works
      cases works
    have none := consistent.granted?_eq_none busy
    obtain ⟨before, at_, _, waits⟩ := consistent.held (Stage.job?_of_moveOn works)
    obtain ⟨after, held, _, link⟩ := (consistent.tick cycle).held
      (show ((stages index).next (crossbar.granted? index)).job? = some (lane, request) by
        rw [none]
        exact works)
    exact ⟨before, after, at_, held, by rw [waits, link]; rfl⟩
  cases stage : stages index with
  | idle => rfl
  | waiting lane request | answered lane request _ =>
    have works : (stages index).moveOn.job? = some (lane, request) := by
      rw [stage]
      rfl
    obtain ⟨before, after, at_, held, seen⟩ := stays works
    simp [Stage.job?, at_, held, seen, Stage.handover?]
  | completing lane request response =>
    have works : (stages index).job? = some (lane, request) := by
      rw [stage]
      rfl
    obtain ⟨before, at_, _, waits⟩ := consistent.held works
    obtain ⟨moved, served, link⟩ := consistent.serve_delivers stage
    obtain ⟨after, held, answered⟩ := answered_of_serve cycle served link
    simp [Stage.job?, at_, held, waits, answered, Link.acknowledged?, Link.awaiting?,
      Link.response?, Stage.handover?]

theorem Consistent.observe_tick (consistent : Consistent crossbar stages) (cycle : Nat)
    {index : Nat} {slot : Slot SlaveAgent} (found : crossbar.slots[index]? = some slot) :
    observe crossbar (crossbar.tick cycle).1 index =
      { forwarded :=
          ((crossbar.granted? index).map fun candidate =>
            (candidate.lane, candidate.request)).toList
        delivered := (stages index).handover?.toList } := by
  simp [observe, consistent.forwarded?_tick cycle found, consistent.performed?_tick,
    consistent.delivered?_tick cycle found]

end Crossbar

end BusFabric
