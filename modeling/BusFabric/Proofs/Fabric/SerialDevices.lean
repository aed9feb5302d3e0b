import BusFabric.Proofs.Crossbar.History
import BusFabric.Proofs.Fabric.Play

set_option autoImplicit false

namespace BusFabric

open Simple (Link Request Response)

namespace Device

/-- What becomes of a device and what it answers when it gets one request: it is written or read, as
the request asks, and the answer tells what came of it. A refused access leaves the device as it
was. -/
inductive Answers (device : Device) (offset : Address) (request : Request) :
    Device → Response → Prop
  | written {after : Device} (asks : request.write = true)
      (done : device.write offset request.data request.select = .ok after) :
      Answers device offset request after ⟨0, false⟩
  | unwritten {error : AccessError} (asks : request.write = true)
      (refused : device.write offset request.data request.select = .error error) :
      Answers device offset request device ⟨0, true⟩
  | read {data : Data} (asks : request.write = false) (done : device.read offset = .ok data) :
      Answers device offset request device ⟨data, false⟩
  | unread {error : AccessError} (asks : request.write = false)
      (refused : device.read offset = .error error) :
      Answers device offset request device ⟨0, true⟩

/-- What becomes of a device and what it answers when it gets requests one by one, each at its
address counted from `base`. -/
inductive AnswersAll (base : Address) : Device → List Request → Device → List Response → Prop
  | nil (device : Device) : AnswersAll base device [] device []
  | cons {device next after : Device} {request : Request} {response : Response}
      {requests : List Request} {responses : List Response}
      (first : device.Answers (request.address - base) request next response)
      (rest : AnswersAll base next requests after responses) :
      AnswersAll base device (request :: requests) after (response :: responses)

theorem answers_iff {device after : Device} {offset : Address} {request : Request}
    {response : Response} :
    device.Answers offset request after response ↔
      device.perform offset request = (after, response) := by
  unfold perform
  constructor
  · rintro (⟨asks, done⟩ | ⟨asks, refused⟩ | ⟨asks, done⟩ | ⟨asks, refused⟩)
    · rw [if_pos asks, done]
      rfl
    · rw [if_pos asks, refused]
      rfl
    · rw [if_neg (by simp [asks]), done]
      rfl
    · rw [if_neg (by simp [asks]), refused]
      rfl
  · intro performed
    by_cases asks : request.write = true
    · rw [if_pos asks] at performed
      split at performed
      · rename_i done
        cases performed
        exact .written asks done
      · rename_i refused
        cases performed
        exact .unwritten asks refused
    · rw [if_neg asks] at performed
      rw [Bool.not_eq_true] at asks
      split at performed
      · rename_i done
        cases performed
        exact .read asks done
      · rename_i refused
        cases performed
        exact .unread asks refused

end Device

def Device.performAll (device : Device) (base : Address) : List Request → Device × List Response
  | [] => (device, [])
  | request :: rest =>
    let (device, response) := device.perform (request.address - base) request
    let (device, responses) := device.performAll base rest
    (device, response :: responses)

theorem Device.performAll_concat (device : Device) (base : Address) (earlier : List Request)
    (request : Request) :
    device.performAll base (earlier ++ [request]) =
      let (before, responses) := device.performAll base earlier
      let (after, response) := before.perform (request.address - base) request
      (after, responses ++ [response]) := by
  induction earlier generalizing device with
  | nil => rfl
  | cons first earlier ih =>
    simp only [List.cons_append, performAll, ih]

theorem Device.answersAll_iff {base : Address} {device after : Device} {requests : List Request}
    {responses : List Response} :
    AnswersAll base device requests after responses ↔
      device.performAll base requests = (after, responses) := by
  induction requests generalizing device responses with
  | nil =>
    constructor
    · rintro ⟨⟩
      rfl
    · rintro ⟨⟩
      exact .nil _
  | cons request requests ih =>
    constructor
    · rintro (_ | ⟨first, rest⟩)
      unfold performAll
      rw [answers_iff.mp first]
      dsimp only
      rw [ih.mp rest]
    · rintro ⟨⟩
      exact .cons (answers_iff.mpr rfl) (ih.mpr rfl)

namespace Fabric

open Crossbar (Consistent Slot Stage)

def forwarded? (fabric : Fabric) (index : Nat) : Option (Nat × Request) := do
  let before ← fabric.afterMasters.slots[index]?
  let after ← fabric.afterCrossbar.slots[index]?
  let lane ← after.phase.lane?
  let request ← before.link.raised? after.link
  return (lane, request)

def performed? (fabric : Fabric) (index : Nat) : Option (Request × Response) := do
  let before ← fabric.afterCrossbar.slots[index]?
  let after ← fabric.tick.crossbar.slots[index]?
  before.link.acknowledged? after.link

/-- The acknowledge that the crossbar gives to the lane for which a slot works. -/
def delivered? (fabric : Fabric) (index : Nat) : Option (Nat × Request × Response) := do
  let slot ← fabric.afterMasters.slots[index]?
  let lane ← slot.phase.lane?
  let before ← fabric.afterMasters.lanes[lane]?
  let after ← fabric.afterCrossbar.lanes[lane]?
  let (request, response) ← before.link.acknowledged? after.link
  return (lane, request, response)

/-- What a cycle shows of a slot. -/
def observe (fabric : Fabric) (index : Nat) : History where
  forwarded := (fabric.forwarded? index).toList
  performed := (fabric.performed? index).toList
  delivered := (fabric.delivered? index).toList

/-- What the cycles among some actions show of a slot. -/
def history (fabric : Fabric) (index : Nat) : List Action → History
  | [] => {}
  | .tick :: rest => (fabric.observe index).append (fabric.tick.history index rest)
  | .pushSplit port op :: rest => (fabric.act (.pushSplit port op)).history index rest
  | .pushSimple port request :: rest => (fabric.act (.pushSimple port request)).history index rest

end Fabric

structure History.Serial (history : History) (start final : Device.Endpoint) : Prop where
  /-- Requests are carried out in the order of their grants, none is left out or repeated. -/
  performed_forwarded : history.performed.map (·.1) <+: history.forwarded.map (·.2)
  /-- Only the latest may still be to come. -/
  forwarded_length : history.forwarded.length ≤ history.performed.length + 1
  /-- Reading and writing the device for these requests alone, one by one, makes of it what it is,
  and nothing else; and so it is with the answers. -/
  answersAll : ∀ device responses,
    Device.AnswersAll start.base start.device (history.performed.map (·.1)) device responses ↔
      device = final.device ∧ responses = history.performed.map (·.2)
  accesses : final.accesses = start.accesses + history.performed.length
  /-- Each lane gets the answer to its own request. -/
  delivered_performed : history.delivered <+: history.forwarded.zipWith
    (fun (lane, request) (_, response) => (lane, request, response)) history.performed
  performed_length : history.performed.length ≤ history.delivered.length + 1

open Crossbar (Candidate Consistent Slot Stage)

/-- A history from jobs done to the end and a stage of the next is in order. -/
theorem History.serial_of {done : List (Nat × Request × Response)} {stage : Stage}
    {start final : Device.Endpoint}
    (performAll : start.device.performAll start.base ((History.of done stage).performed.map (·.1)) =
      (final.device, (History.of done stage).performed.map (·.2)))
    (accesses : final.accesses = start.accesses + (History.of done stage).performed.length) :
    (History.of done stage).Serial start final where
  performed_forwarded := (History.inTurn_of done stage).performed_forwarded
  forwarded_length := (History.inTurn_of done stage).forwarded_length
  answersAll device responses := by
    rw [Device.answersAll_iff, performAll, Prod.mk.injEq, eq_comm, @eq_comm _ _ responses]
  accesses := accesses
  delivered_performed := (History.inTurn_of done stage).delivered_performed
  performed_length := (History.inTurn_of done stage).performed_length

namespace Fabric

section Cycle

variable {fabric : Fabric} {stages : Nat → Stage}

theorem forwarded?_eq (consistent : Consistent fabric.crossbar stages) {index : Nat}
    {slot : Slot SlaveAgent} (found : fabric.crossbar.slots[index]? = some slot) :
    fabric.forwarded? index =
      (fabric.granted? index).map fun candidate => (candidate.lane, candidate.request) :=
  (consistent_afterMasters consistent).forwarded?_tick fabric.cycle found

theorem delivered?_eq (consistent : Consistent fabric.crossbar stages) {index : Nat}
    {slot : Slot SlaveAgent} (found : fabric.crossbar.slots[index]? = some slot) :
    fabric.delivered? index = (stages index).handover? :=
  (consistent_afterMasters consistent).delivered?_tick fabric.cycle found

end Cycle

end Fabric

/-- The device behind an endpoint is what the requests of some jobs, and of the present one if it
is acknowledged, make of it. -/
structure Device.Endpoint.Account (start endpoint : Endpoint)
    (done : List (Nat × Request × Response)) (stage : Stage) : Prop where
  base : endpoint.base = start.base
  performAll : start.device.performAll start.base ((History.of done stage).performed.map (·.1)) =
    (endpoint.device, (History.of done stage).performed.map (·.2))
  accesses : endpoint.accesses = start.accesses + (History.of done stage).performed.length

/-- In a cycle a device leaves its slot as it is, or carries out the request that waits. -/
theorem Device.Endpoint.tick_account {start endpoint : Endpoint}
    {done : List (Nat × Request × Response)} {stage : Stage}
    (account : start.Account endpoint done stage) :
    start.Account (endpoint.tick stage.link).1 done
      (stage.serve (endpoint.tick stage.link).2) := by
  obtain ⟨base, performed, accesses⟩ := account
  cases stage with
  | idle | answered _ _ _ | completing _ _ _ => exact ⟨base, performed, accesses⟩
  | waiting lane request =>
    by_cases waits : endpoint.waited < endpoint.latency
    · have ticked : endpoint.tick (Stage.waiting lane request).link =
          ({ endpoint with waited := endpoint.waited + 1 }, .waiting request) := by
        simp [tick, Stage.link, Link.awaiting?, waits]
      rw [ticked]
      exact ⟨base, performed, accesses⟩
    · have ticked : endpoint.tick (Stage.waiting lane request).link =
          ({ endpoint with
              device := (endpoint.device.perform (request.address - endpoint.base) request).1
              waited := 0
              accesses := endpoint.accesses + 1 },
            .answered request
              (endpoint.device.perform (request.address - endpoint.base) request).2) := by
        simp [tick, Stage.link, Link.awaiting?, waits, Link.acknowledge, Link.acknowledge?]
      rw [ticked]
      simp only [History.of, Stage.reply?, Option.toList_none, List.append_nil]
        at performed accesses
      refine ⟨base, ?_, ?_⟩
      · simp only [Stage.serve, History.of, Stage.reply?, Option.toList_some, List.map_append,
          List.map_cons, List.map_nil, performAll_concat, performed, base]
      · simp only [Stage.serve, History.of, Stage.reply?, Option.toList_some, List.length_append,
          List.length_cons, List.length_nil, accesses]
        omega

namespace Fabric

/-- A slot of the fabric has a device that has carried out the requests of some jobs. -/
structure Account (fabric : Fabric) (index : Nat) (start : Device.Endpoint)
    (stages : Nat → Stage) (done : List (Nat × Request × Response)) : Prop where
  consistent : Consistent fabric.crossbar stages
  device : ∃ slot endpoint, fabric.crossbar.slots[index]? = some slot ∧
    slot.agent = .device endpoint ∧ start.Account endpoint done (stages index)

theorem Account.tick {fabric : Fabric} {stages : Nat → Stage} {index : Nat}
    {start : Device.Endpoint} {done : List (Nat × Request × Response)}
    (account : Account fabric index start stages done) :
    ∃ stages' done', Account fabric.tick index start stages' done' ∧
      (History.of done (stages index)).append (fabric.observe index) =
        History.of done' (stages' index) := by
  obtain ⟨consistent, slot, endpoint, found, agent, settled⟩ := account
  obtain ⟨middle, at_, device⟩ : ∃ middle, fabric.afterCrossbar.slots[index]? = some middle ∧
      middle.agent = .device endpoint := by
    refine ⟨slot.moveOn.grant (fabric.granted? index), ?_, ?_⟩
    · rw [afterCrossbar, Crossbar.tick_slots,
        show fabric.afterMasters.slots[index]? = some slot from found]
      rfl
    · rw [Slot.grant_agent, Slot.moveOn_agent, agent]
  have free (granted : fabric.granted? index ≠ none) : (stages index).moveOn = .idle :=
    (consistent_afterMasters consistent).free_of_granted? granted
  have link := ((consistent_afterCrossbar consistent).stands at_).link
  have ticked : (tickSlot fabric.cycle middle).1 =
      { middle with agent := .device (endpoint.tick middle.link).1
                    link := (endpoint.tick middle.link).2 } := by
    simp only [tickSlot, device]
  have final : fabric.tick.crossbar.slots[index]? = some (tickSlot fabric.cycle middle).1 := by
    rw [tick_crossbar]
    simp [at_]
  have performed : fabric.performed? index =
      middle.link.acknowledged? (endpoint.tick middle.link).2 := by
    simp [performed?, at_, final, ticked]
  rw [link] at ticked performed
  -- The crossbar's part of the cycle, and then the device's.
  have recorded := History.of_next done (stages index) (fabric.granted? index) free
  have between : start.Account endpoint (done ++ (stages index).handover?.toList)
      ((stages index).next (fabric.granted? index)) := by
    obtain ⟨base, performAll, accesses⟩ := settled
    exact ⟨base, by rw [History.of_next_performed _ _ _ free]; exact performAll,
      by rw [History.of_next_performed _ _ _ free]; exact accesses⟩
  have served := Device.Endpoint.tick_account between
  have seen := History.of_serve (done ++ (stages index).handover?.toList)
    ((stages index).next (fabric.granted? index)) (endpoint.tick_mayAcknowledge _)
  refine ⟨_, done ++ (stages index).handover?.toList, ⟨consistent_tick consistent, _, _, final,
    by rw [ticked], ?_⟩, ?_⟩
  · simpa [at_, ticked] using served
  · simp only [at_, ticked, Option.elim_some]
    rw [← seen, ← recorded, ← performed]
    simp [History.append, observe, forwarded?_eq consistent found, delivered?_eq consistent found]

theorem history_tick (fabric : Fabric) (index : Nat) (rest : List Action) :
    fabric.history index (.tick :: rest) =
      (fabric.observe index).append (fabric.tick.history index rest) := rfl

theorem history_push (fabric : Fabric) (index : Nat) {action : Action} (push : action ≠ .tick)
    (rest : List Action) :
    fabric.history index (action :: rest) = (fabric.act action).history index rest := by
  cases action with
  | tick => exact absurd rfl push
  | pushSplit _ _ | pushSimple _ _ => rfl

theorem Account.push {fabric : Fabric} {stages : Nat → Stage} {index : Nat}
    {start : Device.Endpoint} {done : List (Nat × Request × Response)} {action : Action}
    (account : Account fabric index start stages done) (push : action ≠ .tick) :
    Account (fabric.act action) index start stages done := by
  refine ⟨consistent_push push account.consistent, ?_⟩
  obtain ⟨change, _, pushed⟩ := fabric.act_push push
  rw [pushed]
  exact account.device

theorem Account.play {fabric : Fabric} {stages : Nat → Stage} {index : Nat}
    {start : Device.Endpoint} {done : List (Nat × Request × Response)}
    (account : Account fabric index start stages done) (actions : List Action) :
    ∃ stages' done', Account (fabric.play actions) index start stages' done' ∧
      (History.of done (stages index)).append (fabric.history index actions) =
        History.of done' (stages' index) := by
  induction actions generalizing fabric stages done with
  | nil => exact ⟨stages, done, account, by simp [History.append, history]⟩
  | cons action rest ih =>
    by_cases push : action = .tick
    · subst push
      obtain ⟨_, _, ticked, seen⟩ := account.tick
      obtain ⟨_, _, final, later⟩ := ih ticked
      refine ⟨_, _, final, ?_⟩
      rw [← later, ← seen, history_tick]
      simp [History.append]
    · rw [history_push fabric index push]
      exact ih (account.push push)

/-- Each device of a fabric carries out the requests granted to it one by one, in the order of their
grants, whatever is pushed and however many cycles pass; each answer goes to the lane that asked. -/
theorem devices_run_serially {config : Config} {fabric : Fabric} (built : build config = .ok fabric)
    (actions : List Action) {index : Nat} {slot : Slot SlaveAgent} {start : Device.Endpoint}
    (found : fabric.crossbar.slots[index]? = some slot) (agent : slot.agent = .device start) :
    ∃ after endpoint, (fabric.play actions).crossbar.slots[index]? = some after ∧
      after.agent = .device endpoint ∧ (fabric.history index actions).Serial start endpoint := by
  have account : Account fabric index start (fun _ => .idle) [] :=
    ⟨consistent_build built, slot, start, found, agent, rfl, rfl, rfl⟩
  obtain ⟨stages, done, ⟨_, after, endpoint, at_, device, settled⟩, seen⟩ := account.play actions
  have history : fabric.history index actions = History.of done (stages index) := by
    rw [← seen]
    simp [History.append, History.of, Stage.job?, Stage.reply?]
  refine ⟨after, endpoint, at_, device, ?_⟩
  rw [history]
  exact History.serial_of settled.performAll settled.accesses

/-- One simple-bus master beside one memory of 4 KiB. -/
def pairConfig : Config where
  ports :=
    [{ id := ⟨1⟩, name := "core", protocol := .simpleSync, role := .master, dataWidth := 32,
       addressWidth := 30 },
     { id := ⟨2⟩, name := "sram", protocol := .simpleSync, role := .slave, dataWidth := 32,
       addressWidth := 30, base := some 0x1000, size := some 0x1000 }]

/-- A memory that is written and then read gives back what was written. -/
theorem sram_runs_serially :
    let actions : List Action := [.pushSimple ⟨1⟩ ⟨0x1004, 0xAB, 1, true⟩,
      .pushSimple ⟨1⟩ (.read 0x1004 1)] ++ List.replicate 8 .tick
    ∃ fabric slot start, build pairConfig = .ok fabric ∧
      fabric.crossbar.slots[0]? = some slot ∧ slot.agent = .device start ∧
      ∃ after endpoint, (fabric.play actions).crossbar.slots[0]? = some after ∧
        after.agent = .device endpoint ∧ (fabric.history 0 actions).Serial start endpoint ∧
        (fabric.history 0 actions).delivered =
          [(0, ⟨0x1004, 0xAB, 1, true⟩, ⟨0, false⟩), (0, .read 0x1004 1, ⟨0xAB, false⟩)] := by
  intro actions
  have built : build pairConfig = .ok _ := rfl
  refine ⟨_, _, _, built, rfl, rfl, ?_⟩
  obtain ⟨after, endpoint, found, agent, serial⟩ :=
    @devices_run_serially _ _ built actions 0 _ _ rfl rfl
  exact ⟨after, endpoint, found, agent, serial, rfl⟩

end Fabric

end BusFabric
