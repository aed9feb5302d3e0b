import BusFabric.Proofs.Fabric.Routing
import BusFabric.Proofs.Fabric.Store
import BusFabric.Proofs.Fabric.Untimed

set_option autoImplicit false

namespace BusFabric.Fabric

open Bridge (Carrier Conversion Outbound)
open Crossbar (Candidate Engaged Slot Stage)
open Device (Endpoint)
open Simple (Request Response)
open Split (Progress Ram WriteBeat)

inductive SlaveAgent.IsReady : SlaveAgent → Prop
  | split {bridge : Outbound} {ram : Ram} (regular : bridge.conversion.IsRegular)
      (running : bridge.isHalted = false) (idle : bridge.active = none) (rest : ram.IsAtRest) :
      IsReady (.split bridge {} ram)
  | device (endpoint : Endpoint) : IsReady (.device endpoint)

/-- The slave acknowledges the request in the end, and is at rest then. So does `prompt`, the same
slave without its waits, in the same way. -/
def WillAnswer (request : Request) (slot prompt : Slot SlaveAgent) : Prop :=
  ∃ response count after fewer last, Serves request response slot count after ∧
    after.agent.IsReady ∧ Serves request response prompt fewer last ∧
    last.agent = after.agent.untimed

namespace WillAnswer

variable {request : Request} {slot after prompt last : Slot SlaveAgent}

theorem now (waits : slot.link = .waiting request) {response : Response}
    (ticks : ∀ cycle, tickSlot cycle slot = (after, none))
    (answered : after.link = .answered request response) (ready : after.agent.IsReady)
    (waits' : prompt.link = .waiting request)
    (ticks' : ∀ cycle, tickSlot cycle prompt = (last, none))
    (answered' : last.link = .answered request response)
    (same : last.agent = after.agent.untimed) : WillAnswer request slot prompt :=
  ⟨response, 0, after, 0, last, .answers waits ticks answered, ready,
    .answers waits' ticks' answered', same⟩

theorem later (waits : slot.link = .waiting request) {next : Slot SlaveAgent}
    (ticks : ∀ cycle, tickSlot cycle slot = (next, none))
    (waits' : prompt.link = .waiting request) {going : Slot SlaveAgent}
    (ticks' : ∀ cycle, tickSlot cycle prompt = (going, none))
    (rest : WillAnswer request next going) : WillAnswer request slot prompt := by
  obtain ⟨response, count, after, fewer, last, serves, ready, serves', same⟩ := rest
  exact ⟨response, count + 1, after, fewer + 1, last, .waits waits ticks serves, ready,
    .waits waits' ticks' serves', same⟩

/-- A cycle that the slave without waits does not spend. -/
theorem delayed (waits : slot.link = .waiting request) {next : Slot SlaveAgent}
    (ticks : ∀ cycle, tickSlot cycle slot = (next, none)) (rest : WillAnswer request next prompt) :
    WillAnswer request slot prompt := by
  obtain ⟨response, count, after, fewer, last, serves, ready, serves', same⟩ := rest
  exact ⟨response, count + 1, after, fewer, last, .waits waits ticks serves, ready, serves', same⟩

end WillAnswer

section

variable {bridge : Outbound} {ram : Ram} {slot prompt : Slot SlaveAgent} {request : Request}
  {carrier : Carrier} {progress : Progress}

/-- A write is carried through once a beat of it is stored: `left` is what the bridge has still to
send. -/
theorem write_answers {left : List WriteBeat} {beat : WriteBeat}
    (agent : slot.agent = .split bridge (Ram.storedLink progress) (ram.stored progress beat))
    (waits : slot.link = .waiting request)
    (agent' : prompt.agent =
      .split bridge (Ram.storedLink progress) (ram.untimed.stored progress beat))
    (waits' : prompt.link = .waiting request) (regular : bridge.conversion.IsRegular)
    (running : bridge.isHalted = false) (active : bridge.active = some carrier)
    (write : carrier.write = true) (sent : carrier.addressSent = true)
    (unsent : carrier.beats = left)
    (all : progress.beat + 1 + left.length = progress.burst.beats) (owed : ram.owed = none)
    (read : ram.read = none) : WillAnswer request slot prompt := by
  induction left generalizing bridge carrier ram progress beat slot prompt with
  | nil =>
    have last : progress.beat + 1 = progress.burst.beats := all
    have answer : Ram.storedLink progress =
        { writeResponse := ⟨some ⟨progress.burst.id, .okay⟩⟩ } := if_pos last
    have rest : (ram.stored progress beat).IsAtRest := ⟨if_pos last, owed, read⟩
    have rest' : (ram.untimed.stored progress beat).IsAtRest := ⟨if_pos last, owed, read⟩
    rw [answer] at agent agent'
    have ends := @Outbound.Junction.tick_write_end bridge carrier request running active write sent
      unsent ⟨progress.burst.id, .okay⟩
    obtain ⟨after, rests, answered, ticks⟩ := tickSlot_split agent waits ends (Ram.tick_rest rest)
    obtain ⟨final, rests', answered', ticks'⟩ :=
      tickSlot_split agent' waits' ends (Ram.tick_rest rest')
    refine .now waits ticks answered ?_ waits' ticks' answered' ?_
    · rw [rests]
      exact .split regular running rfl ⟨rest.write, rest.owed, rest.read⟩
    · rw [rests, rests']
      rfl
  | cons next left ih =>
    rw [List.length_cons] at all
    have more : progress.beat + 1 ≠ progress.burst.beats := by omega
    have quiet : Ram.storedLink progress = {} := if_neg more
    have goesOn : (ram.stored progress beat).write =
        some { progress with beat := progress.beat + 1 } := if_neg more
    have goesOn' : (ram.untimed.stored progress beat).write =
        some { progress with beat := progress.beat + 1 } := if_neg more
    rw [quiet] at agent agent'
    have sends := @Outbound.Junction.tick_write_next bridge carrier request running active write
      sent next left unsent
    obtain ⟨following, goes, held, ticks⟩ := tickSlot_split agent waits sends
      (Ram.tick_write_next goesOn owed read next)
    obtain ⟨going, goes', held', ticks'⟩ := tickSlot_split agent' waits' sends
      (Ram.tick_write_next goesOn' owed read next)
    exact .later waits ticks waits' ticks'
      (ih goes held goes' held' regular running rfl write sent rfl (by dsimp only; omega) owed read)

/-- A read is carried through: the memory is at a beat that has waited for `waited` cycles. The
memory that does not wait has driven it. -/
theorem read_answers {waited : Nat}
    (agent : slot.agent =
      .split bridge (ram.driven progress waited).2 (ram.driven progress waited).1)
    (waits : slot.link = .waiting request)
    (agent' : prompt.agent =
      .split bridge (ram.untimed.driven progress 0).2 (ram.untimed.driven progress 0).1)
    (waits' : prompt.link = .waiting request) (regular : bridge.conversion.IsRegular)
    (running : bridge.isHalted = false) (active : bridge.active = some carrier)
    (read : carrier.write = false) (sent : carrier.addressSent = true)
    (burst : carrier.burst = progress.burst) (got : carrier.received = progress.beat)
    (more : progress.beat < progress.burst.beats) (write : ram.write = none)
    (owed : ram.owed = none) : WillAnswer request slot prompt := by
  induction left : (progress.burst.beats - progress.beat) * (ram.latency + 1) +
      (ram.latency - waited) using Nat.strongRecOn
    generalizing bridge carrier ram progress waited slot prompt with
  | ind measure ih =>
    unfold Ram.driven at agent
    by_cases wait : waited < ram.latency
    · -- the memory lets the beat wait
      rw [if_pos wait] at agent
      obtain ⟨following, goes, held, ticks⟩ := tickSlot_split agent waits
        (Outbound.Junction.tick_read_wait running active read sent)
        (Ram.tick_read_next write owed rfl)
      have fewer : (progress.burst.beats - progress.beat) * (ram.latency + 1) +
          (ram.latency - (waited + 1)) < measure := by omega
      exact .delayed waits ticks
        (ih _ fewer goes held agent' waits' regular running active read sent burst got more write
          owed rfl)
    · rw [if_neg wait] at agent
      have due : ¬ 0 < ram.untimed.latency := Nat.lt_irrefl 0
      rw [Ram.driven, if_neg due] at agent'
      by_cases last : progress.beat + 1 = progress.burst.beats
      · rw [if_pos last] at agent agent'
        have ends := @Outbound.Junction.tick_read_end bridge carrier request running active read
          sent (ram.readBeat progress) (by rw [got, burst, last]) (decide_eq_true last)
        obtain ⟨after, rests, answered, ticks⟩ := tickSlot_split agent waits ends
          (Ram.tick_rest ⟨write, owed, rfl⟩)
        obtain ⟨final, rests', answered', ticks'⟩ := tickSlot_split agent' waits' ends
          (Ram.tick_rest ⟨write, owed, rfl⟩)
        refine .now waits ticks answered ?_ waits' ticks' answered' ?_
        · rw [rests]
          exact .split regular running rfl ⟨write, owed, rfl⟩
        · rw [rests, rests']
          rfl
      · rw [if_neg last] at agent agent'
        have takes := @Outbound.Junction.tick_read_next bridge carrier request running active read
          sent (ram.readBeat progress) (by rw [got, burst]; omega) (decide_eq_false last)
        obtain ⟨following, goes, held, ticks⟩ := tickSlot_split agent waits takes
          (Ram.tick_read_next write owed rfl)
        obtain ⟨going, goes', held', ticks'⟩ := tickSlot_split agent' waits' takes
          (Ram.tick_read_next write owed rfl)
        have fewer : (progress.burst.beats - (progress.beat + 1)) * (ram.latency + 1) +
            (ram.latency - 0) < measure := by
          have step : progress.burst.beats - progress.beat =
              progress.burst.beats - (progress.beat + 1) + 1 := by omega
          rw [step, Nat.add_mul, Nat.one_mul] at left
          omega
        exact .later waits ticks waits' ticks'
          (ih _ fewer goes held goes' held' regular running rfl read sent burst
            (congrArg (· + 1) got) (by dsimp only; omega) write owed rfl)

theorem device_due {endpoint : Endpoint} (due : ¬ endpoint.waited < endpoint.latency) :
    endpoint.tick (.waiting request) =
      ({ endpoint with
          device := (endpoint.device.perform (request.address - endpoint.base) request).1
          waited := 0
          accesses := endpoint.accesses + 1 },
        .answered request
          (endpoint.device.perform (request.address - endpoint.base) request).2) := by
  simp only [Endpoint.tick, Simple.Link.awaiting?, if_neg due]
  rfl

theorem device_answers {endpoint : Endpoint} (agent : slot.agent = .device endpoint)
    (waits : slot.link = .waiting request) (agent' : prompt.agent = .device endpoint.untimed)
    (waits' : prompt.link = .waiting request) : WillAnswer request slot prompt := by
  induction left : endpoint.latency - endpoint.waited generalizing endpoint slot with
  | zero =>
    have due : ¬ endpoint.waited < endpoint.latency := by omega
    obtain ⟨after, rests, answered, moves⟩ := tickSlot_device agent waits (device_due due)
    obtain ⟨last, rests', answered', moves'⟩ :=
      tickSlot_device agent' waits' (device_due (Nat.lt_irrefl 0))
    refine .now waits moves answered ?_ waits' moves' answered' ?_
    · rw [rests]
      exact .device _
    · rw [rests, rests']
      rfl
  | succ left ih =>
    have early : endpoint.waited < endpoint.latency := by omega
    have ticks : endpoint.tick (.waiting request) =
        ({ endpoint with waited := endpoint.waited + 1 }, .waiting request) := by
      simp only [Endpoint.tick, Simple.Link.awaiting?, if_pos early]
    obtain ⟨following, goes, held, moves⟩ := tickSlot_device agent waits ticks
    exact .delayed waits moves (ih goes held agent' (by dsimp only; omega))

theorem SlaveAgent.IsReady.answers (ready : slot.agent.IsReady)
    (waits : slot.link = .waiting request) (agent' : prompt.agent = slot.agent.untimed)
    (waits' : prompt.link = .waiting request) : WillAnswer request slot prompt := by
  generalize held : slot.agent = agent at ready agent'
  cases ready with
  | device endpoint => exact device_answers held waits agent' waits'
  | @split bridge ram regular running idle rest =>
    have many := Outbound.beats_plan bridge regular request
    have direction : (bridge.plan request).write = request.write := rfl
    have rest' : ram.untimed.IsAtRest := ⟨rest.write, rest.owed, rest.read⟩
    cases write : request.write with
    | false =>
      have begins := @Outbound.Junction.tick_read_begin bridge request running idle
        (direction.trans write) rfl
      obtain ⟨following, goes, link, ticks⟩ := tickSlot_split held waits begins
        (Ram.tick_read_begin rest)
      obtain ⟨going, goes', link', ticks'⟩ := tickSlot_split agent' waits' begins
        (Ram.tick_read_begin rest')
      exact .later waits ticks waits' ticks'
        (read_answers goes link goes' link' regular running rfl (direction.trans write) rfl rfl rfl
          (Nat.succ_pos _) rest.write rest.owed)
    | true =>
      rw [if_pos write] at many
      cases unsent : (bridge.plan request).beats with
      | nil =>
        rw [unsent] at many
        cases many
      | cons first left =>
        have begins := @Outbound.Junction.tick_write_begin bridge request running idle
          (direction.trans write) rfl first left unsent
        obtain ⟨following, goes, link, ticks⟩ := tickSlot_split held waits begins
          (Ram.tick_write_begin rest first)
        obtain ⟨going, goes', link', ticks'⟩ := tickSlot_split agent' waits' begins
          (Ram.tick_write_begin rest' first)
        rw [unsent, List.length_cons] at many
        exact .later waits ticks waits' ticks'
          (write_answers goes link goes' link' regular running rfl (direction.trans write) rfl rfl
            (by dsimp only; omega) rest.owed rest.read)

/-- Without a request, a slave at rest stays at rest. -/
theorem SlaveAgent.IsReady.rests (ready : slot.agent.IsReady)
    (settled : slot.link.awaiting? = none) :
    ∃ following : Slot SlaveAgent, following.link = slot.link ∧ following.agent.IsReady ∧
      ∀ cycle, tickSlot cycle slot = (following, none) := by
  generalize held : slot.agent = agent at ready
  cases ready with
  | device endpoint =>
    have ticks : endpoint.tick slot.link = (endpoint, slot.link) := by
      unfold Endpoint.tick
      rw [settled]
    obtain ⟨following, goes, link, moves⟩ := tickSlot_device held rfl ticks
    refine ⟨following, link, ?_, moves⟩
    rw [goes]
    exact .device endpoint
  | @split bridge ram regular running idle rest =>
    obtain ⟨following, goes, link, ticks⟩ := tickSlot_split held rfl
      (Outbound.Junction.tick_rest running idle settled) (Ram.tick_rest rest)
    refine ⟨following, link, ?_, ticks⟩
    rw [goes]
    exact .split regular running idle ⟨rest.write, rest.owed, rest.read⟩

end

/-- A slave is at rest, or it acknowledges its request after `left` more cycles. -/
inductive Attends : Slot SlaveAgent → Nat → Prop
  | rests {slot : Slot SlaveAgent} (ready : slot.agent.IsReady)
      (settled : slot.link.awaiting? = none) : Attends slot 0
  | serves {slot after : Slot SlaveAgent} {request : Request} {response : Response} {count : Nat}
      (serves : Serves request response slot count after) (ready : after.agent.IsReady) :
      Attends slot (count + 1)

namespace Attends

variable {slot : Slot SlaveAgent} {left : Nat}

theorem of_ready (ready : slot.agent.IsReady) : ∃ left, Attends slot left := by
  cases waits : slot.link with
  | idle | answered _ _ => exact ⟨0, .rests ready (by rw [waits]; rfl)⟩
  | waiting request =>
    obtain ⟨_, count, _, _, _, serves, rest, _⟩ :=
      @SlaveAgent.IsReady.answers slot (untimedSlot slot) request ready waits rfl waits
    exact ⟨count + 1, .serves serves rest⟩

theorem ready (attends : Attends slot left) (settled : slot.link.awaiting? = none) :
    slot.agent.IsReady ∧ left = 0 := by
  cases attends with
  | rests ready _ => exact ⟨ready, rfl⟩
  | serves serves _ =>
    rw [serves.waiting] at settled
    cases settled

theorem pos (attends : Attends slot left) {request : Request}
    (waits : slot.link = .waiting request) : 0 < left := by
  cases attends with
  | rests _ settled =>
    rw [waits] at settled
    cases settled
  | serves _ _ => exact Nat.succ_pos _

/-- A cycle brings a slave closer to its acknowledge, and no fault comes of it. -/
theorem tick (attends : Attends slot left) (cycle : Nat) :
    Attends (tickSlot cycle slot).1 (left - 1) ∧ (tickSlot cycle slot).2 = none := by
  cases attends with
  | rests ready settled =>
    obtain ⟨following, link, rests, ticks⟩ := ready.rests settled
    rw [ticks]
    exact ⟨.rests rests (by rw [link]; exact settled), rfl⟩
  | serves serves ready =>
    cases serves with
    | answers _ ticks answered =>
      rw [ticks]
      exact ⟨.rests ready (by rw [answered]; rfl), rfl⟩
    | waits _ ticks rest =>
      rw [ticks]
      exact ⟨.serves rest ready, rfl⟩

end Attends

namespace Attends

variable {slot : Slot SlaveAgent} {stage : Stage} {left : Nat}

/-- Moving a slot on does not touch its slave. -/
theorem moveOn (attends : Attends slot left) (stands : slot.Stands stage) :
    Attends slot.moveOn left := by
  cases stage with
  | waiting lane request =>
    have same : slot.moveOn = slot := by
      simp [Slot.moveOn, stands.phase, stands.link, Stage.phase, Stage.link,
        Simple.Link.response?]
    rwa [same]
  | idle | answered _ _ _ | completing _ _ _ =>
    obtain ⟨ready, rfl⟩ := attends.ready (by rw [stands.link]; rfl)
    refine .rests (by rwa [Slot.moveOn_agent]) ?_
    rw [stands.moveOn.link]
    rfl

/-- A slave at rest takes up what it is granted. -/
theorem grant (attends : Attends slot left) {choice : Option Candidate}
    (free : choice ≠ none → slot.link = .idle) :
    ∃ more, Attends (slot.grant choice) more ∧ (choice = none → more = left) := by
  cases choice with
  | none => exact ⟨left, attends, fun _ => rfl⟩
  | some candidate =>
    have idle := free (Option.some_ne_none candidate)
    obtain ⟨ready, _⟩ := attends.ready (by rw [idle]; rfl)
    have granted : (slot.grant (some candidate)).agent.IsReady := ready
    obtain ⟨more, serves⟩ := of_ready granted
    exact ⟨more, serves, nofun⟩

end Attends

/-- Slots at these stages, whose slaves take so many more cycles each. -/
structure Attended (fabric : Fabric) (stages : Nat → Stage) (left : Nat → Nat) : Prop
    extends Engaged fabric.crossbar stages where
  attends : ∀ {index : Nat} {slot : Slot SlaveAgent}, fabric.crossbar.slots[index]? = some slot →
    Attends slot (left index)

namespace Attended

variable {config : Config} {fabric : Fabric} {stages : Nat → Stage} {left : Nat → Nat}

/-- What the slaves find when the crossbar has moved. -/
theorem afterCrossbar (attended : Attended fabric stages left) (index : Nat) :
    ∃ more, (∀ slot, fabric.afterCrossbar.slots[index]? = some slot → Attends slot more) ∧
      (fabric.granted? index = none → more = left index) := by
  cases found : fabric.crossbar.slots[index]? with
  | none =>
    refine ⟨left index, fun slot at_ => ?_, fun _ => rfl⟩
    have slots := fabric.afterMasters.tick_slots fabric.cycle index
    rw [show fabric.afterMasters.slots[index]? = none from found] at slots
    cases at_.symm.trans slots
  | some slot =>
    have stands := (attended.stands found).moveOn
    have free : fabric.granted? index ≠ none → slot.moveOn.link = .idle := by
      intro granted
      rw [stands.link,
        (engaged_afterMasters attended.toEngaged).toConsistent.free_of_granted? granted]
      rfl
    obtain ⟨more, serves, same⟩ :=
      ((attended.attends found).moveOn (attended.stands found)).grant free
    refine ⟨more, fun after at_ => ?_, same⟩
    have slots := fabric.afterMasters.tick_slots fabric.cycle index
    rw [show fabric.afterMasters.slots[index]? = some slot from found] at slots
    cases at_.symm.trans slots
    exact serves

/-- Slaves that are not granted anything come a cycle closer to their acknowledges. -/
theorem tick (attended : Attended fabric stages left) :
    ∃ after, Attended fabric.tick (fabric.nextStages stages) after ∧
      ∀ index, fabric.granted? index = none → after index = left index - 1 := by
  obtain ⟨more, moved⟩ := Classical.axiomOfChoice attended.afterCrossbar
  refine ⟨fun index => more index - 1, ⟨engaged_tick attended.toEngaged, ?_⟩, ?_⟩
  · intro index slot found
    rw [tick_crossbar, List.getElem?_map, Option.map_eq_some_iff] at found
    obtain ⟨before, at_, rfl⟩ := found
    exact (((moved index).1 before at_).tick fabric.cycle).1
  · intro index none_
    dsimp only
    rw [(moved index).2 none_]

/-- No slave sees a fault. -/
theorem faultless (attended : Attended fabric stages left) :
    ∀ slot ∈ fabric.afterCrossbar.slots, (tickSlot fabric.cycle slot).2 = none := by
  intro slot member
  obtain ⟨index, at_⟩ := List.mem_iff_getElem?.mp member
  obtain ⟨_, serves, _⟩ := attended.afterCrossbar index
  exact ((serves slot at_).tick fabric.cycle).2

theorem push (attended : Attended fabric stages left) {action : Action} (push : action ≠ .tick) :
    Attended (fabric.act action) stages left := by
  obtain ⟨change, _, pushed⟩ := fabric.act_push push
  rw [pushed]
  exact ⟨attended.exchangeLanes (fun _ => List.getElem?_map) (fun _ _ => rfl)
    (fun _ lane => Simple.Link.Keeps.refl lane.link), attended.attends⟩

theorem act (attended : Attended fabric stages left) (action : Action) :
    ∃ next after, Attended (fabric.act action) next after := by
  by_cases pushed : action = .tick
  · subst pushed
    obtain ⟨after, moved, _⟩ := attended.tick
    exact ⟨_, after, moved⟩
  · exact ⟨stages, left, attended.push pushed⟩

end Attended

theorem slaveAgent_isReady {config : Config} {port : Port} {agent : SlaveAgent}
    (made : slaveAgent port config = .ok agent) : agent.IsReady := by
  unfold slaveAgent at made
  dsimp only at made
  split at made
  · split at made
    · cases made
    · rw [← Except.ok.inj made]
      exact .device _
  · cases converts : Conversion.between .simpleSync config.width port.protocol port.dataWidth with
    | error error =>
      rw [converts] at made
      cases made
    | ok conversion =>
      rw [converts] at made
      rw [← Except.ok.inj made]
      exact .split (Conversion.isRegular_of_between converts) rfl rfl ⟨rfl, rfl, rfl⟩

theorem Parts.slaves_add {config : Config} {property : SlaveAgent → Prop}
    (plain : ∀ {port : Port} {agent : SlaveAgent}, slaveAgent port config = .ok agent →
      property agent) {parts after : Parts} {port : Port}
    (holds : ∀ slave ∈ parts.slaves, property slave.2)
    (added : parts.add config port = .ok after) : ∀ slave ∈ after.slaves, property slave.2 := by
  rcases add_cases added with ⟨_, _, _, rfl⟩ | ⟨_, _, rfl⟩ | ⟨_, agent, _, _, _, made, rfl⟩
  · exact holds
  · exact holds
  · intro slave member
    rcases List.mem_append.mp member with old | new
    · exact holds slave old
    · rw [List.mem_singleton.mp new]
      exact plain made

/-- What holds of every agent that is made for a slave port or for the register bus holds of every
slave of a new fabric. -/
theorem slots_build {config : Config} {fabric : Fabric} (property : SlaveAgent → Prop)
    (plain : ∀ {port : Port} {agent : SlaveAgent}, slaveAgent port config = .ok agent →
      property agent)
    (banks : ∀ registers, property (registerAgent config registers))
    (built : build config = .ok fabric) : ∀ slot ∈ fabric.crossbar.slots, property slot.agent := by
  obtain ⟨first, parts, layout, folded, banked, rfl⟩ := build_parts built
  have ports : ∀ slave ∈ first.slaves, property slave.2 :=
    @Parts.foldlM_induction config (fun parts _ => ∀ slave ∈ parts.slaves, property slave.2)
      (Parts.slaves_add plain) {} first [] _ (by simp) folded
  intro slot member
  obtain ⟨slave, listed, rfl⟩ := List.mem_map.mp member
  cases carried : first.registerBus with
  | none =>
    obtain ⟨rfl, _⟩ := addBanks_none carried banked
    exact ports slave listed
  | some bus =>
    obtain ⟨_, _, _, _, _, _, _, _, slaves⟩ := addBanks_some carried banked
    rw [slaves] at listed
    rcases List.mem_append.mp listed with old | new
    · exact ports slave old
    · rw [List.mem_singleton.mp new]
      exact banks _

def Parts.Lists (parts : Parts) (ports : List Port) : Prop :=
  parts.masters.map (·.1) = (ports.filter (·.role = .master)).map (·.id)

namespace Parts.Lists

variable {config : Config} {parts after : Parts} {ports : List Port} {port : Port}

theorem add (lists : parts.Lists ports) (added : parts.add config port = .ok after) :
    after.Lists (ports ++ [port]) := by
  have masters (answers : port.role = .slave) : parts.Lists (ports ++ [port]) := by
    unfold Parts.Lists at lists ⊢
    rw [lists, List.filter_append]
    simp [answers]
  rcases add_cases added with ⟨agent, asks, _, rfl⟩ | ⟨answers, _, rfl⟩ |
    ⟨map, agent, answers, _, _, built, rfl⟩
  · unfold Parts.Lists at lists ⊢
    rw [List.map_append, lists, List.filter_append, List.map_append]
    simp [asks]
  · exact masters answers
  · exact masters answers

theorem foldlM {rest : List Port} (lists : parts.Lists ports)
    (folded : rest.foldlM (fun parts port => parts.add config port) parts = .ok after) :
    after.Lists (ports ++ rest) :=
  Parts.foldlM_induction (fun parts ports => parts.Lists ports) (fun holds added => holds.add added)
    lists folded

end Parts.Lists

theorem perm_insertByNumber (port : Port) (ports : List Port) :
    (insertByNumber port ports).Perm (port :: ports) := by
  induction ports with
  | nil => exact .refl _
  | cons next rest ih =>
    unfold insertByNumber
    split
    · exact .refl _
    · exact (ih.cons next).trans (.swap port next rest)

theorem perm_sortByNumber (ports : List Port) : (sortByNumber ports).Perm ports := by
  induction ports with
  | nil => exact .refl _
  | cons port rest ih => exact (perm_insertByNumber port _).trans (ih.cons port)

structure Staffed (config : Config) (fabric : Fabric) : Prop where
  lanes : (fabric.crossbar.lanes.map (·.port)).Nodup
  masters : ∀ lane ∈ fabric.crossbar.lanes,
    ∃ port ∈ config.ports, port.role = .master ∧ port.id = lane.port

theorem lane_ports_build {config : Config} {fabric : Fabric} (built : build config = .ok fabric) :
    fabric.crossbar.lanes.map (·.port) =
      ((sortByNumber config.ports).filter (·.role = .master)).map (·.id) := by
  obtain ⟨first, parts, layout, folded, banked, rfl⟩ := build_parts built
  have ported := Parts.Lists.foldlM (show Parts.Lists {} [] from rfl) folded
  have order := congrArg (List.map Prod.fst)
    (lanes_create parts.map.freeze parts.masters parts.slaves config.tieBreak)
  unfold Parts.Lists at ported
  rw [List.map_map] at order
  rw [List.nil_append] at ported
  rw [← ported, ← (addBanks_cases banked).1]
  exact order

theorem staffed_build {config : Config} {fabric : Fabric} (built : build config = .ok fabric) :
    Staffed config fabric ∧ ∃ left, Attended fabric (fun _ => .idle) left := by
  obtain ⟨_, numbered⟩ := build_checks built
  have ports := lane_ports_build built
  have ready := slots_build SlaveAgent.IsReady slaveAgent_isReady (fun _ => .device _) built
  have sorted : ((sortByNumber config.ports).map (·.id)).Nodup :=
    ((perm_sortByNumber config.ports).map (·.id)).nodup_iff.mpr numbered
  refine ⟨⟨?_, ?_⟩, fun _ => 0, ?_⟩
  · rw [ports]
    exact sorted.sublist (List.Sublist.map Port.id List.filter_sublist)
  · intro lane member
    have listed := List.mem_map_of_mem (f := (·.port)) member
    rw [ports] at listed
    obtain ⟨port, held, id⟩ := List.mem_map.mp listed
    obtain ⟨sorted, asks⟩ := List.mem_filter.mp held
    exact ⟨port, mem_sortByNumber.mp sorted, of_decide_eq_true asks, id⟩
  · obtain ⟨_, parts, _, _, _, rfl⟩ := build_parts built
    refine ⟨Engaged.create parts.map.freeze parts.masters parts.slaves config.tieBreak, ?_⟩
    intro index slot found
    have member := List.mem_of_getElem? found
    obtain ⟨_, _, fresh⟩ := List.mem_map.mp member
    exact .rests (ready slot member) (by rw [← fresh]; rfl)

end BusFabric.Fabric
