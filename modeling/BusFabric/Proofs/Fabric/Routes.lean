import BusFabric.Proofs.Fabric.Forwarding
import BusFabric.Proofs.Fabric.Published

set_option autoImplicit false

namespace BusFabric

namespace Crossbar

structure Frame.Assigns (frame : Frame) : Prop where
  ascending : AddressMap.Ascending frame.map.windows
  owned : ∀ window ∈ frame.map.windows, window.owner ∈ frame.owners
  owners : frame.owners.Nodup

theorem findIdx?_eq_some_iff_of_nodup {owners : List PortId} (apart : owners.Nodup) {owner : PortId}
    {index : Nat} : owners.findIdx? (· = owner) = some index ↔ owners[index]? = some owner := by
  rw [List.findIdx?_eq_some_iff_getElem, List.getElem?_eq_some_iff]
  constructor
  · rintro ⟨within, owns, _⟩
    exact ⟨within, by simpa using owns⟩
  · rintro ⟨within, owns⟩
    refine ⟨within, by simpa using owns, ?_⟩
    intro other before
    have differs : owners[other] ≠ owners[index] := fun same => by
      have equal := (List.getElem_inj apart).mp same
      omega
    simpa [owns] using differs

section

variable {MasterAgent SlaveAgent : Type} {crossbar : Crossbar MasterAgent SlaveAgent}
  {address : Address} {index : Nat}

def owner? (crossbar : Crossbar MasterAgent SlaveAgent) (index : Nat) : Option PortId :=
  crossbar.slots[index]?.map (·.port)

theorem owner?_eq (crossbar : Crossbar MasterAgent SlaveAgent) (index : Nat) :
    crossbar.owner? index = crossbar.frame.owners[index]? := by
  simp [owner?, frame]

/-- An address is for the slot whose owner has a window around it. -/
theorem Frame.Assigns.target?_eq_some_iff (assigns : crossbar.frame.Assigns) :
    crossbar.target? address = some index ↔ ∃ window ∈ crossbar.map.windows,
      window.contains address = true ∧ crossbar.owner? index = some window.owner := by
  rw [target?_eq, Option.bind_eq_some_iff, owner?_eq]
  constructor
  · rintro ⟨owner, decoded, place⟩
    obtain ⟨window, listed, rfl, holds⟩ :=
      (AddressMap.decode_eq_some_iff assigns.ascending).mp decoded
    exact ⟨window, listed, holds, (findIdx?_eq_some_iff_of_nodup assigns.owners).mp place⟩
  · rintro ⟨window, listed, holds, owns⟩
    refine ⟨window.owner, ?_, (findIdx?_eq_some_iff_of_nodup assigns.owners).mpr owns⟩
    exact (AddressMap.decode_eq_some_iff assigns.ascending).mpr ⟨window, listed, rfl, holds⟩

theorem Frame.Assigns.existsUnique_owner? (assigns : crossbar.frame.Assigns) {window : Window}
    (listed : window ∈ crossbar.map.windows) :
    ∃! index, crossbar.owner? index = some window.owner := by
  simp only [owner?_eq]
  obtain ⟨index, owns⟩ := List.mem_iff_getElem?.mp (assigns.owned window listed)
  refine ⟨index, owns, ?_⟩
  intro other also
  have within := (List.getElem?_eq_some_iff.mp also).1
  exact (List.getElem?_inj within assigns.owners).mp (also.trans owns.symm)

theorem Frame.Assigns.target?_eq_none_iff (assigns : crossbar.frame.Assigns) :
    crossbar.target? address = none ↔
      ∀ window ∈ crossbar.map.windows, window.contains address = false := by
  constructor
  · intro lost window listed
    rw [Bool.eq_false_iff]
    intro holds
    obtain ⟨index, owns, _⟩ := assigns.existsUnique_owner? listed
    have aimed := assigns.target?_eq_some_iff.mpr ⟨window, listed, holds, owns⟩
    rw [lost] at aimed
    cases aimed
  · intro outside
    cases aimed : crossbar.target? address with
    | none => rfl
    | some index =>
      obtain ⟨window, listed, holds, _⟩ := assigns.target?_eq_some_iff.mp aimed
      rw [outside window listed] at holds
      cases holds

end

end Crossbar

namespace Fabric

open Crossbar (Engaged Lane Slot Stage)
open Simple (Link Request Response)

theorem description_act (fabric : Fabric) (action : Action) :
    (fabric.act action).description = fabric.description := by
  by_cases push : action = .tick
  · rw [push]
    unfold description
    rw [map_act]
    rfl
  · obtain ⟨change, _, pushed⟩ := fabric.act_push push
    rw [pushed]
    rfl

theorem description_play (fabric : Fabric) (actions : List Action) :
    (fabric.play actions).description = fabric.description :=
  play_eq_of_act description description_act fabric actions

theorem frame_play (fabric : Fabric) (actions : List Action) :
    (fabric.play actions).crossbar.frame = fabric.crossbar.frame :=
  play_eq_of_act (·.crossbar.frame) frame_act fabric actions

/-- The answer that the crossbar gives in a cycle to the lane at a place. -/
def answered? (fabric : Fabric) (place : Nat) : Option (Request × Response) := do
  let before ← fabric.afterMasters.lanes[place]?
  let after ← fabric.afterCrossbar.lanes[place]?
  before.link.acknowledged? after.link

structure Routes (description : Description) (fabric : Fabric) : Prop where
  same : fabric.description = description
  /-- No address is in two windows. -/
  unique : ∀ window ∈ description.windows, ∀ other ∈ description.windows, ∀ address,
    window.contains address = true → other.contains address = true → window = other
  /-- The slave of a window has one slot. -/
  slot : ∀ window ∈ description.windows,
    ∃! index, fabric.crossbar.owner? index = some window.owner
  /-- A request for a window waits until it is forwarded to the slave of the window. -/
  forwards : ∀ {place index : Nat} {request : Request}, fabric.asks? place = some request →
    ∀ window ∈ description.windows, window.contains request.address = true →
      fabric.crossbar.owner? index = some window.owner →
        ∃ count, (∀ earlier ≤ count, (fabric.ticks earlier).asks? place = some request) ∧
          (fabric.ticks count).forwarded? index = some (place, request)
  /-- Nothing is forwarded to other slaves. -/
  only : ∀ {place index : Nat} {request : Request},
    fabric.forwarded? index = some (place, request) → fabric.asks? place = some request ∧
      ∃ window ∈ description.windows, window.contains request.address = true ∧
        fabric.crossbar.owner? index = some window.owner
  /-- A request is refused at once just when it is for no window. -/
  refused_iff : ∀ {place : Nat} {request : Request}, fabric.asks? place = some request →
    (fabric.answered? place = some (request, .refused) ↔
      ∀ window ∈ description.windows, window.contains request.address = false)
  /-- All other answers come from the slave of the window. -/
  answers : ∀ {place : Nat} {request : Request} {response : Response},
    fabric.answered? place = some (request, response) →
      fabric.asks? place = some request ∧ response = .refused ∨
        ∃ index, fabric.delivered? index = some (place, request, response) ∧
          ∃ window ∈ description.windows, window.contains request.address = true ∧
            fabric.crossbar.owner? index = some window.owner

section

variable {config : Config} {fabric : Fabric} {stages : Nat → Stage} {left : Nat → Nat}
  {size place index : Nat} {request : Request} {response : Response}

/-- A crossbar forwards what is put to it, to the slot that decodes the address. -/
theorem asks?_of_forwarded? (engaged : Engaged fabric.crossbar stages)
    (forwarded : fabric.forwarded? index = some (place, request)) :
    fabric.asks? place = some request ∧
      fabric.crossbar.target? request.address = some index := by
  obtain ⟨slot, before, _⟩ := Option.bind_eq_some_iff.mp forwarded
  have found : fabric.crossbar.slots[index]? = some slot := before
  rw [forwarded?_eq engaged.toConsistent found, Option.map_eq_some_iff] at forwarded
  obtain ⟨candidate, granted, same⟩ := forwarded
  cases same
  obtain ⟨lane, here, _, _, wants, aim⟩ := (engaged_afterMasters engaged).granted?_lane granted
  exact ⟨Option.bind_eq_some_iff.mpr ⟨lane, here, wants⟩,
    (fabric.target?_afterMasters _).symm.trans aim⟩

/-- What a crossbar answers is the refusal of a request for no slot, or comes from the slot that
decodes the address. -/
theorem answered?_cases (engaged : Engaged fabric.crossbar stages)
    (answered : fabric.answered? place = some (request, response)) :
    (fabric.asks? place = some request ∧ response = .refused ∧
        fabric.crossbar.target? request.address = none) ∨
      fabric.asks? place = none ∧ ∃ index,
        fabric.delivered? index = some (place, request, response) ∧
          fabric.crossbar.target? request.address = some index := by
  have between := engaged_afterMasters engaged
  obtain ⟨lane, found, rest⟩ := Option.bind_eq_some_iff.mp answered
  obtain ⟨after, here, acknowledged⟩ := Option.bind_eq_some_iff.mp rest
  have asks : fabric.asks? place = lane.wants? := by rw [asks?, found, Option.bind_some]
  have answer := between.answers fabric.cycle found here
  generalize after.link = final at answer acknowledged
  cases answer with
  | @delivered index slot given reply owner phase waits =>
    right
    rw [waits] at acknowledged
    cases acknowledged
    have holder : fabric.crossbar.slots[index]? = some slot := owner
    obtain ⟨its, stage⟩ := between.completing_place owner phase
    -- the slot works for this lane, so it is the one that decodes what the lane holds up
    have works : (stages index).job? = some (place, its) := by rw [stage, Stage.job?]
    obtain ⟨held, same, served, link⟩ := between.held works
    rw [found, Option.some.injEq] at same
    subst same
    rw [waits, Link.waiting.injEq] at link
    subst link
    refine ⟨?_, index, ?_, engaged.aimed works⟩
    · rw [asks, Lane.wants?, if_pos served]
    · rw [delivered?_eq engaged.toConsistent holder, stage]
      rfl
  | @refused given wants lost =>
    left
    rw [(Lane.wants?_eq_some.mp wants).2] at acknowledged
    cases acknowledged
    exact ⟨asks.trans wants, rfl, (fabric.target?_afterMasters _).symm.trans lost⟩
  | kept _ _ =>
    rw [Link.acknowledged?_self] at acknowledged
    cases acknowledged

/-- What is put to a crossbar for no slot is refused at once, and nothing else that is put to it. -/
theorem answered?_refused_iff (engaged : Engaged fabric.crossbar stages)
    (asks : fabric.asks? place = some request) :
    fabric.answered? place = some (request, .refused) ↔
      fabric.crossbar.target? request.address = none := by
  constructor
  · intro answered
    rcases answered?_cases engaged answered with ⟨_, _, lost⟩ | ⟨served, _⟩
    · exact lost
    · rw [asks] at served
      cases served
  · intro lost
    obtain ⟨lane, found, wants⟩ := Option.bind_eq_some_iff.mp asks
    have aim := (fabric.target?_afterMasters request.address).trans lost
    have length := Crossbar.length_lanes_tick fabric.afterMasters fabric.cycle
    have within := (List.getElem?_eq_some_iff.mp found).1
    obtain ⟨after, here⟩ : ∃ after, fabric.afterCrossbar.lanes[place]? = some after :=
      ⟨_, List.getElem?_eq_getElem (length ▸ within)⟩
    have refused := (engaged_afterMasters engaged).refuses fabric.cycle found here wants aim
    have waits := (Lane.wants?_eq_some.mp wants).2
    simp [answered?, found, here, refused, waits, Link.acknowledged?, Link.awaiting?,
      Link.response?]

/-- The windows of a new fabric are apart, and each has the slot of its owner. -/
theorem assigns_build (built : build config = .ok fabric) : fabric.crossbar.frame.Assigns := by
  have mapped := mapped_build built
  have publishes := publishes_build built
  have owners : fabric.crossbar.frame.owners.Perm
      ((config.ports.filter (·.role = .slave)).map (·.id)) := publishes.slots
  refine ⟨mapped.ascending, ?_, ?_⟩
  · intro window listed
    obtain ⟨port, member, slave, owner⟩ := publishes.exists_slave listed
    rw [owners.mem_iff, owner]
    apply List.mem_map_of_mem
    exact List.mem_filter.mpr ⟨member, decide_eq_true slave⟩
  · apply owners.nodup_iff.mpr
    exact publishes.numbered.sublist (List.filter_sublist.map _)

theorem routes_of_assigns (fair : Fair fabric stages left size)
    (assigns : fabric.crossbar.frame.Assigns) : Routes fabric.description fabric where
  same := rfl
  unique := by
    intro window listed other member address holds also
    have found := (AddressMap.windowAt?_eq_some_iff assigns.ascending).mpr ⟨listed, holds⟩
    have same := (AddressMap.windowAt?_eq_some_iff assigns.ascending).mpr ⟨member, also⟩
    exact Option.some.inj (found.symm.trans same)
  slot := fun window listed => assigns.existsUnique_owner? listed
  forwards := by
    intro place index request asks window listed holds owns
    have target := assigns.target?_eq_some_iff.mpr ⟨window, listed, holds, owns⟩
    obtain ⟨lane, here, _⟩ := Option.bind_eq_some_iff.mp asks
    have seated : fabric.crossbar.frame.roster[place]? = some (lane.port, lane.rank) := by
      rw [← frame_afterMasters]
      simp [Crossbar.frame, here]
    obtain ⟨slot, found, _⟩ := Option.map_eq_some_iff.mp owns
    exact fair.forwards seated asks target found
  only := by
    intro place index request forwarded
    obtain ⟨asks, target⟩ := asks?_of_forwarded? fair.toEngaged forwarded
    exact ⟨asks, assigns.target?_eq_some_iff.mp target⟩
  refused_iff := by
    intro place request asks
    rw [answered?_refused_iff fair.toEngaged asks]
    exact assigns.target?_eq_none_iff
  answers := by
    intro place request response answered
    rcases answered?_cases fair.toEngaged answered with ⟨asks, refused, _⟩ |
      ⟨_, index, delivered, target⟩
    · exact .inl ⟨asks, refused⟩
    · exact .inr ⟨index, delivered, assigns.target?_eq_some_iff.mp target⟩

end

/-- What a fabric publishes is what its settings declare, and however it is used, it routes by what
it published when it was built. -/
theorem description_is_the_routing {config : Config} {fabric : Fabric}
    (built : build config = .ok fabric) :
    Publishes config fabric ∧
      ∀ actions, Routes fabric.description (fabric.play actions) := by
  refine ⟨publishes_build built, ?_⟩
  intro actions
  obtain ⟨_, _, fair⟩ := fair_build built
  obtain ⟨_, _, after⟩ := fair.play actions
  rw [← description_play fabric actions]
  apply routes_of_assigns after
  rw [frame_play]
  exact assigns_build built

def registerHost : Config where
  width := 32
  ports :=
    [{ id := ⟨0⟩, name := "core", protocol := .simpleSync, role := .master, dataWidth := 32,
       addressWidth := 30 },
     { id := ⟨1⟩, name := "loader", protocol := .simpleSync, role := .master, dataWidth := 32,
       addressWidth := 30 },
     { id := ⟨2⟩, name := "csr", protocol := .registerBus, role := .slave, dataWidth := 32,
       addressWidth := 14 },
     { id := ⟨3⟩, name := "sram", protocol := .simpleSync, role := .slave, dataWidth := 32,
       addressWidth := 30, base := some 0, size := some 0x1000 }]
  banks :=
    [{ name := "buffer", index := some 2, contents := .memory 4 },
     { name := "control", contents := .registers [{ name := "id", width := 32 }] }]

def registerReads : List Action :=
  [.pushSimple ⟨0⟩ (.read 0xE0000000 0xF), .pushSimple ⟨1⟩ (.read 0xE0001004 0xF)]

/-- The banks are published behind the memory; the second read comes to the register bus too, when
the first one is done, and a read between the banks is refused. -/
theorem both_reads_reach_the_banks :
    ∃ fabric, build registerHost = .ok fabric ∧
      fabric.description.windows.map (fun window => (window.name, window.base, window.owner)) =
        [("sram", 0, ⟨3⟩), ("control", 0xE0000000, ⟨2⟩), ("buffer", 0xE0001000, ⟨2⟩)] ∧
      (∃ count, ((fabric.play registerReads).ticks count).forwarded? 1 =
        some (1, .read 0xE0001004 0xF)) ∧
      (fabric.play [.pushSimple ⟨0⟩ (.read 0xE0000800 0xF)]).answered? 0 =
        some (.read 0xE0000800 0xF, .refused) := by
  have built : build registerHost = .ok _ := rfl
  obtain ⟨_, routes⟩ := description_is_the_routing built
  refine ⟨_, built, rfl, ?_, ?_⟩
  · obtain ⟨count, _, forwarded⟩ := @Routes.forwards _ _ (routes registerReads) 1 1
      (.read 0xE0001004 0xF) rfl _ (List.mem_of_getElem? (i := 2) rfl) rfl rfl
    exact ⟨count, forwarded⟩
  · apply ((routes _).refused_iff rfl).mpr
    decide

end Fabric

end BusFabric
