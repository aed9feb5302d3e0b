import BusFabric.Proofs.Bridge.OutboundBounds
import BusFabric.Proofs.Fabric.Scripts
import Mathlib.Algebra.Group.Nat.Defs

set_option autoImplicit false

namespace BusFabric

/-- The address lines of the port reach a window of `size` bytes that is `2 ^ scale` times as long
for the port. -/
def Port.Spans (port : Port) (size scale : Nat) : Prop :=
  64 ≤ port.spanBits ∨ size * 2 ^ scale ≤ 2 ^ port.spanBits

namespace Fabric

open Bridge (Conversion Outbound)
open Crossbar (Slot)
open Simple (Request)

variable {config : Config} {fabric : Fabric}

def Parts.Houses (config : Config) (ports : List Port) (parts : Parts) : Prop :=
  ∀ slave ∈ parts.slaves, ∃ port ∈ ports, port.id = slave.1 ∧
    (port.protocol ≠ .registerBus → slaveAgent port config = .ok slave.2)

namespace Parts.Houses

variable {parts after : Parts} {ports : List Port} {port : Port}

theorem mono {more : List Port} (houses : parts.Houses config ports) :
    parts.Houses config (ports ++ more) := by
  intro slave member
  obtain ⟨port, listed, same⟩ := houses slave member
  exact ⟨port, List.mem_append_left _ listed, same⟩

theorem add (houses : parts.Houses config ports) (added : parts.add config port = .ok after) :
    after.Houses config (ports ++ [port]) := by
  rcases add_cases added with ⟨agent, _, _, rfl⟩ | ⟨_, _, rfl⟩ | ⟨map, agent, _, _, _, made, rfl⟩
  · exact houses.mono
  · exact houses.mono
  · intro slave member
    rcases List.mem_append.mp member with old | new
    · exact houses.mono slave old
    · rw [List.mem_singleton.mp new]
      exact ⟨port, List.mem_append_right _ (List.mem_singleton_self port), rfl, fun _ => made⟩

theorem foldlM {rest : List Port} (houses : parts.Houses config ports)
    (folded : rest.foldlM (fun parts port => parts.add config port) parts = .ok after) :
    after.Houses config (ports ++ rest) :=
  Parts.foldlM_induction (fun parts ports => parts.Houses config ports) (fun holds added => holds.add added)
    houses folded

theorem addBanks {layout : RegisterBank.Layout} (houses : parts.Houses config ports)
    (carries : ∀ bus, parts.registerBus = some bus → bus ∈ ports ∧ bus.protocol = .registerBus)
    (banked : parts.addBanks config = .ok (after, layout)) : after.Houses config ports := by
  cases carried : parts.registerBus with
  | none =>
    obtain ⟨rfl, _⟩ := addBanks_none carried banked
    exact houses
  | some bus =>
    obtain ⟨_, _, _, _, _, _, _, _, slaves⟩ := addBanks_some carried banked
    obtain ⟨listed, speaks⟩ := carries bus carried
    unfold Parts.Houses
    rw [slaves]
    intro slave member
    rcases List.mem_append.mp member with old | new
    · exact houses slave old
    · rw [List.mem_singleton.mp new]
      exact ⟨bus, listed, rfl, fun plain => absurd speaks plain⟩

end Parts.Houses

/-- The slave behind a slot is, but for its traffic, what was built for the port of the slot. -/
def IsHoused (config : Config) (seat : PortId × SlaveAgent) : Prop :=
  ∃ port ∈ config.ports, port.id = seat.1 ∧ (port.protocol ≠ .registerBus →
    ∃ agent, slaveAgent port config = .ok agent ∧ agent.bare = seat.2)

/-- The port and the slave behind each slot, without the traffic of the slave. -/
def seats (fabric : Fabric) : List (PortId × SlaveAgent) :=
  fabric.crossbar.slots.map fun slot => (slot.port, slot.agent.bare)

theorem housed_build (built : build config = .ok fabric) :
    ∀ seat ∈ fabric.seats, IsHoused config seat := by
  obtain ⟨first, parts, layout, folded, banked, rfl⟩ := build_parts built
  have reflects := Parts.Reflects.nil.foldlM folded
  have empty : Parts.Houses config [] {} := by
    intro slave member
    cases member
  have houses := (empty.foldlM folded).addBanks reflects.bus banked
  intro seat member
  obtain ⟨slot, listed, rfl⟩ := List.mem_map.mp member
  obtain ⟨slave, held, rfl⟩ := List.mem_map.mp listed
  obtain ⟨port, sorted, id, made⟩ := houses slave held
  rw [List.nil_append] at sorted
  exact ⟨port, mem_sortByNumber.mp sorted, id, fun plain => ⟨_, made plain, rfl⟩⟩

theorem seats_tick (fabric : Fabric) : fabric.tick.seats = fabric.seats := by
  have slaves : fabric.tick.seats =
      fabric.afterCrossbar.slots.map fun slot => (slot.port, slot.agent.bare) := by
    unfold seats
    rw [tick_crossbar, List.map_map]
    apply List.map_congr_left
    intro slot _
    have port : (tickSlot fabric.cycle slot).1.port = slot.port := by
      rw [Serves.tickSlot_frame]
    show ((tickSlot fabric.cycle slot).1.port, (tickSlot fabric.cycle slot).1.agent.bare) = _
    rw [port, tickSlot_bare]
  rw [slaves]
  apply List.ext_getElem?
  intro index
  have moved := fabric.afterMasters.tick_slots fabric.cycle index
  unfold seats
  rw [List.getElem?_map, List.getElem?_map]
  unfold afterCrossbar
  rw [moved, Option.map_map]
  congr 1
  funext slot
  show ((slot.moveOn.grant _).port, (slot.moveOn.grant _).agent.bare) = _
  rw [Slot.grant_port, Slot.grant_agent, Slot.moveOn_port, Slot.moveOn_agent]

theorem seats_act (fabric : Fabric) (action : Action) : (fabric.act action).seats = fabric.seats := by
  by_cases push : action = .tick
  · rw [push]
    exact fabric.seats_tick
  · obtain ⟨change, _, pushed⟩ := fabric.act_push push
    rw [pushed]
    rfl

theorem seats_play (fabric : Fabric) (actions : List Action) :
    (fabric.play actions).seats = fabric.seats :=
  play_eq_of_act seats seats_act fabric actions

/-- A slave that speaks the split protocol is built with a bridge. -/
theorem slaveAgent_split {port : Port} {agent : SlaveAgent} (speaks : port.protocol = .wideSplit)
    (made : slaveAgent port config = .ok agent) :
    ∃ conversion, Conversion.between .simpleSync config.width .wideSplit port.dataWidth =
        .ok conversion ∧
      agent.bare = .split { port := port.id, conversion, windowBase := port.base.getD 0 } {}
        { name := port.name, busBytes := port.wordBytes, latency := config.ramLatency } := by
  unfold slaveAgent at made
  rw [speaks] at made
  dsimp only at made
  cases converts : Conversion.between .simpleSync config.width .wideSplit port.dataWidth with
  | error error => simp [converts, Except.map] at made
  | ok conversion =>
    rw [converts] at made
    rw [← Except.ok.inj made]
    exact ⟨conversion, rfl, rfl⟩

/-- The bridge in front of a split-transaction slave, and the window of the slave. -/
structure Fronts (config : Config) (port : Port) (window : Window) (bridge : Outbound) : Prop where
  conversion : bridge.conversion = ⟨.simpleSync, config.width, .wideSplit, port.dataWidth⟩
  base : bridge.windowBase = window.base
  regular : bridge.conversion.IsRegular
  based : port.dataWidth / 8 ∣ window.base.toNat
  sized : port.dataWidth / 8 ∣ window.size
  power : window.size.isPowerOfTwo
  le_span : window.size ≤ port.addressableBytes
  below : window.finish < UInt64.size

namespace Fronts

variable {port : Port} {window : Window} {bridge : Outbound} {request : Request} {byte : Nat}

theorem simpleBytes (fronts : Fronts config port window bridge) :
    bridge.conversion.simpleBytes = config.width / 8 := by
  rw [fronts.conversion]
  rfl

theorem sourceBytes (fronts : Fronts config port window bridge) :
    bridge.conversion.sourceBytes = config.width / 8 := by
  rw [fronts.conversion]
  rfl

theorem splitBytes (fronts : Fronts config port window bridge) :
    bridge.conversion.splitBytes = port.dataWidth / 8 := by
  rw [fronts.conversion]
  rfl

theorem targetWidth (fronts : Fronts config port window bridge) :
    bridge.conversion.targetWidth = port.dataWidth := by
  rw [fronts.conversion]

theorem based_target (fronts : Fronts config port window bridge) :
    bridge.conversion.targetWidth / 8 ∣ window.base.toNat := by
  rw [fronts.targetWidth]
  exact fronts.based

theorem whole_source (fronts : Fronts config port window bridge)
    (whole : config.width / 8 ∣ request.address.toNat) :
    bridge.conversion.sourceBytes ∣ request.address.toNat := by
  rw [fronts.sourceBytes]
  exact whole

theorem reach (fronts : Fronts config port window bridge)
    (whole : config.width / 8 ∣ request.address.toNat) :
    Bridge.Outbound.Reach (bridge.wordStart request) bridge.conversion.simpleBytes
      bridge.conversion.splitBytes := by
  have outward : bridge.conversion.direction = .simpleToSplit := by
    rw [fronts.conversion]
    rfl
  apply reach_of_room fronts.regular outward
  rw [fronts.base, ← Conversion.sourceBytes_outward outward]
  exact Conversion.word_room fronts.regular (fronts.whole_source whole) fronts.based_target

/-- The burst for a word of the window ends inside the length of the window on the split bus. -/
theorem lt_scaled (fronts : Fronts config port window bridge)
    (whole : config.width / 8 ∣ request.address.toNat)
    (holds : window.contains request.address = true) (moves : (bridge.plan request).Moves byte) :
    byte < window.size * 1 <<< bridge.conversion.scale := by
  obtain ⟨starts, inside⟩ := Window.contains_iff.mp holds
  apply Bridge.Outbound.lt_of_moves (fronts.reach whole) _ _ moves
  · rw [fronts.splitBytes]
    exact Nat.dvd_mul_right_of_dvd fronts.sized _
  · unfold Bridge.Outbound.wordStart
    rw [fronts.base, fronts.simpleBytes, ← fronts.sourceBytes]
    apply Conversion.translate_add_le fronts.regular (fronts.whole_source whole)
      fronts.based_target starts _ inside
    rw [fronts.targetWidth]
    exact fronts.sized

/-- In front of a slave that is narrower than the fabric, the top of the address space is not
reached. -/
theorem lt_top (fronts : Fronts config port window bridge)
    (narrow : port.dataWidth / 8 < config.width / 8)
    (whole : config.width / 8 ∣ request.address.toNat)
    (holds : window.contains request.address = true) (moves : (bridge.plan request).Moves byte) :
    byte < UInt64.size - 1 := by
  have reach := fronts.reach whole
  have cell := reach.split
  obtain ⟨starts, _⟩ := Window.contains_iff.mp holds
  rw [← fronts.targetWidth, ← fronts.sourceBytes] at narrow
  have room := Conversion.translate_add_lt fronts.regular (fronts.whole_source whole)
    fronts.based_target starts narrow
  rw [fronts.sourceBytes, fronts.targetWidth] at room
  have limit : byte < UInt64.size - bridge.conversion.splitBytes := by
    apply Bridge.Outbound.lt_of_moves reach _ _ moves
    · exact Nat.dvd_sub cell.dvd_space (Nat.dvd_refl _)
    · unfold Bridge.Outbound.wordStart
      rw [fronts.base, fronts.simpleBytes, fronts.splitBytes]
      omega
  have positive := cell.positive
  omega

/-- In front of a slave that is as wide as the fabric or wider, a window is as long on the split bus
as it is on the fabric. -/
theorem scale_eq_zero (fronts : Fronts config port window bridge)
    (wide : config.width / 8 ≤ port.dataWidth / 8) : bridge.conversion.scale = 0 := by
  apply (Conversion.scale_eq_zero_iff fronts.regular).mpr
  rw [fronts.sourceBytes, fronts.targetWidth]
  exact wide

theorem spans_of_wide (fronts : Fronts config port window bridge)
    (wide : config.width / 8 ≤ port.dataWidth / 8) :
    port.Spans window.size bridge.conversion.scale := by
  have within := fronts.le_span
  unfold Port.Spans
  rw [fronts.scale_eq_zero wide, Nat.pow_zero, Nat.mul_one]
  unfold Port.addressableBytes at within
  split at within
  · rw [Nat.one_shiftLeft] at within
    exact .inr within
  · omega

/-- Address lines that reach the length of the window on the split bus reach every burst. -/
theorem lt_addressableBytes (fronts : Fronts config port window bridge)
    (spans : port.Spans window.size bridge.conversion.scale)
    (whole : config.width / 8 ∣ request.address.toNat)
    (holds : window.contains request.address = true) (moves : (bridge.plan request).Moves byte) :
    byte < port.addressableBytes := by
  have scaled := fronts.lt_scaled whole holds moves
  by_cases wide : config.width / 8 ≤ port.dataWidth / 8
  · have within := fronts.le_span
    rw [fronts.scale_eq_zero wide, Nat.one_shiftLeft, Nat.pow_zero, Nat.mul_one] at scaled
    omega
  · have top := fronts.lt_top (Nat.lt_of_not_le wide) whole holds moves
    unfold Port.addressableBytes
    unfold Port.Spans at spans
    rw [← Nat.one_shiftLeft, ← Nat.one_shiftLeft] at spans
    split
    · omega
    · exact top

/-- Address lines that do not reach it miss the burst for some word of a window of several words. -/
theorem exists_beyond (fronts : Fronts config port window bridge)
    (several : config.width / 8 < window.size)
    (short : ¬ port.Spans window.size bridge.conversion.scale) :
    ∃ request : Request, config.width / 8 ∣ request.address.toNat ∧
      window.contains request.address = true ∧
        ∃ byte, (bridge.plan request).Moves byte ∧ port.addressableBytes ≤ byte := by
  unfold Port.Spans at short
  rw [not_or, Nat.not_le, Nat.not_le, ← Nat.one_shiftLeft, ← Nat.one_shiftLeft] at short
  rw [← fronts.sourceBytes] at several
  obtain ⟨word, whole, starts, inside, past⟩ := Conversion.exists_translate_ge fronts.regular
    fronts.power several fronts.below short.1 short.2
  rw [fronts.sourceBytes] at whole
  refine ⟨.read word 0, whole, Window.contains_iff.mpr ⟨starts, inside⟩, _,
    Bridge.Outbound.moves_wordStart (fronts.reach whole), ?_⟩
  unfold Port.addressableBytes Bridge.Outbound.wordStart
  rw [if_pos short.1, fronts.base]
  exact past

end Fronts

theorem map_play (fabric : Fabric) (actions : List Action) :
    (fabric.play actions).map = fabric.map :=
  play_eq_of_act map map_act fabric actions

theorem exists_fronts (built : build config = .ok fabric) (actions : List Action) {port : Port}
    (listed : port ∈ config.ports) (speaks : port.protocol = .wideSplit) {window : Window}
    (declares : port.Declares window) {slot : Slot SlaveAgent}
    (member : slot ∈ (fabric.play actions).crossbar.slots) (owned : slot.port = port.id) :
    ∃ bridge link ram, slot.agent = .split bridge link ram ∧ Fronts config port window bridge := by
  have mapped := mapped_build built
  have seated : (slot.port, slot.agent.bare) ∈ fabric.seats := by
    rw [← seats_play fabric actions]
    exact List.mem_map_of_mem member
  obtain ⟨other, held, id, made⟩ := housed_build built _ seated
  obtain rfl : other = port := List.inj_on_of_nodup_map mapped.numbered held listed (id.trans owned)
  obtain ⟨agent, made, same⟩ := made declares.plain
  obtain ⟨conversion, between, bare⟩ := slaveAgent_split speaks made
  obtain ⟨⟨map, admits⟩, _⟩ := mapped.admitted other listed window declares
  rw [bare] at same
  cases kind : slot.agent with
  | device endpoint =>
    rw [kind] at same
    cases same
  | split bridge link ram =>
    rw [kind] at same
    injection same with front
    have regular := Conversion.isRegular_of_between between
    obtain ⟨rfl, _⟩ := Conversion.eq_of_between between
    have alignment : other.naturalAlignment = other.dataWidth / 8 :=
      Nat.max_eq_left regular.target.isCell.positive
    have whole := admits.whole (alignment ▸ regular.target.isCell)
    rw [alignment] at whole
    have converts : bridge.conversion = ⟨.simpleSync, config.width, .wideSplit, other.dataWidth⟩ :=
      (congrArg Outbound.conversion front).symm
    have base : bridge.windowBase = window.base := by
      have same := congrArg Outbound.windowBase front
      rw [declares.based] at same
      exact same.symm
    exact ⟨bridge, link, ram, rfl, converts, base, converts ▸ regular, whole.1, whole.2,
      admits.powerOfTwo, admits.le_span, admits.below⟩

/-- In every run, the burst for a word that is forwarded to a split-transaction slave ends inside
the length that the window of the slave has on the split bus. So the slave is asked for no byte that
its address lines do not reach, if they reach that length; they do if the slave is as wide as the
fabric or wider. If there are several words in the window, they have to. -/
theorem bursts_stay_in_span (built : build config = .ok fabric) (actions : List Action)
    {port : Port} (listed : port ∈ config.ports) (speaks : port.protocol = .wideSplit)
    {window : Window} (declares : port.Declares window) :
    ∀ slot ∈ (fabric.play actions).crossbar.slots, slot.port = port.id →
      ∃ bridge link ram, slot.agent = .split bridge link ram ∧
        (∀ request, slot.link.request? = some request →
          config.width / 8 ∣ request.address.toNat →
            fabric.map.decode request.address = some port.id ∧
            ∀ byte, (bridge.plan request).Moves byte →
              byte < window.size * 2 ^ bridge.conversion.scale ∧
                (port.Spans window.size bridge.conversion.scale →
                  byte < port.addressableBytes)) ∧
        (config.width ≤ port.dataWidth →
          port.Spans window.size bridge.conversion.scale) ∧
        (config.width / 8 < window.size →
          ((∀ request : Request, config.width / 8 ∣ request.address.toNat →
            fabric.map.decode request.address = some port.id →
              ∀ byte, (bridge.plan request).Moves byte → byte < port.addressableBytes) ↔
            port.Spans window.size bridge.conversion.scale)) := by
  intro slot member owned
  have mapped := mapped_build built
  obtain ⟨bridge, link, ram, agent, fronts⟩ :=
    exists_fronts built actions listed speaks declares member owned
  obtain ⟨⟨_, _, attended⟩, _⟩ := briefed_play built actions
  have window_mem := mapped.declared port listed window declares
  have decoded_iff : ∀ address : Address, fabric.map.decode address = some port.id ↔
      window.contains address = true := by
    intro address
    rw [AddressMap.decode_eq_some_iff mapped.ascending, ← declares.owner]
    constructor
    · rintro ⟨other, held, same, holds⟩
      rw [mapped.only listed declares other held same] at holds
      exact holds
    · intro holds
      exact ⟨window, window_mem, rfl, holds⟩
  refine ⟨bridge, link, ram, agent, ?_, ?_, ?_⟩
  · intro request raised whole
    obtain ⟨_, _, _, _, _, decoded⟩ := attended.of_request member raised
    have arrives : fabric.map.decode request.address = some port.id := by
      rw [← owned, ← map_play fabric actions]
      exact decoded
    have holds := (decoded_iff _).mp arrives
    refine ⟨arrives, ?_⟩
    intro byte moves
    constructor
    · rw [← Nat.one_shiftLeft]
      exact fronts.lt_scaled whole holds moves
    · intro spans
      exact fronts.lt_addressableBytes spans whole holds moves
  · intro wide
    exact fronts.spans_of_wide (Nat.div_le_div_right wide)
  · intro several
    constructor
    · intro reached
      apply Classical.byContradiction
      intro short
      obtain ⟨request, whole, holds, byte, moves, past⟩ := fronts.exists_beyond several short
      have below := reached request whole ((decoded_iff _).mpr holds) byte moves
      omega
    · intro spans request whole decoded byte moves
      exact fronts.lt_addressableBytes spans whole ((decoded_iff _).mp decoded) moves

/-- A memory of 32 bits with a window of sixteen bytes. -/
def shortMemory (addressWidth : BitVec 32) : Port where
  id := ⟨1⟩
  name := "memory"
  protocol := .wideSplit
  role := .slave
  dataWidth := 32
  addressWidth
  base := some 0
  size := some 16

def twoWords (addressWidth : BitVec 32) : Config where
  width := 64
  ports :=
    [{ id := ⟨0⟩, name := "core", protocol := .simpleSync, role := .master, dataWidth := 64,
       addressWidth := 32 },
     shortMemory addressWidth]

/-- A write of the second word, up to the cycle that forwards it. -/
def writeSecond : List Action :=
  [.pushSimple ⟨0⟩ ⟨8, 0x1122334455667788, 0xff, true⟩, .tick]

/-- Five address lines reach the two words, which lie sixteen bytes apart. -/
theorem second_word_in_span :
    ∃ fabric, build (twoWords 5) = .ok fabric ∧ (shortMemory 5).addressableBytes = 32 ∧
      ∃ slot ∈ (fabric.play writeSecond).crossbar.slots, slot.port = ⟨1⟩ ∧
        slot.link.request?.map (·.address) = some 8 ∧
        ∃ bridge link ram, slot.agent = .split bridge link ram ∧
          ∀ request, slot.link.request? = some request → 8 ∣ request.address.toNat →
            ∀ byte, (bridge.plan request).Moves byte → byte < (shortMemory 5).addressableBytes := by
  have built : build (twoWords 5) = .ok _ := rfl
  have declares : (shortMemory 5).Declares ⟨"memory", 0, 16, ⟨1⟩, 32⟩ :=
    ⟨rfl, by decide, rfl, rfl, rfl⟩
  have listed : shortMemory 5 ∈ (twoWords 5).ports := List.mem_cons_of_mem _ (List.mem_cons_self ..)
  refine ⟨_, built, rfl, _, List.mem_of_getElem? (i := 0) rfl, rfl, rfl, ?_⟩
  obtain ⟨bridge, link, ram, agent, forwarded, _⟩ :=
    bursts_stay_in_span built writeSecond listed rfl declares _
      (List.mem_of_getElem? (i := 0) rfl) rfl
  refine ⟨bridge, link, ram, agent, ?_⟩
  intro request raised whole byte moves
  have scale : bridge.conversion.scale = 1 := by
    cases agent
    rfl
  have spans : (shortMemory 5).Spans 16 bridge.conversion.scale := by
    rw [scale]
    exact .inr (by decide)
  exact ((forwarded request raised whole).2 byte moves).2 spans

/-- With four address lines the fabric is built as well, because they reach sixteen bytes, and the
write of the second word is sent to an address that they do not reach. -/
theorem second_word_past_span :
    ∃ fabric, build (twoWords 4) = .ok fabric ∧ (shortMemory 4).addressableBytes = 16 ∧
      ∃ slot ∈ (fabric.play writeSecond).crossbar.slots, slot.port = ⟨1⟩ ∧
        ∃ bridge link ram, slot.agent = .split bridge link ram ∧
          ∃ request, slot.link.request? = some request ∧ 8 ∣ request.address.toNat ∧
            fabric.map.decode request.address = some ⟨1⟩ ∧ (bridge.plan request).Moves 16 := by
  have built : build (twoWords 4) = .ok _ := rfl
  refine ⟨_, built, rfl, _, List.mem_of_getElem? (i := 0) rfl, rfl, _, _, _, rfl, _, rfl, ?_⟩
  exact ⟨by decide, rfl, 0, by decide, 0, by decide, by decide⟩

end Fabric

end BusFabric
