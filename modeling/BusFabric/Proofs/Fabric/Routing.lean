import BusFabric.Proofs.Bridge.InboundWords
import BusFabric.Proofs.Crossbar.Run
import BusFabric.Proofs.Fabric.Service
import BusFabric.Proofs.Fabric.Windows

set_option autoImplicit false

namespace BusFabric.Fabric

open Bridge (Conversion Inbound)
open Crossbar (Engaged Lane Slot Stage)
open Simple (Link Request)

variable {config : Config} {fabric : Fabric}

/-- The windows of split-transaction slaves that are narrower than the fabric are made of whole
fabric words. -/
def Config.KeepsWords (config : Config) : Prop :=
  ∀ port ∈ config.ports, port.protocol = .wideSplit → port.dataWidth < config.width →
    ∀ window, port.Declares window →
      config.width / 8 ∣ window.base.toNat ∧ config.width / 8 ∣ window.size

namespace Mapped

theorem whole (mapped : Mapped config fabric) (keeps : config.KeepsWords) :
    ∀ window ∈ fabric.map.windows,
      config.width / 8 ∣ window.base.toNat ∧ config.width / 8 ∣ window.size := by
  intro window member
  rcases mapped.origin window member with ⟨port, listed, declares⟩ | ⟨_, _, _, _, whole⟩
  · by_cases narrow : port.protocol = .wideSplit ∧ port.dataWidth < config.width
    · exact keeps port listed narrow.1 narrow.2 window declares
    · apply mapped.whole_of_wide listed declares
      intro split
      exact Nat.le_of_not_lt fun less => narrow ⟨split, less⟩
  · exact whole

/-- The addresses of a fabric word have one owner, just when windows are made of whole words. -/
theorem decode_word_iff (mapped : Mapped config fabric) :
    (∀ address : Address, fabric.map.decode (address.alignDown (config.width / 8)) =
      fabric.map.decode address) ↔ config.KeepsWords := by
  have cell := mapped.width.isCell
  constructor
  · intro alike port listed _ _ window declares
    obtain ⟨⟨_, admits⟩, _⟩ := mapped.admitted port listed window declares
    exact AddressMap.whole_of_decode_alignDown mapped.ascending cell alike
      (mapped.declared port listed window declares) admits.below (mapped.only listed declares)
  · intro keeps
    exact AddressMap.decode_alignDown mapped.ascending cell (mapped.whole keeps)

end Mapped

/-- The stages of the slots after a cycle: they move on and are granted, then their slaves move. -/
def nextStages (fabric : Fabric) (stages : Nat → Stage) (index : Nat) : Stage :=
  fabric.afterCrossbar.slots[index]?.elim ((stages index).next (fabric.granted? index))
    fun slot => ((stages index).next (fabric.granted? index)).serve
      (tickSlot fabric.cycle slot).1.link

theorem engaged_afterMasters {stages : Nat → Stage} (engaged : Engaged fabric.crossbar stages) :
    Engaged fabric.afterMasters stages :=
  engaged.exchangeLanes (fun _ => List.getElem?_map) (fun _ => tickLane_isServed fabric.cycle)
    (fun _ => tickLane_keeps fabric.cycle)

theorem engaged_tick {stages : Nat → Stage} (engaged : Engaged fabric.crossbar stages) :
    Engaged fabric.tick.crossbar (fabric.nextStages stages) := by
  have port (slot : Slot SlaveAgent) : (tickSlot fabric.cycle slot).1.port = slot.port := by
    rw [Serves.tickSlot_frame]
  rw [tick_crossbar]
  exact ((engaged_afterMasters engaged).tick fabric.cycle).exchangeSlots
    (fun _ => List.getElem?_map) (fun _ => port) (fun _ => tickSlot_phase fabric.cycle)
    (fun _ => tickSlot_mayAcknowledge fabric.cycle)

theorem engaged_act {stages : Nat → Stage} (engaged : Engaged fabric.crossbar stages)
    (action : Action) : ∃ next, Engaged (fabric.act action).crossbar next := by
  by_cases push : action = .tick
  · rw [push]
    exact ⟨_, engaged_tick engaged⟩
  · obtain ⟨change, _, pushed⟩ := fabric.act_push push
    rw [pushed]
    exact ⟨stages, engaged.exchangeLanes (fun _ => List.getElem?_map) (fun _ _ => rfl)
      (fun _ lane => Link.Keeps.refl lane.link)⟩

theorem map_act (fabric : Fabric) (action : Action) : (fabric.act action).map = fabric.map := by
  by_cases push : action = .tick
  · rw [push]
    show fabric.tick.crossbar.map = _
    rw [tick_crossbar]
    rfl
  · obtain ⟨change, _, pushed⟩ := fabric.act_push push
    rw [pushed]
    rfl

def AsksInWords (bytes : Nat) (agent : MasterAgent) (request? : Option Request) : Prop :=
  ∀ bridge, agent.bridge? = some bridge →
    bridge.conversion.IsRegular ∧ bridge.conversion.simpleBytes = bytes ∧
      (∀ access ∈ bridge.left, access.request.InWord bytes) ∧
      ∀ request, request? = some request → request.InWord bytes

theorem asksInWords_tickLane {bytes cycle : Nat} {lane : Lane MasterAgent}
    (asks : AsksInWords bytes lane.agent lane.link.request?) :
    AsksInWords bytes (tickLane cycle lane).1.agent (tickLane cycle lane).1.link.request? := by
  intro after moved
  unfold tickLane at moved ⊢
  split at moved
  · rename_i script link bridge agent
    obtain ⟨regular, rfl, left, raised⟩ := asks bridge (by rw [agent]; rfl)
    have before : Inbound.Junction.InWords ⟨bridge, (script.tick link cycle).2, lane.link⟩
        bridge.conversion := ⟨rfl, left, raised⟩
    obtain ⟨same, left', raised'⟩ := before.tick regular cycle
    have bridge' : after = (Inbound.Junction.tick ⟨bridge, (script.tick link cycle).2, lane.link⟩
        cycle).1.bridge := (Option.some.inj moved).symm
    rw [bridge', same]
    exact ⟨regular, rfl, left', raised'⟩
  · cases moved

def AllInWords (bytes : Nat) (fabric : Fabric) : Prop :=
  ∀ lane ∈ fabric.crossbar.lanes, AsksInWords bytes lane.agent lane.link.request?

theorem AllInWords.act {bytes : Nat} (all : AllInWords bytes fabric) (action : Action) :
    AllInWords bytes (fabric.act action) := by
  intro lane member
  by_cases push : action = .tick
  · subst push
    have lasting : Lane.Lasting fun lane : Lane MasterAgent => (lane.agent, lane.link.request?) := by
      refine ⟨fun lane response => ?_, fun _ _ => rfl⟩
      rw [Link.request?_acknowledge]
    have shown := lasting.tick fabric.afterMasters fabric.cycle
    replace member : lane ∈ fabric.afterCrossbar.lanes := by
      change lane ∈ fabric.tick.crossbar.lanes at member
      rwa [tick_crossbar] at member
    have seen : (lane.agent, lane.link.request?) ∈ fabric.afterMasters.lanes.map
        (fun lane : Lane MasterAgent => (lane.agent, lane.link.request?)) :=
      shown ▸ List.mem_map_of_mem member
    obtain ⟨moved, held, same⟩ := List.mem_map.mp seen
    obtain ⟨before, at_, rfl⟩ := List.mem_map.mp held
    obtain ⟨agent, request⟩ := Prod.mk.inj same
    rw [← agent, ← request]
    exact asksInWords_tickLane (all before at_)
  · obtain ⟨change, bridges, pushed⟩ := fabric.act_push push
    rw [pushed] at member
    obtain ⟨before, at_, rfl⟩ := List.mem_map.mp member
    intro bridge held
    exact all before at_ bridge ((bridges before).symm.trans held)

theorem Mapped.allInWords (mapped : Mapped config fabric)
    (idle : ∀ lane ∈ fabric.crossbar.lanes, lane.link = .idle) :
    AllInWords (config.width / 8) fabric := by
  intro lane member bridge held
  obtain ⟨port, _, _, made⟩ := mapped.lanes lane member
  have speaks : port.protocol.isSplit = true := by
    cases protocol : port.protocol with
    | wideSplit | wideSplitLite => rfl
    | simpleSync =>
      unfold masterAgent at made
      rw [protocol] at made
      dsimp only at made
      split at made
      · cases made
      · rw [← Except.ok.inj made] at held
        cases held
    | registerBus =>
      unfold masterAgent at made
      rw [protocol] at made
      cases made
  obtain ⟨conversion, between, agent⟩ := masterAgent_split speaks made
  rw [agent] at held
  obtain rfl := Option.some.inj held
  have regular := Conversion.isRegular_of_between between
  obtain ⟨rfl, _⟩ := Conversion.eq_of_between between
  refine ⟨regular, ?_, nofun, ?_⟩
  · simp [Conversion.simpleBytes, Conversion.simpleWidth, Conversion.direction, speaks]
  · intro request raised
    rw [idle lane member] at raised
    cases raised

structure Delivery (fabric : Fabric) where
  slot : Slot SlaveAgent
  lane : Lane MasterAgent
  bridge : Inbound
  request : Request
  /-- The place of the byte in the word. -/
  byte : Nat
  listed : slot ∈ fabric.crossbar.slots
  serves : ∃ place, slot.phase.lane? = some place ∧ fabric.crossbar.lanes[place]? = some lane
  asks : lane.agent.bridge? = some bridge
  raised : slot.link.request? = some request
  selected : request.select.selects byte = true

def Delivery.address (delivery : Delivery fabric) : Address :=
  delivery.request.address + BitVec.ofNat 64 delivery.byte

theorem Delivery.arrives {bytes : Nat} {stages : Nat → Stage} (cell : IsCell bytes)
    (engaged : Engaged fabric.crossbar stages) (all : AllInWords bytes fabric)
    (delivery : Delivery fabric) :
    fabric.map.decode (delivery.address.alignDown bytes) = some delivery.slot.port := by
  obtain ⟨place, lane, phase, at_, waits, decoded⟩ :=
    engaged.of_request delivery.listed delivery.raised
  obtain ⟨_, same, found⟩ := delivery.serves
  cases phase.symm.trans same
  cases at_.symm.trans found
  have raised : delivery.lane.link.request? = some delivery.request := by
    rw [waits]
    rfl
  obtain ⟨_, _, _, inWord⟩ := all delivery.lane (List.mem_of_getElem? at_) delivery.bridge
    delivery.asks
  obtain ⟨aligned, narrow⟩ := inWord delivery.request raised
  unfold Delivery.address
  rw [Address.alignDown_add cell aligned (narrow delivery.byte delivery.selected)]
  exact decoded

theorem play_routes {bytes : Nat} {stages : Nat → Stage} (engaged : Engaged fabric.crossbar stages)
    (all : AllInWords bytes fabric) (actions : List Action) :
    (∃ next, Engaged (fabric.play actions).crossbar next) ∧
      AllInWords bytes (fabric.play actions) ∧ (fabric.play actions).map = fabric.map := by
  induction actions generalizing fabric stages with
  | nil => exact ⟨⟨stages, engaged⟩, all, rfl⟩
  | cons action rest ih =>
    obtain ⟨_, moved⟩ := engaged_act engaged action
    obtain ⟨played, words, same⟩ := ih moved (all.act action)
    exact ⟨played, words, same.trans (map_act fabric action)⟩

/-- In every run of a fabric, a byte that a bridge asks for goes to the slave that owns the fabric
word around it. This is the owner of the byte for all addresses just when the windows of narrow
split-transaction slaves are made of whole fabric words, and then the byte lies in a window of the
slave. -/
theorem bytes_go_with_their_words (built : build config = .ok fabric) :
    ((∀ address : Address, fabric.map.decode (address.alignDown (config.width / 8)) =
        fabric.map.decode address) ↔ config.KeepsWords) ∧
      ∀ (actions : List Action) (delivery : Delivery (fabric.play actions)),
        fabric.map.decode (delivery.address.alignDown (config.width / 8)) =
            some delivery.slot.port ∧
          (config.KeepsWords → ∃ window ∈ fabric.map.windows,
            window.owner = delivery.slot.port ∧ window.contains delivery.address = true) := by
  have mapped := mapped_build built
  have start : Engaged fabric.crossbar fun _ => .idle := by
    obtain ⟨_, parts, _, _, _, rfl⟩ := build_parts built
    exact Engaged.create parts.map.freeze parts.masters parts.slaves config.tieBreak
  have idle : ∀ lane ∈ fabric.crossbar.lanes, lane.link = .idle := by
    obtain ⟨_, parts, _, _, _, rfl⟩ := build_parts built
    intro lane member
    obtain ⟨index, _, rfl⟩ := List.mem_mapIdx.mp member
    rfl
  refine ⟨mapped.decode_word_iff, ?_⟩
  intro actions delivery
  obtain ⟨⟨_, engaged⟩, words, same⟩ := play_routes start (mapped.allInWords idle) actions
  have arrives := delivery.arrives mapped.width.isCell engaged words
  rw [same] at arrives
  refine ⟨arrives, ?_⟩
  intro keeps
  rw [mapped.decode_word_iff.mpr keeps delivery.address,
    AddressMap.decode_eq_some_iff mapped.ascending] at arrives
  exact arrives

/-- A split-transaction master on a fabric of 64 bits, and two memories of 32 bits. -/
def narrowConfig (size : Nat) : Config where
  width := 64
  ports :=
    [{ id := ⟨0⟩, name := "core", protocol := .wideSplit, role := .master, dataWidth := 64,
       addressWidth := 32 },
     { id := ⟨1⟩, name := "low", protocol := .wideSplit, role := .slave, dataWidth := 32,
       addressWidth := 32, base := some 0, size := some size },
     { id := ⟨2⟩, name := "high", protocol := .wideSplit, role := .slave, dataWidth := 32,
       addressWidth := 32, base := some (BitVec.ofNat 64 size), size := some size }]

/-- A write of four bytes, up to the cycle that forwards it. -/
def writeFour (address : Address) : List Action :=
  .pushSplit ⟨0⟩ (.writeBurst 0 address 2 .incr [0x11223344] 8) :: List.replicate 3 .tick

theorem keepsWords_narrowConfig : (narrowConfig 8).KeepsWords := by
  intro port listed _ _ window declares
  obtain ⟨answers, _, based, sized, _⟩ := declares
  simp only [narrowConfig, List.mem_cons, List.not_mem_nil, or_false] at listed
  rcases listed with rfl | rfl | rfl
  · cases answers
  all_goals
    rw [← Option.some.inj based, ← Option.some.inj sized]
    decide

/-- With windows of whole words, a byte of the higher memory gets there. -/
theorem written_byte_arrives :
    ∃ fabric, build (narrowConfig 8) = .ok fabric ∧
      fabric.map.decode (Address.alignDown 12 8) = fabric.map.decode 12 ∧
      ∃ delivery : Delivery (fabric.play (writeFour 12)),
        delivery.slot.port = ⟨2⟩ ∧ delivery.address = 12 ∧
        ∃ window ∈ fabric.map.windows,
          window.owner = delivery.slot.port ∧ window.contains delivery.address = true := by
  have built : build (narrowConfig 8) = .ok _ := rfl
  have words := bytes_go_with_their_words built
  refine ⟨_, built, words.1.mpr keepsWords_narrowConfig 12, ?_⟩
  refine ⟨⟨_, _, _, _, 4, List.mem_of_getElem? (i := 1) rfl, ⟨0, rfl, rfl⟩, rfl, rfl, rfl⟩,
    rfl, rfl, ?_⟩
  exact (words.2 _ _).2 keepsWords_narrowConfig

/-- With windows of half a word, a byte of the higher memory is written to the lower one. -/
theorem written_byte_goes_astray :
    ∃ fabric, build (narrowConfig 4) = .ok fabric ∧
      fabric.map.decode 4 = some ⟨2⟩ ∧ fabric.map.decode (Address.alignDown 4 8) = some ⟨1⟩ ∧
      ∃ delivery : Delivery (fabric.play (writeFour 4)),
        delivery.slot.port = ⟨1⟩ ∧ delivery.address = 4 ∧
        ∀ window ∈ fabric.map.windows, window.owner = ⟨1⟩ →
          window.contains delivery.address = false := by
  have built : build (narrowConfig 4) = .ok _ := rfl
  refine ⟨_, built, rfl, rfl, ?_⟩
  refine ⟨⟨_, _, _, _, 4, List.mem_of_getElem? (i := 0) rfl, ⟨0, rfl, rfl⟩, rfl, rfl, rfl⟩,
    rfl, rfl, ?_⟩
  decide
end BusFabric.Fabric
