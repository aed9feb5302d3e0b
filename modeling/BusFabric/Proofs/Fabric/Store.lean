import BusFabric.Proofs.Bridge.Places
import BusFabric.Proofs.Fabric.SplitMemory

set_option autoImplicit false

namespace BusFabric.Fabric

open Bridge (Conversion mod_shift_of_le)
open Bridge.Outbound (Reach gatheredWord overlaid)
open Crossbar (Slot)
open Device (Endpoint Sram)
open Simple (Request)

/-- An agent that carries out the requests for some words, `place` being where their bytes lie.
`rests bytes` says that it is at rest and holds `bytes`. -/
structure Store (simpleBytes : Nat) (isServed : Address → Prop) (place : Address → Address)
    (rests : (Address → Byte) → SlaveAgent → Prop) : Prop where
  settled : ∀ {bytes agent}, rests bytes agent → agent.isSettled .idle = true
  /-- Without a request, nothing happens. -/
  waits : ∀ {bytes} (slot : Slot SlaveAgent), rests bytes slot.agent →
    slot.link.awaiting? = none →
      ∃ following : Slot SlaveAgent, following.link = slot.link ∧ rests bytes following.agent ∧
        ∀ cycle, tickSlot cycle slot = (following, none)
  serves : ∀ {bytes} (slot : Slot SlaveAgent) {request : Request}, rests bytes slot.agent →
    slot.link = .waiting request → isServed request.address →
      ∃ count after,
        Serves request (reply simpleBytes (place request.address) request bytes) slot count after ∧
        rests (updated simpleBytes (place request.address) request bytes) after.agent

/-- Different bytes of the words of a store lie apart, unless they are very far from each other. -/
def KeepsApart (simpleBytes : Nat) (isServed : Address → Prop) (place : Address → Address) : Prop :=
  ∀ address other : Address, isServed (address.alignDown simpleBytes) →
    isServed (other.alignDown simpleBytes) →
    place (address.alignDown simpleBytes) + BitVec.ofNat 64 (address.toNat % simpleBytes) =
      place (other.alignDown simpleBytes) + BitVec.ofNat 64 (other.toNat % simpleBytes) →
    address.toNat % 1 <<< 60 = other.toNat % 1 <<< 60

section

variable {conversion : Conversion} {windowBase : Address}

/-- An address is told by its word's offset from a base, below any bit. -/
theorem offset_from_base (address base : Address) {bytes : Nat} (cell : IsCell bytes) :
    address.toNat % 1 <<< 60 =
      ((address.alignDown bytes - base).toNat + address.toNat % bytes + base.toNat) % 1 <<< 60 := by
  have parts := Address.alignDown_add_mod address cell
  have power : 1 <<< 60 = 1152921504606846976 := rfl
  rw [BitVec.toNat_sub, power]
  omega

/-- A word that does not run into the place of the next one stays below the top of the memory. -/
theorem reach_of_room (regular : conversion.IsRegular)
    (outward : conversion.direction = .simpleToSplit) {address : Address}
    (room : address.toNat % conversion.simpleBytes + conversion.simpleBytes ≤ conversion.stride) :
    Reach (conversion.translate address) conversion.simpleBytes conversion.splitBytes := by
  have below := Conversion.translate_room regular address
  rw [Conversion.sourceBytes_outward outward] at below
  exact ⟨regular.splitBytes, regular.splitBytes_le, regular.simpleBytes.positive,
    regular.simpleBytes_le, by omega⟩

/-- A memory behind a bridge is a store of the words that do not run into each other. -/
theorem split_store (regular : conversion.IsRegular)
    (outward : conversion.direction = .simpleToSplit) (windowBase : Address) :
    Store conversion.simpleBytes
      (fun word => (word - windowBase).toNat % conversion.simpleBytes + conversion.simpleBytes ≤
        conversion.stride)
      (fun word => conversion.translate (word - windowBase)) (Idles conversion windowBase) where
  settled := by
    rintro bytes _ ⟨_, _, _, idle, rest, _, _⟩
    simp [SlaveAgent.isSettled, Bridge.Outbound.isIdle, Split.Ram.isIdle, idle, rest.write,
      rest.owed, rest.read, Simple.Link.isIdle]
  waits := fun _ => Idles.rests
  serves := fun _ _ idles waits room => idles.serves waits (reach_of_room regular outward room)

theorem split_keepsApart (regular : conversion.IsRegular)
    (outward : conversion.direction = .simpleToSplit) (windowBase : Address) :
    KeepsApart conversion.simpleBytes
      (fun word => (word - windowBase).toNat % conversion.simpleBytes + conversion.simpleBytes ≤
        conversion.stride)
      (fun word => conversion.translate (word - windowBase)) := by
  intro address other room space same
  have narrow := regular.simpleBytes_le
  have scale := regular.scale_le
  have source := Conversion.sourceBytes_outward outward
  have lane := Nat.mod_lt address.toNat regular.simpleBytes.positive
  have lane' := Nat.mod_lt other.toNat regular.simpleBytes.positive
  have apart := Conversion.translate_add_inj regular (by rw [source]; omega)
    (by rw [source]; omega) same
  have offsets := mod_shift_of_le (by omega : 60 ≤ 64 - conversion.scale) apart
  rw [offset_from_base address windowBase regular.simpleBytes,
    offset_from_base other windowBase regular.simpleBytes, Nat.add_mod, offsets, ← Nat.add_mod]

end

inductive Sits (size wordBytes : Nat) (base : Address) (bytes : Address → Byte) :
    SlaveAgent → Prop where
  | intro {endpoint : Endpoint} {sram : Sram} (device : endpoint.device = .sram sram)
      (based : endpoint.base = base) (sized : sram.size = size)
      (width : sram.wordBytes = wordBytes) (holds : sram.memory.readByte = bytes) :
      Sits size wordBytes base bytes (.device endpoint)

variable {size wordBytes : Nat} {base : Address} {bytes : Address → Byte}

theorem perform_sram {sram : Sram} {request : Request} (inside : (request.address - base).toNat <
      sram.size) (aligned : (request.address - base).alignDown sram.wordBytes =
        request.address - base) (narrow : sram.wordBytes ≤ 16) :
    ∃ after : Sram, (Device.sram sram).perform (request.address - base) request =
        (.sram after, reply sram.wordBytes (request.address - base) request
          sram.memory.readByte) ∧
      after.size = sram.size ∧ after.wordBytes = sram.wordBytes ∧
      after.memory.readByte =
        updated sram.wordBytes (request.address - base) request sram.memory.readByte := by
  have word : sram.wordAt (request.address - base) = .ok (request.address - base) := by
    unfold Sram.wordAt
    rw [if_neg (Nat.not_le_of_lt inside), aligned]
  unfold Device.perform reply updated
  cases request.write with
  | true =>
    simp only [if_true, Device.write, Sram.write, word, Except.map]
    refine ⟨_, rfl, rfl, rfl, ?_⟩
    funext address
    exact Memory.readByte_writeWord _ _ _ _ _ narrow
  | false =>
    simp only [Bool.false_eq_true, if_false, Device.read, Sram.read, word, Except.map]
    have read : sram.memory.readWord (request.address - base) sram.wordBytes =
        gatheredWord sram.wordBytes (request.address - base) sram.memory.readByte := by
      apply Data.ext_lanes
      intro lane low
      unfold gatheredWord
      rw [Memory.lane_readWord _ _ narrow, Data.lane_ofLanes _ low]
    rw [read]
    exact ⟨sram, rfl, rfl, rfl, rfl⟩

theorem tickSlot_device {slot : Slot SlaveAgent} {endpoint : Endpoint}
    (agent : slot.agent = .device endpoint) {link : Simple.Link} (held : slot.link = link)
    {ticked : Endpoint × Simple.Link} (ticks : endpoint.tick link = ticked) :
    ∃ following : Slot SlaveAgent, following.agent = .device ticked.1 ∧
      following.link = ticked.2 ∧ ∀ cycle, tickSlot cycle slot = (following, none) := by
  refine ⟨{ slot with agent := .device ticked.1, link := ticked.2 }, rfl, rfl, ?_⟩
  intro cycle
  unfold tickSlot
  rw [agent, held]
  dsimp only
  rw [ticks]

theorem Sits.serves {slot : Slot SlaveAgent} {request : Request} (narrow : wordBytes ≤ 16)
    (sits : Sits size wordBytes base bytes slot.agent) (waits : slot.link = .waiting request)
    (inside : (request.address - base).toNat < size)
    (aligned : (request.address - base).alignDown wordBytes = request.address - base) :
    ∃ count after,
      Serves request (reply wordBytes (request.address - base) request bytes) slot count after ∧
      Sits size wordBytes base (updated wordBytes (request.address - base) request bytes)
        after.agent := by
  generalize held : slot.agent = agent at sits
  obtain @⟨endpoint, sram, device, based, sized, width, holds⟩ := sits
  induction left : endpoint.latency - endpoint.waited generalizing endpoint slot with
  | zero =>
    subst based sized width holds
    have due : ¬ endpoint.waited < endpoint.latency := by omega
    obtain ⟨after, performed, size, width, contents⟩ := perform_sram inside aligned narrow
    have ticks : endpoint.tick (.waiting request) =
        ({ endpoint with
            device := .sram after
            waited := 0
            accesses := endpoint.accesses + 1 },
          .answered request (reply sram.wordBytes (request.address - endpoint.base) request
            sram.memory.readByte)) := by
      simp only [Endpoint.tick, Simple.Link.awaiting?, if_neg due, device, performed]
      rfl
    obtain ⟨following, goes, answered, moves⟩ := tickSlot_device held waits ticks
    refine ⟨0, following, .answers waits moves answered, ?_⟩
    rw [goes]
    exact .intro rfl rfl size width contents
  | succ left ih =>
    have early : endpoint.waited < endpoint.latency := by omega
    have ticks : endpoint.tick (.waiting request) =
        ({ endpoint with waited := endpoint.waited + 1 }, .waiting request) := by
      simp only [Endpoint.tick, Simple.Link.awaiting?, if_pos early]
    obtain ⟨following, goes, waiting, moves⟩ := tickSlot_device held waits ticks
    obtain ⟨count, after, serves, sits⟩ := ih waiting (by exact device) (by exact based)
      goes (by dsimp only; omega)
    exact ⟨count + 1, after, .waits waits moves serves, sits⟩

/-- A memory on the simple bus is a store of the words in its window. -/
theorem sram_store (size wordBytes : Nat) (base : Address) (narrow : wordBytes ≤ 16) :
    Store wordBytes
      (fun word => (word - base).toNat < size ∧ (word - base).alignDown wordBytes = word - base)
      (fun word => word - base) (Sits size wordBytes base) where
  settled := by
    rintro bytes _ ⟨_, _, _, _, _⟩
    rfl
  waits := by
    intro bytes slot sits settled
    generalize held : slot.agent = agent at sits
    obtain @⟨endpoint, sram, device, based, sized, width, holds⟩ := sits
    have ticks : endpoint.tick slot.link = (endpoint, slot.link) := by
      unfold Endpoint.tick
      rw [settled]
    obtain ⟨following, goes, link, moves⟩ := tickSlot_device held rfl ticks
    refine ⟨following, link, ?_, moves⟩
    rw [goes]
    exact .intro device based sized width holds
  serves := fun _ _ sits waits served => sits.serves narrow waits served.1 served.2

theorem sram_keepsApart (size : Nat) {wordBytes : Nat} (base : Address) (cell : IsCell wordBytes) :
    KeepsApart wordBytes
      (fun word => (word - base).toNat < size ∧ (word - base).alignDown wordBytes = word - base)
      (fun word => word - base) := by
  intro address other _ _ same
  have lane := Nat.mod_lt address.toNat cell.positive
  have lane' := Nat.mod_lt other.toNat cell.positive
  have sums := congrArg BitVec.toNat same
  rw [BitVec.toNat_add, BitVec.toNat_add, BitVec.toNat_ofNat, BitVec.toNat_ofNat,
    Nat.add_mod_mod, Nat.add_mod_mod, ← Nat.one_shiftLeft] at sums
  have offsets := mod_shift_of_le (by decide : 60 ≤ 64) sums
  rw [offset_from_base address base cell, offset_from_base other base cell, Nat.add_mod, offsets,
    ← Nat.add_mod]

end BusFabric.Fabric
