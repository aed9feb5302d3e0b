import BusFabric.Bridge.Outbound
import BusFabric.Proofs.Bridge.Translation
import BusFabric.Proofs.Memory.Words
import BusFabric.Proofs.Split.Beats
import BusFabric.Split.Ram

set_option autoImplicit false

namespace BusFabric.Bridge.Outbound

open Simple (Request)
open Split (AddressBeat ReadBeat WriteBeat)

/-- The bytes of one simple-bus word lie together in the split-bus address space. -/
structure Reach (start : Address) (simpleBytes splitBytes : Nat) : Prop where
  split : IsCell splitBytes
  split_le : splitBytes ≤ 16
  positive : 0 < simpleBytes
  simple_le : simpleBytes ≤ 16
  below : start.toNat + simpleBytes ≤ UInt64.size

/-- How many beats reach all bytes of the word. -/
def beatCount (start : Address) (simpleBytes splitBytes : Nat) : Nat :=
  (start.toNat % splitBytes + (simpleBytes - 1)) / splitBytes + 1

/-- How many bytes of the word the first `beats` beats cover. -/
def covered (start : Address) (simpleBytes splitBytes beats : Nat) : Nat :=
  min simpleBytes (beats * splitBytes - start.toNat % splitBytes)

/-- Memory contents with the first `count` bytes of a word written by a request. -/
def overlaid (count : Nat) (start : Address) (request : Request) (old : Address → Byte)
    (address : Address) : Byte :=
  if (address - start).toNat < count ∧ request.select.selects (address - start).toNat then
    request.data.lane (address - start).toNat
  else old address

def beatStart (start : Address) (splitBytes beat : Nat) : Address :=
  start.alignDown splitBytes + BitVec.ofNat 64 (beat * splitBytes)

/-- The word whose first `count` bytes are those of a memory, and zero above. -/
def gatheredWord (count : Nat) (start : Address) (bytes : Address → Byte) : Data :=
  Data.ofLanes fun lane => if lane < count then bytes (start + BitVec.ofNat 64 lane) else 0

variable {start : Address} {simpleBytes splitBytes : Nat}

theorem overlaid_zero (start : Address) (request : Request) (old : Address → Byte) :
    overlaid 0 start request old = old := by
  funext address
  unfold overlaid
  rw [if_neg fun low => Nat.not_lt_zero _ low.1]

theorem covered_zero (start : Address) (simpleBytes splitBytes : Nat) :
    covered start simpleBytes splitBytes 0 = 0 := by
  unfold covered
  omega

theorem covered_le_succ (start : Address) (simpleBytes splitBytes beat : Nat) :
    covered start simpleBytes splitBytes beat ≤
      covered start simpleBytes splitBytes (beat + 1) := by
  unfold covered
  rw [Nat.add_mul, Nat.one_mul]
  omega

theorem covered_le (start : Address) (simpleBytes splitBytes beat : Nat) :
    covered start simpleBytes splitBytes beat ≤ simpleBytes :=
  Nat.min_le_left _ _

/-- A burst over one word is far shorter than the longest burst. -/
theorem beatCount_le (start : Address) (cell : IsCell splitBytes) (narrow : splitBytes ≤ 16)
    (word : simpleBytes ≤ 16) : beatCount start simpleBytes splitBytes ≤ 32 := by
  have small := Nat.mod_lt start.toNat cell.positive
  have quotient := Nat.div_le_self (start.toNat % splitBytes + (simpleBytes - 1)) splitBytes
  unfold beatCount
  omega

namespace Reach

theorem skipped (reach : Reach start simpleBytes splitBytes) :
    (start - start.alignDown splitBytes).toNat = start.toNat % splitBytes := by
  have parts := Address.alignDown_add_mod start reach.split
  have below := start.toNat_lt
  have size : UInt64.size = 18446744073709551616 := rfl
  rw [BitVec.toNat_sub]
  omega

theorem beatCount_le (reach : Reach start simpleBytes splitBytes) :
    beatCount start simpleBytes splitBytes ≤ 32 :=
  Outbound.beatCount_le start reach.split reach.split_le reach.simple_le

/-- The beats of the burst cover the word, and no beat is idle. -/
theorem covered_beatCount (reach : Reach start simpleBytes splitBytes) :
    covered start simpleBytes splitBytes (beatCount start simpleBytes splitBytes) =
      simpleBytes := by
  have word := reach.positive
  have parts := Nat.div_add_mod (start.toNat % splitBytes + (simpleBytes - 1)) splitBytes
  have rest := Nat.mod_lt (start.toNat % splitBytes + (simpleBytes - 1)) reach.split.positive
  unfold covered beatCount
  rw [Nat.add_mul, Nat.one_mul, Nat.mul_comm]
  omega

/-- Byte `index` of the word is moved by beat `beat` exactly if that beat covers it first. -/
theorem beat_eq_iff (reach : Reach start simpleBytes splitBytes) {index : Nat}
    (inside : index < simpleBytes) (beat : Nat) :
    (start.toNat % splitBytes + index) / splitBytes = beat ↔
      covered start simpleBytes splitBytes beat ≤ index ∧
        index < covered start simpleBytes splitBytes (beat + 1) := by
  rw [Nat.div_eq_iff reach.split.positive]
  unfold covered
  rw [Nat.add_mul, Nat.one_mul]
  have positive := reach.split.positive
  omega

/-- The bytes of beat `beat` stay in the address space. -/
theorem toNat_beatStart (reach : Reach start simpleBytes splitBytes) {beat : Nat}
    (inside : beat < beatCount start simpleBytes splitBytes) :
    (beatStart start splitBytes beat).toNat =
      (start.alignDown splitBytes).toNat + beat * splitBytes := by
  have parts := Address.alignDown_add_mod start reach.split
  have bound : beat * splitBytes ≤ start.toNat % splitBytes + (simpleBytes - 1) := by
    have quotient : beat ≤ (start.toNat % splitBytes + (simpleBytes - 1)) / splitBytes :=
      Nat.le_of_lt_succ inside
    exact Nat.le_trans (Nat.mul_le_mul_right splitBytes quotient) (Nat.div_mul_le_self _ _)
  have below := reach.below
  have word := reach.positive
  exact Address.toNat_add_ofNat (by omega)

theorem dvd_beatStart (reach : Reach start simpleBytes splitBytes) {beat : Nat}
    (inside : beat < beatCount start simpleBytes splitBytes) :
    splitBytes ∣ (beatStart start splitBytes beat).toNat := by
  rw [reach.toNat_beatStart inside]
  exact Nat.dvd_add (Address.dvd_alignDown start reach.split) (Nat.dvd_mul_left _ _)

theorem alignDown_beatStart (reach : Reach start simpleBytes splitBytes) {beat : Nat}
    (inside : beat < beatCount start simpleBytes splitBytes) :
    (beatStart start splitBytes beat).alignDown splitBytes = beatStart start splitBytes beat := by
  apply BitVec.eq_of_toNat_eq
  rw [Address.toNat_alignDown _ reach.split, Nat.mod_eq_zero_of_dvd (reach.dvd_beatStart inside)]
  rfl

/-- The byte of the word that lies in a lane of a beat, by its address. -/
theorem place (reach : Reach start simpleBytes splitBytes) {index : Nat}
    (inside : index < simpleBytes) :
    (start.toNat % splitBytes + index) / splitBytes < beatCount start simpleBytes splitBytes ∧
      beatStart start splitBytes ((start.toNat % splitBytes + index) / splitBytes) +
          BitVec.ofNat 64 ((start.toNat % splitBytes + index) % splitBytes) =
        start + BitVec.ofNat 64 index := by
  have early : (start.toNat % splitBytes + index) / splitBytes <
      beatCount start simpleBytes splitBytes := by
    unfold beatCount
    exact Nat.lt_succ_of_le (Nat.div_le_div_right (by omega))
  refine ⟨early, BitVec.eq_of_toNat_eq ?_⟩
  have first := reach.toNat_beatStart early
  have parts := Address.alignDown_add_mod start reach.split
  have split := Nat.div_add_mod (start.toNat % splitBytes + index) splitBytes
  rw [Nat.mul_comm] at split
  have below := reach.below
  rw [Address.toNat_add_ofNat (by omega), Address.toNat_add_ofNat (by omega)]
  omega

end Reach

theorem mem_burstLanes {skipped : Nat} {lane : BurstLane} :
    lane ∈ burstLanes splitBytes simpleBytes skipped ↔
      ∃ index, index < simpleBytes ∧
        lane = ⟨(skipped + index) / splitBytes, (skipped + index) % splitBytes, index⟩ := by
  unfold burstLanes
  rw [List.mem_map]
  constructor
  · rintro ⟨index, mem, rfl⟩
    exact ⟨index, List.mem_range.mp mem, rfl⟩
  · rintro ⟨index, inside, rfl⟩
    exact ⟨index, List.mem_range.mpr inside, rfl⟩

/-- A place in the burst belongs to one byte. -/
theorem place_inj {skipped first second : Nat}
    (beat : (skipped + first) / splitBytes = (skipped + second) / splitBytes)
    (lane : (skipped + first) % splitBytes = (skipped + second) % splitBytes) : first = second := by
  have here := Nat.div_add_mod (skipped + first) splitBytes
  have there := Nat.div_add_mod (skipped + second) splitBytes
  rw [beat, lane] at here
  omega

section

variable {skipped beats beat : Nat} (request : Request)

/-- A write beat enables a lane if a selected byte lies there. -/
theorem selects_writeBeat (narrow : splitBytes ≤ 16) {lane : Nat} (inside : lane < splitBytes) :
    (writeBeat request (burstLanes splitBytes simpleBytes skipped) beats beat).strobe.selects lane ↔
      ∃ index, index < simpleBytes ∧ (skipped + index) / splitBytes = beat ∧
        (skipped + index) % splitBytes = lane ∧ request.select.selects index := by
  unfold writeBeat
  dsimp only
  rw [Strobe.selects_foldl_select _ _ _ (by omega), Strobe.selects_zero, Bool.false_or,
    List.any_eq_true]
  simp only [List.mem_filter, mem_burstLanes, Bool.and_eq_true, decide_eq_true_eq]
  constructor
  · rintro ⟨_, ⟨⟨index, within, rfl⟩, here, on⟩, same⟩
    exact ⟨index, within, here, same, on⟩
  · rintro ⟨index, within, here, same, on⟩
    exact ⟨_, ⟨⟨index, within, rfl⟩, here, on⟩, same⟩

/-- A write beat carries the selected bytes in their lanes. -/
theorem lane_writeBeat {index : Nat} (within : index < simpleBytes)
    (narrow : (skipped + index) % splitBytes < 16)
    (here : (skipped + index) / splitBytes = beat) (on : request.select.selects index = true) :
    (writeBeat request (burstLanes splitBytes simpleBytes skipped) beats beat).data.lane
      ((skipped + index) % splitBytes) = request.data.lane index := by
  unfold writeBeat
  apply Data.lane_foldl_setLane_of_mem _ _ _ _ narrow
  · intro item mem same
    simp only [List.mem_filter, mem_burstLanes, Bool.and_eq_true, decide_eq_true_eq] at mem
    obtain ⟨⟨other, _, rfl⟩, there, _⟩ := mem
    have equal := place_inj (there.trans here.symm) same
    dsimp only
    rw [equal]
  · refine ⟨⟨(skipped + index) / splitBytes, (skipped + index) % splitBytes, index⟩, ?_, rfl⟩
    simp only [List.mem_filter, mem_burstLanes, Bool.and_eq_true, decide_eq_true_eq]
    exact ⟨⟨index, within, rfl⟩, here, on⟩

end

/-- Storing one beat writes the bytes that it covers. -/
theorem Reach.store_beat (reach : Reach start simpleBytes splitBytes) (request : Request)
    {memory : Memory} {old : Address → Byte} {beat : Nat} (beats : Nat)
    (held : memory.readByte =
      overlaid (covered start simpleBytes splitBytes beat) start request old) :
    (memory.writeWord (beatStart start splitBytes beat)
      (writeBeat request (burstLanes splitBytes simpleBytes (start.toNat % splitBytes)) beats
        beat).data
      (writeBeat request (burstLanes splitBytes simpleBytes (start.toNat % splitBytes)) beats
        beat).strobe splitBytes).readByte =
      overlaid (covered start simpleBytes splitBytes (beat + 1)) start request old := by
  funext address
  rw [Memory.readByte_writeWord _ _ _ _ _ reach.split_le, held]
  -- the lane of the beat that an enabled byte lies in, and back
  have lanes : ∀ index, index < simpleBytes →
      (start.toNat % splitBytes + index) / splitBytes = beat →
      (address - start).toNat = index →
        (address - beatStart start splitBytes beat).toNat =
          (start.toNat % splitBytes + index) % splitBytes := by
    intro index within here gap
    obtain ⟨_, same⟩ := reach.place within
    have size : UInt64.size = 18446744073709551616 := rfl
    have word := reach.simple_le
    have lane := Nat.mod_lt (start.toNat % splitBytes + index) reach.split.positive
    have narrow := reach.split_le
    rw [here, (Address.add_ofNat_eq_iff (by omega)).mpr gap] at same
    exact (Address.add_ofNat_eq_iff (by omega)).mp same
  unfold overlaid
  by_cases chosen : (address - beatStart start splitBytes beat).toNat < splitBytes ∧
      (writeBeat request (burstLanes splitBytes simpleBytes (start.toNat % splitBytes)) beats
        beat).strobe.selects (address - beatStart start splitBytes beat).toNat = true
  · obtain ⟨index, within, here, lane, on⟩ :=
      (selects_writeBeat request reach.split_le chosen.1).mp chosen.2
    have gap : (address - start).toNat = index := by
      obtain ⟨_, same⟩ := reach.place within
      have size : UInt64.size = 18446744073709551616 := rfl
      have word := reach.simple_le
      have narrow := reach.split_le
      rw [here, lane] at same
      have back := (Address.add_ofNat_eq_iff (by omega)).mpr
        (rfl : (address - beatStart start splitBytes beat).toNat = _)
      rw [back] at same
      exact (Address.add_ofNat_eq_iff (by omega)).mp same.symm
    have order := (reach.beat_eq_iff within beat).mp here
    rw [if_pos chosen, gap, if_pos ⟨order.2, on⟩, ← lane]
    have narrow := reach.split_le
    exact lane_writeBeat request within (by omega) here on
  · rw [if_neg chosen]
    by_cases before : (address - start).toNat < covered start simpleBytes splitBytes beat ∧
        request.select.selects (address - start).toNat = true
    · have later := covered_le_succ start simpleBytes splitBytes beat
      rw [if_pos before, if_pos ⟨by omega, before.2⟩]
    · rw [if_neg before, if_neg]
      rintro ⟨low, on⟩
      have within := Nat.lt_of_lt_of_le low (covered_le start simpleBytes splitBytes _)
      have late : covered start simpleBytes splitBytes beat ≤ (address - start).toNat := by
        rcases Nat.lt_or_ge (address - start).toNat
          (covered start simpleBytes splitBytes beat) with early | late
        · exact absurd ⟨early, on⟩ before
        · exact late
      have here := (reach.beat_eq_iff within beat).mpr ⟨late, low⟩
      have lane := lanes _ within here rfl
      apply chosen
      rw [lane]
      have inLane := Nat.mod_lt (start.toNat % splitBytes + (address - start).toNat)
        reach.split.positive
      exact ⟨inLane, (selects_writeBeat request reach.split_le inLane).mpr
        ⟨_, within, here, rfl, on⟩⟩

theorem Reach.gather_beat (reach : Reach start simpleBytes splitBytes) {memory : Memory}
    {carrier : Carrier} {beat : ReadBeat}
    (lanes : carrier.lanes = burstLanes splitBytes simpleBytes (start.toNat % splitBytes))
    (data : beat.data =
      memory.readWord (beatStart start splitBytes carrier.received) splitBytes)
    (held : carrier.data =
      gatheredWord (covered start simpleBytes splitBytes carrier.received) start memory.readByte) :
    carrier.gather beat =
      gatheredWord (covered start simpleBytes splitBytes (carrier.received + 1)) start
        memory.readByte := by
  apply Data.ext_lanes
  intro lane low
  unfold Carrier.gather
  rw [lanes, held, data]
  unfold gatheredWord
  rw [Data.lane_ofLanes _ low]
  have later := covered_le_succ start simpleBytes splitBytes carrier.received
  have most := covered_le start simpleBytes splitBytes (carrier.received + 1)
  by_cases here : lane < simpleBytes ∧
      (start.toNat % splitBytes + lane) / splitBytes = carrier.received
  · have order := (reach.beat_eq_iff here.1 carrier.received).mp here.2
    rw [if_pos order.2]
    apply Data.lane_foldl_setLane_of_mem _ _ _ _ low
    · intro item mem same
      simp only [List.mem_filter, mem_burstLanes, decide_eq_true_eq] at mem
      obtain ⟨⟨index, within, rfl⟩, there⟩ := mem
      dsimp only at same there ⊢
      subst same
      have narrow := reach.split_le
      have inLane := Nat.mod_lt (start.toNat % splitBytes + index) reach.split.positive
      rw [Memory.lane_readWord _ _ narrow, if_pos inLane, ← there, (reach.place within).2]
    · refine ⟨⟨(start.toNat % splitBytes + lane) / splitBytes,
        (start.toNat % splitBytes + lane) % splitBytes, lane⟩, ?_, rfl⟩
      simp only [List.mem_filter, mem_burstLanes, decide_eq_true_eq]
      exact ⟨⟨lane, here.1, rfl⟩, here.2⟩
  · rw [Data.lane_foldl_setLane_of_not_mem, Data.lane_ofLanes _ low]
    · by_cases early : lane < covered start simpleBytes splitBytes carrier.received
      · rw [if_pos early, if_pos (by omega)]
      · rw [if_neg early, if_neg]
        intro before
        exact here ⟨by omega, (reach.beat_eq_iff (by omega) _).mpr ⟨by omega, before⟩⟩
    · intro item mem same
      simp only [List.mem_filter, mem_burstLanes, decide_eq_true_eq] at mem
      obtain ⟨⟨index, within, rfl⟩, there⟩ := mem
      dsimp only at same there
      subst same
      exact here ⟨within, there⟩

/-- The beats of the burst are as many as it takes to reach the word, also where the word goes past
the end of the address space. -/
theorem beatCount_eq (start : Address) (cell : IsCell splitBytes) (narrow : splitBytes ≤ 16)
    (word : simpleBytes ≤ 16) :
    ((start + BitVec.ofNat 64 (simpleBytes - 1)).alignDown splitBytes -
        start.alignDown splitBytes).toNat / splitBytes + 1 =
      beatCount start simpleBytes splitBytes := by
  have offset := Nat.mod_lt start.toNat cell.positive
  have moved : start + BitVec.ofNat 64 (simpleBytes - 1) - start.alignDown splitBytes =
      BitVec.ofNat 64 (start.toNat % splitBytes + (simpleBytes - 1)) := by
    calc start + BitVec.ofNat 64 (simpleBytes - 1) - start.alignDown splitBytes
        = start.alignDown splitBytes + BitVec.ofNat 64 (start.toNat % splitBytes) +
            BitVec.ofNat 64 (simpleBytes - 1) - start.alignDown splitBytes := by
          rw [Address.alignDown_add_offset start cell]
      _ = BitVec.ofNat 64 (start.toNat % splitBytes + (simpleBytes - 1)) := by
          rw [BitVec.add_assoc, BitVec.add_comm, BitVec.add_sub_cancel, BitVec.ofNat_add]
  have small : (BitVec.ofNat 64 (start.toNat % splitBytes + (simpleBytes - 1))).toNat =
      start.toNat % splitBytes + (simpleBytes - 1) := Nat.mod_eq_of_lt (by omega)
  unfold beatCount
  rw [← Address.alignDown_sub cell _ (Address.dvd_alignDown start cell), moved,
    Address.toNat_alignDown _ cell, small, ← Nat.div_eq_sub_mod_div]

theorem Reach.beats_eq (reach : Reach start simpleBytes splitBytes) :
    ((start + BitVec.ofNat 64 (simpleBytes - 1)).alignDown splitBytes -
        start.alignDown splitBytes).toNat / splitBytes + 1 =
      beatCount start simpleBytes splitBytes :=
  beatCount_eq start reach.split reach.split_le reach.simple_le

/-- The address of a burst announces as many data beats as a write has. -/
theorem beats_plan (bridge : Outbound) (regular : bridge.conversion.IsRegular)
    (request : Request) :
    (bridge.plan request).beats.length =
      if request.write then (bridge.plan request).burst.beats else 0 := by
  unfold plan
  dsimp only
  generalize bridge.conversion.translate (request.address - bridge.windowBase) = start
  have few := beatCount_le start regular.splitBytes regular.splitBytes_le regular.simpleBytes_le
  have some_ : 0 < beatCount start bridge.conversion.simpleBytes bridge.conversion.splitBytes :=
    Nat.succ_pos _
  have longest : Split.maxBeats = 256 := rfl
  rw [beatCount_eq start regular.splitBytes regular.splitBytes_le regular.simpleBytes_le,
    AddressBeat.beats_incr _ _ _ some_ (by omega)]
  split
  · rw [List.length_map, List.length_range]
  · rfl

/-- Where the bytes of a request's word start on the split bus. -/
def wordStart (bridge : Outbound) (request : Request) : Address :=
  bridge.conversion.translate (request.address - bridge.windowBase)

def carrierBurst (id : BitVec 32) (start : Address) (simpleBytes splitBytes : Nat) : AddressBeat :=
  .incr id (start.alignDown splitBytes) (BitVec.ofNat 8 splitBytes.log2)
    (beatCount start simpleBytes splitBytes)

theorem plan_eq (bridge : Outbound) (request : Request)
    (reach : Reach (bridge.wordStart request) bridge.conversion.simpleBytes
      bridge.conversion.splitBytes) :
    bridge.plan request =
      { write := request.write
        burst := carrierBurst bridge.nextId (bridge.wordStart request) bridge.conversion.simpleBytes
          bridge.conversion.splitBytes
        beats := if request.write then
          (List.range (beatCount (bridge.wordStart request) bridge.conversion.simpleBytes
            bridge.conversion.splitBytes)).map
              (writeBeat request
                (burstLanes bridge.conversion.splitBytes bridge.conversion.simpleBytes
                  ((bridge.wordStart request).toNat % bridge.conversion.splitBytes))
                (beatCount (bridge.wordStart request) bridge.conversion.simpleBytes
                  bridge.conversion.splitBytes)) else []
        lanes := burstLanes bridge.conversion.splitBytes bridge.conversion.simpleBytes
          ((bridge.wordStart request).toNat % bridge.conversion.splitBytes) } := by
  have beats := reach.beats_eq
  have skipped := reach.skipped
  unfold wordStart at *
  unfold plan carrierBurst
  dsimp only
  rw [beats, skipped]

namespace Reach

theorem beats_carrierBurst (reach : Reach start simpleBytes splitBytes) (id : BitVec 32) :
    (carrierBurst id start simpleBytes splitBytes).beats =
      beatCount start simpleBytes splitBytes := by
  have few := reach.beatCount_le
  have longest : Split.maxBeats = 256 := rfl
  exact AddressBeat.beats_incr _ _ _ (Nat.succ_pos _) (by omega)

theorem beatBytes_carrierBurst (reach : Reach start simpleBytes splitBytes) (id : BitVec 32) :
    (carrierBurst id start simpleBytes splitBytes).beatBytes = splitBytes := by
  obtain ⟨exponent, _, bytes⟩ := reach.split
  have narrow := reach.split_le
  have few : exponent ≤ 4 := by
    rw [bytes, Nat.one_shiftLeft] at narrow
    exact (Nat.pow_le_pow_iff_right (by decide : 1 < 2)).mp narrow
  have log : splitBytes.log2 = exponent := by
    rw [bytes, Nat.one_shiftLeft, Nat.log2_two_pow]
  have size : (carrierBurst id start simpleBytes splitBytes).size.toNat = exponent := by
    unfold carrierBurst AddressBeat.incr
    dsimp only
    rw [log, BitVec.toNat_ofNat, Nat.mod_eq_of_lt (by omega)]
  rw [AddressBeat.beatBytes_eq (by omega), size, bytes]

theorem beatAddress_carrierBurst (reach : Reach start simpleBytes splitBytes) (id : BitVec 32)
    (beat : Nat) :
    (carrierBurst id start simpleBytes splitBytes).beatAddress beat =
      beatStart start splitBytes beat := by
  have some_ : 0 < beatCount start simpleBytes splitBytes := Nat.succ_pos _
  have bytes := reach.beatBytes_carrierBurst id
  have first : (beatStart start splitBytes 0).alignDown splitBytes = beatStart start splitBytes 0 :=
    reach.alignDown_beatStart some_
  have zero : beatStart start splitBytes 0 = start.alignDown splitBytes := by
    unfold beatStart
    rw [Nat.zero_mul]
    exact BitVec.add_zero _
  rw [zero] at first
  unfold AddressBeat.beatAddress
  rw [bytes]
  show (if beat = 0 then start.alignDown splitBytes
    else (start.alignDown splitBytes).alignDown splitBytes +
      BitVec.ofNat 64 (beat * splitBytes)) = _
  split
  · rename_i none_
    rw [none_, zero]
  · rw [first]
    rfl

end Reach

end BusFabric.Bridge.Outbound
