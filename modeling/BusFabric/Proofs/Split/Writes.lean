import BusFabric.Proofs.Bridge.InboundHalts
import BusFabric.Proofs.Split.Beats
import BusFabric.Proofs.Word.Lanes

set_option autoImplicit false

namespace BusFabric.Split

/-- The beat holds the first `bytes` bytes of a datum from lane `low` on, with exactly their lanes
enabled. Bytes past the last lane are lost. -/
structure WriteBeat.Carries (beat : WriteBeat) (datum : Data) (low bytes : Nat) : Prop where
  strobe : ∀ lane < 16, beat.strobe.selects lane = decide (low ≤ lane ∧ lane < low + bytes)
  data : ∀ lane < 16, beat.data.lane lane =
    if low ≤ lane ∧ lane < low + bytes then datum.lane (lane - low) else 0

theorem Op.writeBeat_carries (burst : AddressBeat) (busBytes count index : Nat) (datum : Data) :
    (Op.writeBeat burst busBytes count index datum).Carries datum
      (burst.beatLane index busBytes) burst.beatBytes := by
  generalize place : burst.beatLane index busBytes = low
  constructor
  · intro lane inside
    unfold Op.writeBeat
    dsimp only
    rw [place]
    exact Strobe.selects_full_shiftLeft _ low inside
  · intro lane inside
    unfold Op.writeBeat
    dsimp only
    rw [place]
    by_cases above : low ≤ lane
    · obtain ⟨offset, rfl⟩ := Nat.exists_eq_add_of_le above
      rw [Data.lane_shiftLeft _ inside, Data.lane_truncate, Nat.add_sub_cancel_left]
      simp only [Nat.le_add_right, Nat.add_lt_add_iff_left, true_and]
    · rw [Data.lane_shiftLeft_of_lt _ (by omega : lane < low), if_neg (fun range => above range.1)]

structure WriteOf (id : BitVec 32) (address : Address) (size : BitVec 8) (mode : BurstMode)
    (data : List Data) (busBytes : Nat) (burst : AddressBeat) (beats : List WriteBeat) : Prop where
  length : beats.length = min data.length maxBeats
  announced : burst.beats = max 1 beats.length
  header : burst.id = id ∧ burst.address = address ∧ burst.size = size ∧ burst.mode = mode
  last : ∀ (index : Nat) (beat : WriteBeat), beats[index]? = some beat →
    beat.last = decide (index + 1 = beats.length)
  carries : ∀ (index : Nat) (beat : WriteBeat), beats[index]? = some beat →
    ∃ datum, data[index]? = some datum ∧
      beat.Carries datum (burst.beatLane index busBytes) burst.beatBytes

variable {id : BitVec 32} {address : Address} {size : BitVec 8} {mode : BurstMode}
  {data : List Data} {busBytes : Nat} {burst : AddressBeat} {beats : List WriteBeat}

theorem Op.writeBurst_writeOf (id : BitVec 32) (address : Address) (size : BitVec 8)
    (mode : BurstMode) (data : List Data) (busBytes : Nat) :
    ∃ burst beats, Op.writeBurst id address size mode data busBytes = .write burst beats ∧
      WriteOf id address size mode data busBytes burst beats := by
  refine ⟨_, _, rfl, ?_⟩
  have count : (data.take maxBeats).length = min data.length maxBeats := by
    rw [List.length_take, Nat.min_comm]
  constructor
  case header => exact ⟨rfl, rfl, rfl, rfl⟩
  case length => rw [List.length_mapIdx, count]
  case announced =>
    rw [List.length_mapIdx, count]
    unfold AddressBeat.beats AddressBeat.incr maxBeats
    dsimp only
    rw [BitVec.toNat_ofNat]
    omega
  case last =>
    intro index beat found
    rw [List.getElem?_mapIdx, Option.map_eq_some_iff] at found
    obtain ⟨datum, _, rfl⟩ := found
    rw [List.length_mapIdx]
    rfl
  case carries =>
    intro index beat found
    rw [List.getElem?_mapIdx, Option.map_eq_some_iff] at found
    obtain ⟨datum, taken, rfl⟩ := found
    rw [List.getElem?_take, Option.ite_none_right_eq_some] at taken
    exact ⟨datum, taken.2, Op.writeBeat_carries _ busBytes _ index datum⟩

namespace WriteOf

variable (written : WriteOf id address size mode data busBytes burst beats)

include written

/-- Only a write of no data lacks a beat that its address announces. -/
theorem length_eq_beats_iff : beats.length = burst.beats ↔ data ≠ [] := by
  have cut := written.length
  have announced := written.announced
  unfold maxBeats at cut
  rw [← List.length_pos_iff]
  omega

/-- On a port that carries its address a write of some data is legal as a whole. -/
theorem isLegal_iff {protocol : Protocol} (suits : burst.Suits protocol busBytes) :
    (Op.write burst beats).IsLegal protocol busBytes ↔ data ≠ [] := by
  rw [← written.length_eq_beats_iff]
  constructor
  · intro legal
    exact legal.isWhole
  · intro whole
    refine ⟨suits, whole, ?_⟩
    intro _ index beat found
    rw [← whole]
    exact written.last index beat found

end WriteOf

/-- The lanes of a beat that a bus can carry lie on that bus. -/
theorem AddressBeat.Suits.beatLane_add_le {protocol : Protocol}
    (suits : burst.Suits protocol busBytes) (bus : busBytes ∈ [1, 2, 4, 8, 16]) (index : Nat) :
    burst.beatLane index busBytes + burst.beatBytes ≤ busBytes := by
  have width : ∃ exponent ≤ 4, busBytes = 2 ^ exponent := by
    simp only [List.mem_cons, List.not_mem_nil, or_false] at bus
    rcases bus with rfl | rfl | rfl | rfl | rfl
    · exact ⟨0, by decide, rfl⟩
    · exact ⟨1, by decide, rfl⟩
    · exact ⟨2, by decide, rfl⟩
    · exact ⟨3, by decide, rfl⟩
    · exact ⟨4, by decide, rfl⟩
  obtain ⟨exponent, small, rfl⟩ := width
  have narrow : burst.size.toNat ≤ exponent :=
    (Nat.pow_le_pow_iff_right (by decide)).mp suits.size
  have bytes := AddressBeat.beatBytes_eq (Nat.le_trans narrow small)
  have cell : IsCell burst.beatBytes := ⟨burst.size.toNat, by omega, bytes⟩
  have whole : burst.beatBytes ∣ 2 ^ exponent := by
    rw [bytes, Nat.one_shiftLeft]
    exact Nat.pow_dvd_pow 2 narrow
  have aligned : burst.beatBytes ∣ burst.beatLane index (2 ^ exponent) :=
    (Nat.dvd_mod_iff whole).mpr (Address.dvd_alignDown _ cell)
  have below : burst.beatLane index (2 ^ exponent) < 2 ^ exponent :=
    Nat.mod_lt _ (Nat.two_pow_pos _)
  exact add_le_of_dvd_of_lt aligned whole below

/-- A write burst is its data, cut to the longest burst: each datum lies on the lanes of its
address, all of them enabled and no others, and the last beat alone is marked. It has the beats
that its address announces exactly if there are any data, and then a port that carries its address
finds it legal. -/
theorem write_bursts_carry_their_data (id : BitVec 32) (address : Address) (size : BitVec 8)
    (mode : BurstMode) (data : List Data) {busBytes : Nat} (bus : busBytes ∈ [1, 2, 4, 8, 16]) :
    ∃ burst beats, Op.writeBurst id address size mode data busBytes = .write burst beats ∧
      WriteOf id address size mode data busBytes burst beats ∧
      (beats.length = burst.beats ↔ data ≠ []) ∧
      ∀ protocol, burst.Suits protocol busBytes →
        ((Op.write burst beats).IsLegal protocol busBytes ↔ data ≠ []) ∧
        ∀ index, burst.beatLane index busBytes + burst.beatBytes ≤ busBytes := by
  obtain ⟨burst, beats, same, written⟩ :=
    Op.writeBurst_writeOf id address size mode data busBytes
  refine ⟨burst, beats, same, written, written.length_eq_beats_iff, ?_⟩
  intro protocol suits
  exact ⟨written.isLegal_iff suits, suits.beatLane_add_le bus⟩

/-- Two halfwords from address 0x1002 on, on a bus of four bytes: the second one lies on the low
lanes again, and is marked. -/
theorem halfwords_lie_on_their_lanes :
    4 ∈ [1, 2, 4, 8, 16] ∧
      ∃ burst beats, Op.writeBurst 7 0x1002 1 .incr [0xBBAA, 0x11DDCC] 4 = .write burst beats ∧
        beats.length = burst.beats ∧ ∀ beat, beats[1]? = some beat →
          beat.last = true ∧ beat.strobe.selects 1 = true ∧ beat.strobe.selects 2 = false ∧
            beat.data.lane 1 = 0xDD ∧ beat.data.lane 2 = 0 := by
  obtain ⟨burst, beats, same, written, whole, _⟩ := write_bursts_carry_their_data 7 0x1002 1 .incr
    [0xBBAA, 0x11DDCC] (by decide : 4 ∈ [1, 2, 4, 8, 16])
  refine ⟨by decide, burst, beats, same, whole.mpr (by decide), fun beat found => ?_⟩
  obtain ⟨datum, given, carries⟩ := written.carries 1 beat found
  obtain rfl := Option.some.inj given
  obtain ⟨rfl, rfl⟩ := Op.write.inj same
  exact ⟨written.last 1 beat found, carries.strobe 1 (by decide), carries.strobe 2 (by decide),
    carries.data 1 (by decide), carries.data 2 (by decide)⟩

/-- A write of no data announces a beat and has none. -/
theorem empty_write_announces_a_beat :
    ∃ burst, Op.writeBurst 0 0 2 .incr [] 4 = .write burst [] ∧ burst.beats = 1 ∧
      burst.Suits .wideSplit 4 :=
  ⟨_, rfl, rfl, ⟨by decide, (nomatch ·), fun _ => rfl⟩⟩

end BusFabric.Split
