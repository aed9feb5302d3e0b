import BusFabric.Proofs.Word.Cells
import BusFabric.Split.Beat

set_option autoImplicit false

namespace BusFabric

/-- Counted on from anywhere, round a number of places, no two turns before that number come to the
same place. -/
theorem turn_inj {count first one another : Nat} (inside : one < count) (within : another < count)
    (same : (first + one) % count = (first + another) % count) : one = another := by
  have ordered {low high : Nat} (le : low ≤ high) (below : high < count)
      (meet : (first + high) % count = (first + low) % count) : low = high := by
    have gap := Nat.sub_mod_eq_zero_of_mod_eq meet
    rw [Nat.add_sub_add_left, Nat.mod_eq_of_lt (by omega)] at gap
    omega
  rcases Nat.le_total one another with le | ge
  · exact ordered le within same.symm
  · exact (ordered ge inside same).symm

namespace Split.AddressBeat

variable {burst : AddressBeat}

/-- The beats of a burst lie `offset` above a common base. -/
structure Spread (burst : AddressBeat) (base : Address) (offset : Nat → Nat) : Prop where
  start : ∀ beat < burst.beats, (burst.beatAddress beat).alignDown burst.beatBytes =
    base + BitVec.ofNat 64 (offset beat)
  aligned : ∀ beat < burst.beats, burst.beatBytes ∣ offset beat
  below : ∀ beat < burst.beats, offset beat + burst.beatBytes ≤ 4096
  injective : ∀ beat < burst.beats, ∀ other < burst.beats, offset beat = offset other →
    beat = other

theorem beats_le (burst : AddressBeat) : burst.beats ≤ 256 :=
  burst.len.isLt

theorem beats_incr (id : BitVec 32) (address : Address) (size : BitVec 8) {beats : Nat}
    (some_ : 1 ≤ beats) (few : beats ≤ maxBeats) : (incr id address size beats).beats = beats := by
  unfold incr AddressBeat.beats
  unfold maxBeats at few ⊢
  dsimp only
  rw [BitVec.toNat_ofNat]
  omega

theorem beatBytes_eq (narrow : burst.size.toNat ≤ 4) :
    burst.beatBytes = 1 <<< burst.size.toNat := by
  unfold beatBytes
  rw [if_pos (by omega)]

theorem beatBytes_isCell (size : burst.size.toNat < 32) : IsCell burst.beatBytes := by
  unfold beatBytes
  rw [if_pos size]
  exact ⟨burst.size.toNat, by omega, rfl⟩

theorem beatBytes_pos (burst : AddressBeat) : 0 < burst.beatBytes := by
  unfold beatBytes
  split
  · rw [Nat.one_shiftLeft]
    exact Nat.two_pow_pos _
  · decide

theorem beatBytes_lt (burst : AddressBeat) : burst.beatBytes < UInt32.size := by
  unfold beatBytes
  split
  · rename_i size
    have limit : UInt32.size = 2 ^ 32 := by decide
    rw [Nat.one_shiftLeft, limit]
    exact Nat.pow_lt_pow_right (by decide) size
  · decide

/-- The beats of an incrementing burst follow its aligned start, round the address space. -/
theorem alignDown_beatAddress_incr (cell : IsCell burst.beatBytes) (incr : burst.mode = .incr)
    (beat : Nat) :
    (burst.beatAddress beat).alignDown burst.beatBytes =
      burst.address.alignDown burst.beatBytes + BitVec.ofNat 64 (beat * burst.beatBytes) := by
  unfold beatAddress
  rw [incr]
  dsimp only
  by_cases first : beat = 0
  · subst first
    rw [if_pos rfl, Nat.zero_mul]
    exact (BitVec.add_zero _).symm
  · rw [if_neg first]
    exact Address.alignDown_of_dvd cell (Address.dvd_add cell (Address.dvd_alignDown _ cell)
      (Address.dvd_ofNat cell (Nat.dvd_mul_left _ _)))

theorem spread_incr (cell : IsCell burst.beatBytes) (narrow : burst.beatBytes ≤ 16)
    (incr : burst.mode = .incr) :
    Spread burst (burst.address.alignDown burst.beatBytes) (· * burst.beatBytes) where
  start := fun beat _ => alignDown_beatAddress_incr cell incr beat
  aligned := fun beat _ => Nat.dvd_mul_left _ _
  below := by
    intro beat inside
    have limit := burst.beats_le
    have last : (beat + 1) * burst.beatBytes ≤ 256 * 16 := Nat.mul_le_mul (by omega) narrow
    rw [Nat.add_mul, Nat.one_mul] at last
    exact last
  injective := fun _ _ _ _ same => Nat.eq_of_mul_eq_mul_right cell.positive same

/-- How many bytes all beats of the burst take together. -/
def block (burst : AddressBeat) : Nat :=
  burst.beatBytes * burst.beats

/-- The beats go round a block of the burst's own length, which starts at `lower`, a multiple of
that length. They visit its slots upward from slot `first`, which holds the start address, and turn
back to the lowest slot after the highest. -/
structure GoesRound (burst : AddressBeat) (lower : Address) (first : Nat) : Prop where
  aligned : burst.block ∣ lower.toNat
  inside : first < burst.beats
  holds : lower.toNat + first * burst.beatBytes ≤ burst.address.toNat ∧
    burst.address.toNat < lower.toNat + (first + 1) * burst.beatBytes
  visits : ∀ beat, (burst.beatAddress beat).toNat =
    lower.toNat + (first + beat) % burst.beats * burst.beatBytes

theorem cell_block (cell : IsCell burst.beatBytes) (legal : burst.beats ∈ [2, 4, 8, 16]) :
    IsCell burst.block := by
  have count : IsCell burst.beats ∧ burst.beats ≤ 16 := by
    simp only [List.mem_cons, List.not_mem_nil, or_false] at legal
    rcases legal with two | four | eight | sixteen
    · exact ⟨⟨1, by decide, two⟩, by omega⟩
    · exact ⟨⟨2, by decide, four⟩, by omega⟩
    · exact ⟨⟨3, by decide, eight⟩, by omega⟩
    · exact ⟨⟨4, by decide, sixteen⟩, by omega⟩
  have area := Nat.mul_le_mul (Nat.le_of_lt burst.beatBytes_lt) count.2
  exact cell.mul count.1 (Nat.lt_of_le_of_lt area (by decide))

theorem goesRound_wrap (cell : IsCell burst.beatBytes) (whole : IsCell burst.block)
    (wrap : burst.mode = .wrap) : ∃ lower first, GoesRound burst lower first := by
  have along : burst.beatBytes ∣ burst.block := Nat.dvd_mul_right _ _
  generalize start : burst.address.alignDown burst.beatBytes = aligned
  generalize lowest : aligned.alignDown burst.block = lower
  have offset := Address.alignDown_add_mod burst.address cell
  have within := Nat.mod_lt burst.address.toNat cell.positive
  have skipped := Address.alignDown_add_mod aligned whole
  have room := Nat.mod_lt aligned.toNat whole.positive
  rw [start] at offset
  rw [lowest] at skipped
  have edge : burst.block ∣ lower.toNat := lowest ▸ Address.dvd_alignDown aligned whole
  have place : burst.beatBytes ∣ aligned.toNat := start ▸ Address.dvd_alignDown _ cell
  obtain ⟨first, slot⟩ := (Nat.dvd_mod_iff along).mpr place
  rw [Nat.mul_comm] at slot
  have gap : (aligned - lower).toNat = first * burst.beatBytes := by
    rw [BitVec.toNat_sub_of_le (BitVec.le_def.mpr (by omega))]
    omega
  refine ⟨lower, first, edge, ?_, ⟨by omega, ?_⟩, ?_⟩
  · rw [slot, block, Nat.mul_comm] at room
    exact Nat.lt_of_mul_lt_mul_left room
  · rw [Nat.succ_mul]
    omega
  · intro beat
    have turn : (first * burst.beatBytes + beat * burst.beatBytes) % burst.block =
        (first + beat) % burst.beats * burst.beatBytes := by
      rw [← Nat.add_mul, block, Nat.mul_comm burst.beatBytes, Nat.mul_mod_mul_right]
    have short : (first + beat) % burst.beats * burst.beatBytes < burst.block := by
      rw [← turn]
      exact Nat.mod_lt _ whole.positive
    unfold beatAddress
    rw [wrap]
    dsimp only
    rw [start, ← block, lowest, gap, turn]
    exact Address.toNat_add_ofNat (Address.add_lt_of_dvd whole edge short)

theorem spread_wrap (cell : IsCell burst.beatBytes) (narrow : burst.beatBytes ≤ 16)
    (wrap : burst.mode = .wrap) (legal : burst.beats ∈ [2, 4, 8, 16]) :
    ∃ base offset, Spread burst base offset := by
  have whole := cell_block cell legal
  obtain ⟨lower, first, round⟩ := goesRound_wrap cell whole wrap
  have under : burst.beatBytes ∣ lower.toNat := Nat.dvd_trans (Nat.dvd_mul_right _ _) round.aligned
  have few : burst.beats ≤ 16 := by
    simp only [List.mem_cons, List.not_mem_nil, or_false] at legal
    omega
  have inside (beat : Nat) : (first + beat) % burst.beats < burst.beats :=
    Nat.mod_lt _ (Nat.succ_pos _)
  refine ⟨lower, fun beat => (first + beat) % burst.beats * burst.beatBytes, ?_, ?_, ?_, ?_⟩
  · intro beat _
    have place := round.visits beat
    have there : burst.beatAddress beat =
        lower + BitVec.ofNat 64 ((first + beat) % burst.beats * burst.beatBytes) := by
      apply BitVec.eq_of_toNat_eq
      rw [Address.toNat_add_ofNat (place ▸ Address.toNat_lt _), place]
    rw [there]
    exact Address.alignDown_of_dvd cell (Address.dvd_add cell under
      (Address.dvd_ofNat cell (Nat.dvd_mul_left _ _)))
  · exact fun beat _ => Nat.dvd_mul_left _ _
  · intro beat _
    have last := Nat.mul_le_mul (Nat.le_trans (inside beat) few) narrow
    rw [Nat.succ_mul] at last
    omega
  · intro beat counted other within same
    exact turn_inj counted within (Nat.eq_of_mul_eq_mul_right cell.positive same)

theorem spread (cell : IsCell burst.beatBytes) (narrow : burst.beatBytes ≤ 16)
    (legal : burst.mode = .incr ∨ burst.mode = .wrap ∧ burst.beats ∈ [2, 4, 8, 16]) :
    ∃ base offset, Spread burst base offset := by
  rcases legal with incr | ⟨wrap, count⟩
  · exact ⟨_, _, spread_incr cell narrow incr⟩
  · exact spread_wrap cell narrow wrap count

end Split.AddressBeat

end BusFabric
