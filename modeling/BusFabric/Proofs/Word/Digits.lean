import BusFabric.Proofs.Word.Lanes
import Mathlib.Data.Nat.Digits.Defs

set_option autoImplicit false

namespace BusFabric

/-- The lowest digits of a number make what it leaves modulo a power of the base. -/
theorem ofDigits_range (base value count : Nat) :
    Nat.ofDigits base ((List.range count).map fun place => value / base ^ place % base) =
      value % base ^ count := by
  induction count with
  | zero => rw [List.range_zero, List.map_nil, Nat.ofDigits_nil, Nat.pow_zero, Nat.mod_one]
  | succ count ih =>
    rw [List.range_succ, List.map_append, List.map_singleton, Nat.ofDigits_append, ih,
      Nat.ofDigits_singleton, List.length_map, List.length_range, Nat.mod_pow_succ]

namespace Data

variable {data : Data} {bytes : Nat}

theorem toNat_lane (data : Data) (index : Nat) :
    (data.lane index).toNat = data.toNat / 256 ^ index % 256 := by
  unfold lane
  rw [BitVec.toNat_setWidth, BitVec.toNat_ushiftRight, Nat.shiftRight_eq_div_pow, Nat.pow_mul]

theorem lane_eq_ofNat (data : Data) (index : Nat) :
    data.lane index = BitVec.ofNat 8 (data.toNat / 256 ^ index) :=
  BitVec.eq_of_toNat_eq (toNat_lane data index)

/-- A word with nothing above its low lanes is no larger than they can tell. -/
theorem toNat_lt_of_lanes (empty : ∀ lane, bytes ≤ lane → data.lane lane = 0) :
    data.toNat < 256 ^ bytes := by
  have power : 256 ^ bytes = 2 ^ (8 * bytes) := (Nat.pow_mul 2 8 bytes).symm
  rw [power]
  apply Nat.lt_pow_two_of_testBit
  intro bit high
  have blank : (data.lane (bit / 8)).getLsbD (bit % 8) = false := by
    rw [empty (bit / 8) (by omega)]
    exact BitVec.getLsbD_zero
  have low : bit % 8 < 8 := by omega
  have place : 8 * (bit / 8) + bit % 8 = bit := by omega
  rw [getLsbD_lane, place, decide_eq_true low, Bool.true_and] at blank
  rw [BitVec.testBit_toNat]
  exact blank

/-- A word with nothing above its low lanes is the number that they write. -/
theorem toNat_eq_ofDigits (empty : ∀ lane, bytes ≤ lane → data.lane lane = 0) :
    data.toNat =
      Nat.ofDigits 256 ((List.range bytes).map fun lane => (data.lane lane).toNat) := by
  simp only [toNat_lane]
  rw [ofDigits_range, Nat.mod_eq_of_lt (toNat_lt_of_lanes empty)]

end Data

end BusFabric
