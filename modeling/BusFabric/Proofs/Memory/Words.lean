import BusFabric.Memory
import BusFabric.Proofs.Word.Cells
import BusFabric.Proofs.Word.Lanes

set_option autoImplicit false

namespace BusFabric

/-- How far an address lies above another, around the address space. -/
theorem Address.add_ofNat_eq_iff {address other : Address} {index : Nat}
    (small : index < UInt64.size) :
    address + BitVec.ofNat 64 index = other ↔ (other - address).toNat = index := by
  have size : UInt64.size = 18446744073709551616 := rfl
  have here := address.toNat_lt
  have there := other.toNat_lt
  rw [BitVec.toNat_eq, BitVec.toNat_add, BitVec.toNat_ofNat, BitVec.toNat_sub]
  omega

theorem Address.exists_lane_iff {start : Address} {bytes : Nat} (whole : bytes ≤ UInt64.size)
    (p : Nat → Address → Prop) :
    (∃ lane < bytes, p lane (start + BitVec.ofNat 64 lane)) ↔
      ∃ address, (address - start).toNat < bytes ∧ p (address - start).toNat address := by
  constructor
  · rintro ⟨lane, inside, holds⟩
    have place : (start + BitVec.ofNat 64 lane - start).toNat = lane :=
      (add_ofNat_eq_iff (Nat.lt_of_lt_of_le inside whole)).mp rfl
    exact ⟨_, by rwa [place], by rwa [place]⟩
  · rintro ⟨address, inside, holds⟩
    have there := (add_ofNat_eq_iff (Nat.lt_of_lt_of_le inside whole)).mpr rfl
    exact ⟨_, inside, by rwa [there]⟩

/-- Where a word ends inside the address space, no address below its start is among its bytes, even
going around. -/
theorem Address.toNat_sub_lt_iff {address start : Address} {bytes : Nat}
    (inside : start.toNat + bytes ≤ UInt64.size) :
    (address - start).toNat < bytes ↔
      start.toNat ≤ address.toNat ∧ address.toNat - start.toNat < bytes := by
  have size : UInt64.size = 18446744073709551616 := rfl
  have here := address.toNat_lt
  rw [BitVec.toNat_sub]
  omega

namespace Memory

theorem lane_readWord (memory : Memory) (address : Address) {bytes lane : Nat}
    (narrow : bytes ≤ 16) :
    (memory.readWord address bytes).lane lane =
      if lane < bytes then memory.readByte (address + BitVec.ofNat 64 lane) else 0 := by
  unfold readWord
  split
  · rename_i inside
    apply Data.lane_foldl_setLane_of_mem _ (fun index => index) _ _ (by omega)
    · intro other _ same
      rw [same]
    · exact ⟨lane, List.mem_range.mpr inside, rfl⟩
  · rename_i outside
    rw [Data.lane_foldl_setLane_of_not_mem _ (fun index => index)]
    · exact Data.lane_zero lane
    · intro other mem same
      rw [same] at mem
      exact outside (List.mem_range.mp mem)

/-- Writing a word writes its selected bytes, and nothing else. -/
theorem readByte_writeWord (memory : Memory) (address other : Address) (data : Data)
    (strobe : Strobe) {bytes : Nat} (narrow : bytes ≤ 16) :
    (memory.writeWord address data strobe bytes).readByte other =
      if (other - address).toNat < bytes ∧ strobe.selects (other - address).toNat then
        data.lane (other - address).toNat
      else memory.readByte other := by
  unfold writeWord
  induction bytes with
  | zero => simp
  | succ bytes ih =>
    have small : bytes < UInt64.size := by
      have size : UInt64.size = 18446744073709551616 := rfl
      omega
    rw [List.range_succ, List.foldl_append, List.foldl_cons, List.foldl_nil]
    by_cases here : (other - address).toNat = bytes
    · have same := (Address.add_ofNat_eq_iff small).mpr here
      have absent : ¬ (other - address).toNat < bytes := by omega
      have last : (other - address).toNat < bytes + 1 := by omega
      rw [here] at last
      by_cases on : strobe.selects bytes = true
      · rw [if_pos on, readByte_writeByte, if_pos same, here, if_pos ⟨last, on⟩]
      · rw [if_neg on, ih (by omega), if_neg fun both => absent both.1, here,
          if_neg fun both => on both.2]
    · have apart : address + BitVec.ofNat 64 bytes ≠ other :=
        fun same => here ((Address.add_ofNat_eq_iff small).mp same)
      have kept : ∀ memory : Memory, (if strobe.selects bytes = true then
          memory.writeByte (address + BitVec.ofNat 64 bytes) (data.lane bytes)
          else memory).readByte other = memory.readByte other := by
        intro memory
        split
        · rw [readByte_writeByte, if_neg apart]
        · rfl
      have range : (other - address).toNat < bytes + 1 ↔ (other - address).toNat < bytes := by
        omega
      rw [kept, ih (by omega)]
      simp only [range]

end Memory

end BusFabric
