import BusFabric.Proofs.Bridge.Translation

set_option autoImplicit false

namespace BusFabric.Bridge

/-- A place is told by the number of its cell, as far as that counts, and the offset in the cell. -/
theorem parts_of_mod {cell count word other rest another : Nat} (small : rest < cell)
    (low : another < cell)
    (same : (word * cell + rest) % (cell * count) = (other * cell + another) % (cell * count)) :
    word % count = other % count ∧ rest = another := by
  have positive : 0 < cell := by omega
  have parts : ∀ {word rest}, rest < cell →
      (word * cell + rest) % (cell * count) = rest + cell * (word % count) := by
    intro word rest small
    rw [Nat.mod_mul, Nat.mul_comm word cell, Nat.mul_add_mod, Nat.mod_eq_of_lt small,
      Nat.mul_add_div positive, Nat.div_eq_of_lt small, Nat.add_zero]
  rw [parts small, parts low] at same
  have rests := congrArg (· % cell) same
  simp only [Nat.add_mul_mod_self_left, Nat.mod_eq_of_lt small, Nat.mod_eq_of_lt low] at rests
  rw [rests] at same
  exact ⟨Nat.eq_of_mul_eq_mul_left positive (Nat.add_left_cancel same), rests⟩

theorem mod_of_parts {cell count word other : Nat} (same : word % count = other % count)
    (rest : Nat) :
    (word * cell + rest) % (cell * count) = (other * cell + rest) % (cell * count) := by
  rw [Nat.mul_comm cell, Nat.add_mod, Nat.mul_mod_mul_right, same, ← Nat.mul_mod_mul_right,
    ← Nat.add_mod]

/-- Addresses that agree below some bit agree below any lower one. -/
theorem mod_shift_of_le {low high address other : Nat} (le : low ≤ high)
    (same : address % 1 <<< high = other % 1 <<< high) :
    address % 1 <<< low = other % 1 <<< low := by
  have divides : 1 <<< low ∣ 1 <<< high := by
    rw [Nat.one_shiftLeft, Nat.one_shiftLeft]
    exact Nat.pow_dvd_pow 2 le
  rw [← Nat.mod_mod_of_dvd address divides, same, Nat.mod_mod_of_dvd other divides]

namespace Conversion

variable {conversion : Conversion}

/-- The source word and the stride as powers of two. -/
theorem exponents (regular : conversion.IsRegular) :
    ∃ exponent, exponent ≤ 4 ∧ conversion.sourceBytes = 1 <<< exponent ∧
      conversion.stride = 1 <<< (exponent + conversion.scale) := by
  obtain ⟨exponent, small, bytes⟩ := regular.source
  refine ⟨exponent, small, bytes, ?_⟩
  unfold stride sourceBytes
  rw [bytes, Nat.one_shiftLeft, Nat.one_shiftLeft, Nat.one_shiftLeft, Nat.pow_add]

theorem shift_split {first second : Nat} (le : first ≤ second) :
    (1 : Nat) <<< second = 1 <<< first * 1 <<< (second - first) := by
  rw [Nat.one_shiftLeft, Nat.one_shiftLeft, Nat.one_shiftLeft, ← Nat.pow_add,
    Nat.add_sub_cancel' le]

/-- Bytes near translated words are as far apart as they were. -/
theorem keeps_apart (regular : conversion.IsRegular) {address other : Address}
    {index another bit : Nat} (high : 8 ≤ bit) (top : bit ≤ 64)
    (small : address.toNat % conversion.sourceBytes + index < conversion.stride)
    (low : other.toNat % conversion.sourceBytes + another < conversion.stride)
    (same : ((conversion.translate address).toNat + index) % 1 <<< bit =
      ((conversion.translate other).toNat + another) % 1 <<< bit) :
    (address.toNat + index) % 1 <<< (bit - conversion.scale) =
      (other.toNat + another) % 1 <<< (bit - conversion.scale) := by
  obtain ⟨exponent, narrow, source, stride⟩ := exponents regular
  have scale := regular.scale_le
  have whole : 1 <<< bit ∣ UInt64.size := by
    have size : UInt64.size = 1 <<< 64 := by decide
    rw [size, shift_split top]
    exact Nat.dvd_mul_right _ _
  have place : ∀ {address : Address} {index : Nat},
      ((conversion.translate address).toNat + index) % 1 <<< bit =
        (address.toNat / conversion.sourceBytes * conversion.stride +
          (address.toNat % conversion.sourceBytes + index)) % 1 <<< bit := by
    intro address index
    rw [toNat_translate regular, Nat.add_assoc, Nat.add_mod, Nat.mod_mod_of_dvd _ whole,
      ← Nat.add_mod]
  have parts : ∀ (address : Address) (index : Nat), address.toNat + index =
      address.toNat / conversion.sourceBytes * conversion.sourceBytes +
        (address.toNat % conversion.sourceBytes + index) := by
    intro address index
    rw [← Nat.add_assoc, Nat.mul_comm, Nat.div_add_mod]
  rw [place, place, shift_split (by omega : exponent + conversion.scale ≤ bit), ← stride] at same
  obtain ⟨words, rests⟩ := parts_of_mod small low same
  rw [parts address, parts other, rests,
    shift_split (by omega : exponent ≤ bit - conversion.scale), ← source,
    show bit - conversion.scale - exponent = bit - (exponent + conversion.scale) by omega]
  exact mod_of_parts words _

/-- Bytes near translated words that are one byte were one byte before, but for the address bits
that are moved past the top. -/
theorem translate_add_inj (regular : conversion.IsRegular) {address other : Address}
    {index another : Nat}
    (small : address.toNat % conversion.sourceBytes + index < conversion.stride)
    (low : other.toNat % conversion.sourceBytes + another < conversion.stride)
    (same : conversion.translate address + BitVec.ofNat 64 index =
      conversion.translate other + BitVec.ofNat 64 another) :
    (address.toNat + index) % 1 <<< (64 - conversion.scale) =
      (other.toNat + another) % 1 <<< (64 - conversion.scale) := by
  have sums := congrArg BitVec.toNat same
  rw [BitVec.toNat_add, BitVec.toNat_add, BitVec.toNat_ofNat, BitVec.toNat_ofNat,
    Nat.add_mod_mod, Nat.add_mod_mod, ← Nat.one_shiftLeft] at sums
  exact keeps_apart regular (by decide) (Nat.le_refl 64) small low sums

/-- The stride after a translated word ends inside the address space. -/
theorem translate_room (regular : conversion.IsRegular) (address : Address) :
    (conversion.translate address).toNat + conversion.stride ≤
      UInt64.size + address.toNat % conversion.sourceBytes := by
  have aligned : conversion.stride ∣
      address.toNat / conversion.sourceBytes * conversion.stride % UInt64.size := by
    rw [Nat.dvd_mod_iff regular.stride.dvd_space]
    exact Nat.dvd_mul_left _ _
  have below : address.toNat / conversion.sourceBytes * conversion.stride % UInt64.size <
      UInt64.size := Nat.mod_lt _ (by decide)
  have last := add_le_of_dvd_of_lt aligned regular.stride.dvd_space below
  rw [toNat_translate regular]
  omega

/-- Onto a narrower target the source words are spread out. -/
theorem two_mul_le_stride (regular : conversion.IsRegular)
    (narrow : conversion.targetWidth / 8 < conversion.sourceBytes) :
    2 * conversion.sourceBytes ≤ conversion.stride := by
  have source := regular.source.log2_eq.1
  have target := regular.target.log2_eq.1
  have less : (conversion.targetWidth / 8).log2 < (conversion.sourceWidth / 8).log2 := by
    unfold sourceBytes at narrow
    rw [source, target, Nat.one_shiftLeft, Nat.one_shiftLeft] at narrow
    exact (Nat.pow_lt_pow_iff_right (by decide)).mp narrow
  have spread : 1 ≤ conversion.scale := by
    unfold scale shift sourceBytes
    omega
  have double : 2 ≤ 1 <<< conversion.scale := by
    rw [Nat.one_shiftLeft]
    exact Nat.pow_le_pow_right Nat.two_pos spread
  unfold stride
  rw [Nat.mul_comm]
  exact Nat.mul_le_mul_left _ double

/-- Word bases stay where they are just when the target is as wide as the source or wider. -/
theorem scale_eq_zero_iff (regular : conversion.IsRegular) :
    conversion.scale = 0 ↔ conversion.sourceBytes ≤ conversion.targetWidth / 8 := by
  have source := regular.source.log2_eq.1
  have target := regular.target.log2_eq.1
  unfold scale shift sourceBytes
  rw [Nat.one_shiftLeft] at source target
  have order : conversion.sourceWidth / 8 ≤ conversion.targetWidth / 8 ↔
      (conversion.sourceWidth / 8).log2 ≤ (conversion.targetWidth / 8).log2 := by
    conv => lhs; rw [source, target]
    exact Nat.pow_le_pow_iff_right (by decide)
  omega

/-- A source word, counted from an aligned origin, keeps clear of the place of the next one. -/
theorem word_room (regular : conversion.IsRegular) {word origin : Address}
    (whole : conversion.sourceBytes ∣ word.toNat)
    (based : conversion.targetWidth / 8 ∣ origin.toNat) :
    (word - origin).toNat % conversion.sourceBytes + conversion.sourceBytes ≤
      conversion.stride := by
  have cell := regular.sourceBytes
  by_cases narrow : conversion.targetWidth / 8 < conversion.sourceBytes
  · have spread := two_mul_le_stride regular narrow
    have rest := Nat.mod_lt (word - origin).toNat cell.positive
    omega
  · have divides := cell.dvd regular.target.isCell (Nat.le_of_not_lt narrow)
    have aligned := Address.dvd_sub cell whole (Nat.dvd_trans divides based)
    have single := conversion.sourceBytes_le_stride
    rw [Nat.mod_eq_zero_of_dvd aligned]
    omega

end Conversion

end BusFabric.Bridge
