import BusFabric.Word

set_option autoImplicit false

namespace BusFabric

/-- Of two powers of two, the smaller divides the larger. -/
theorem dvd_of_isPowerOfTwo {small large : Nat} (one : small.isPowerOfTwo)
    (another : large.isPowerOfTwo) (le : small ≤ large) : small ∣ large := by
  obtain ⟨exponent, rfl⟩ := one
  obtain ⟨wider, rfl⟩ := another
  exact Nat.pow_dvd_pow 2 ((Nat.pow_le_pow_iff_right (by decide)).mp le)

/-- A length that addresses are aligned to: a power of two below the size of the address space. -/
def IsCell (bytes : Nat) : Prop :=
  ∃ exponent, exponent < 64 ∧ bytes = 1 <<< exponent

theorem isCell_of_isPowerOfTwo {bytes : Nat} (power : bytes.isPowerOfTwo)
    (fits : bytes < UInt64.size) : IsCell bytes := by
  obtain ⟨exponent, rfl⟩ := power
  have size : UInt64.size = 2 ^ 64 := by decide
  rw [size] at fits
  exact ⟨exponent, (Nat.pow_lt_pow_iff_right (by decide)).mp fits, (Nat.one_shiftLeft _).symm⟩

namespace IsCell

variable {bytes other : Nat}

theorem positive (cell : IsCell bytes) : 0 < bytes := by
  obtain ⟨exponent, _, rfl⟩ := cell
  rw [Nat.one_shiftLeft]
  exact Nat.two_pow_pos exponent

theorem isPowerOfTwo (cell : IsCell bytes) : bytes.isPowerOfTwo := by
  obtain ⟨exponent, _, rfl⟩ := cell
  exact ⟨exponent, Nat.one_shiftLeft exponent⟩

/-- Of two cells, the shorter divides the longer. -/
theorem dvd (cell : IsCell bytes) (longer : IsCell other) (le : bytes ≤ other) :
    bytes ∣ other :=
  dvd_of_isPowerOfTwo cell.isPowerOfTwo longer.isPowerOfTwo le

theorem dvd_space (cell : IsCell bytes) : bytes ∣ UInt64.size := by
  obtain ⟨exponent, fits, rfl⟩ := cell
  have size : UInt64.size = 1 <<< 64 := by decide
  rw [size, Nat.one_shiftLeft, Nat.one_shiftLeft]
  exact Nat.pow_dvd_pow 2 (by omega)

theorem lt_space (cell : IsCell bytes) : bytes < UInt64.size := by
  obtain ⟨exponent, fits, rfl⟩ := cell
  have size : UInt64.size = 1 <<< 64 := by decide
  rw [size, Nat.one_shiftLeft, Nat.one_shiftLeft]
  exact Nat.pow_lt_pow_right (by decide) fits

theorem mul (cell : IsCell bytes) (longer : IsCell other) (fits : bytes * other < UInt64.size) :
    IsCell (bytes * other) := by
  obtain ⟨exponent, _, rfl⟩ := cell
  obtain ⟨wider, _, rfl⟩ := longer
  have size : UInt64.size = 1 <<< 64 := by decide
  rw [size, Nat.one_shiftLeft, Nat.one_shiftLeft, Nat.one_shiftLeft, ← Nat.pow_add] at fits
  refine ⟨exponent + wider, (Nat.pow_lt_pow_iff_right (by decide)).mp fits, ?_⟩
  rw [Nat.one_shiftLeft, Nat.one_shiftLeft, Nat.one_shiftLeft, ← Nat.pow_add]

end IsCell

/-- Of two multiples of a length, the higher is at least the length higher. -/
theorem add_le_of_dvd_of_lt {bytes low high : Nat} (one : bytes ∣ low) (two : bytes ∣ high)
    (below : low < high) : low + bytes ≤ high := by
  obtain ⟨count, rfl⟩ := one
  obtain ⟨total, rfl⟩ := two
  have order : count < total := Nat.lt_of_mul_lt_mul_left below
  rw [← Nat.mul_succ]
  exact Nat.mul_le_mul_left bytes order

theorem Address.toNat_lt (address : Address) : address.toNat < UInt64.size :=
  address.isLt

namespace Address

variable {bytes : Nat}

/-- A length less one masks the offsets below it. -/
theorem toNat_ofNat_sub_one (positive : 0 < bytes) (fits : bytes < UInt64.size) :
    (BitVec.ofNat 64 bytes - 1).toNat = bytes - 1 := by
  have size : UInt64.size = 18446744073709551616 := rfl
  have one : (1 : BitVec 64).toNat = 1 := rfl
  rw [BitVec.toNat_sub, BitVec.toNat_ofNat, one]
  omega

theorem toNat_mask (cell : IsCell bytes) : (BitVec.ofNat 64 bytes - 1).toNat = bytes - 1 :=
  toNat_ofNat_sub_one cell.positive cell.lt_space

theorem toNat_and_add_and_not (address mask : Address) :
    (address &&& mask).toNat + (address &&& ~~~mask).toNat = address.toNat := by
  have apart : (address &&& mask) &&& (address &&& ~~~mask) = 0 := by
    apply BitVec.eq_of_getLsbD_eq
    intro bit _
    simp only [BitVec.getLsbD_and, BitVec.getLsbD_not]
    cases address.getLsbD bit <;> cases mask.getLsbD bit <;> simp
  have parts : (address &&& mask) + (address &&& ~~~mask) = address := by
    rw [BitVec.add_eq_or_of_and_eq_zero _ _ apart, ← BitVec.and_or_distrib_left, BitVec.or_not_self,
      BitVec.and_allOnes]
  have sum := congrArg BitVec.toNat parts
  have below : (address &&& mask).toNat ≤ address.toNat := by
    rw [BitVec.toNat_and]
    exact Nat.and_le_left
  have under : (address &&& ~~~mask).toNat ≤ address.toNat := by
    rw [BitVec.toNat_and]
    exact Nat.and_le_left
  rw [BitVec.toNat_add] at sum
  omega

/-- Masking with the length of a cell less one keeps the offset in the cell. -/
theorem toNat_and_mask (address : Address) (cell : IsCell bytes) :
    (address &&& (BitVec.ofNat 64 bytes - 1)).toNat = address.toNat % bytes := by
  rw [BitVec.toNat_and, toNat_mask cell]
  obtain ⟨exponent, _, rfl⟩ := cell
  rw [Nat.one_shiftLeft]
  exact Nat.and_two_pow_sub_one_eq_mod _ _

theorem toNat_alignDown (address : Address) (cell : IsCell bytes) :
    (address.alignDown bytes).toNat = address.toNat - address.toNat % bytes := by
  have parts := toNat_and_add_and_not address (BitVec.ofNat 64 bytes - 1)
  rw [toNat_and_mask address cell] at parts
  unfold alignDown
  omega

theorem dvd_alignDown (address : Address) (cell : IsCell bytes) :
    bytes ∣ (address.alignDown bytes).toNat := by
  rw [toNat_alignDown address cell]
  exact Nat.dvd_sub_mod address.toNat

theorem alignDown_add_mod (address : Address) (cell : IsCell bytes) :
    (address.alignDown bytes).toNat + address.toNat % bytes = address.toNat := by
  rw [toNat_alignDown address cell]
  exact Nat.sub_add_cancel (Nat.mod_le _ _)

/-- A word that starts where these bits are clear ends inside the address space, whether or not its
length is a power of two. -/
theorem alignDown_add_le (address : Address) {bytes : Nat} (positive : 0 < bytes)
    (narrow : bytes < UInt64.size) : (address.alignDown bytes).toNat + bytes ≤ UInt64.size := by
  have space : UInt64.size = 2 ^ 64 := rfl
  have under : (address.alignDown bytes).toNat ≤ (~~~(BitVec.ofNat 64 bytes - 1)).toNat := by
    unfold alignDown
    rw [BitVec.toNat_and]
    exact Nat.and_le_right
  have mask : (BitVec.ofNat 64 bytes - 1).toNat = bytes - 1 := by
    rw [BitVec.toNat_sub, BitVec.toNat_ofNat, show (1 : BitVec 64).toNat = 1 from rfl]
    omega
  rw [BitVec.toNat_not, mask] at under
  omega

theorem add_lt_of_dvd {address : Address} (cell : IsCell bytes) (aligned : bytes ∣ address.toNat)
    {index : Nat} (inside : index < bytes) : address.toNat + index < UInt64.size := by
  have last := add_le_of_dvd_of_lt aligned cell.dvd_space address.toNat_lt
  omega

theorem toNat_add_ofNat {address : Address} {index : Nat}
    (inside : address.toNat + index < UInt64.size) :
    (address + BitVec.ofNat 64 index).toNat = address.toNat + index := by
  rw [BitVec.toNat_add, BitVec.toNat_ofNat]
  have size : UInt64.size = 18446744073709551616 := rfl
  omega

/-- Between the start of its cell and an address there is no other multiple of the length. -/
theorem le_alignDown_iff (address : Address) (cell : IsCell bytes) {edge : Nat}
    (whole : bytes ∣ edge) :
    edge ≤ (address.alignDown bytes).toNat ↔ edge ≤ address.toNat := by
  have start := toNat_alignDown address cell
  have rest := Nat.mod_lt address.toNat cell.positive
  have least := Nat.mod_le address.toNat bytes
  constructor
  · omega
  · intro reaches
    obtain ⟨count, rfl⟩ := whole
    obtain ⟨place, at_⟩ := dvd_alignDown address cell
    rw [at_] at start ⊢
    apply Nat.mul_le_mul_left
    apply Nat.le_of_lt_succ
    apply Nat.lt_of_mul_lt_mul_left (a := bytes)
    rw [Nat.mul_succ]
    omega

theorem alignDown_mono {address other : Address} (cell : IsCell bytes)
    (le : address.toNat ≤ other.toNat) :
    (address.alignDown bytes).toNat ≤ (other.alignDown bytes).toNat := by
  rw [toNat_alignDown address cell, toNat_alignDown other cell]
  have here := Nat.div_add_mod address.toNat bytes
  have there := Nat.div_add_mod other.toNat bytes
  have quotient : address.toNat / bytes ≤ other.toNat / bytes := Nat.div_le_div_right le
  have product := Nat.mul_le_mul_left bytes quotient
  omega

/-- The offset of a byte that is counted from the start of its cell. -/
theorem toNat_add_mod (cell : IsCell bytes) {start : Address} (aligned : bytes ∣ start.toNat)
    {index : Nat} (inside : index < bytes) :
    (start + BitVec.ofNat 64 index).toNat % bytes = index := by
  rw [toNat_add_ofNat (add_lt_of_dvd cell aligned inside), Nat.add_mod,
    Nat.mod_eq_zero_of_dvd aligned, Nat.zero_add, Nat.mod_mod, Nat.mod_eq_of_lt inside]

/-- The cell of a byte that is counted from the start of the cell. -/
theorem alignDown_add (cell : IsCell bytes) {start : Address} (aligned : bytes ∣ start.toNat)
    {index : Nat} (inside : index < bytes) :
    (start + BitVec.ofNat 64 index).alignDown bytes = start := by
  apply BitVec.eq_of_toNat_eq
  rw [toNat_alignDown _ cell, toNat_add_mod cell aligned inside,
    toNat_add_ofNat (add_lt_of_dvd cell aligned inside), Nat.add_sub_cancel]

theorem alignDown_of_dvd (cell : IsCell bytes) {start : Address} (aligned : bytes ∣ start.toNat) :
    start.alignDown bytes = start := by
  simpa using alignDown_add cell aligned cell.positive

theorem alignDown_add_offset (address : Address) (cell : IsCell bytes) :
    address.alignDown bytes + BitVec.ofNat 64 (address.toNat % bytes) = address := by
  apply BitVec.eq_of_toNat_eq
  have parts := alignDown_add_mod address cell
  have below := address.toNat_lt
  rw [toNat_add_ofNat (by omega), parts]

theorem dvd_add (cell : IsCell bytes) {address other : Address} (aligned : bytes ∣ address.toNat)
    (along : bytes ∣ other.toNat) : bytes ∣ (address + other).toNat := by
  rw [BitVec.toNat_add, Nat.dvd_mod_iff cell.dvd_space]
  exact Nat.dvd_add aligned along

theorem dvd_ofNat (cell : IsCell bytes) {count : Nat} (aligned : bytes ∣ count) :
    bytes ∣ (BitVec.ofNat 64 count).toNat := by
  rw [BitVec.toNat_ofNat, Nat.dvd_mod_iff cell.dvd_space]
  exact aligned

theorem dvd_sub (cell : IsCell bytes) {address other : Address} (aligned : bytes ∣ address.toNat)
    (along : bytes ∣ other.toNat) : bytes ∣ (address - other).toNat := by
  rw [BitVec.toNat_sub, Nat.dvd_mod_iff cell.dvd_space]
  exact Nat.dvd_add (Nat.dvd_sub cell.dvd_space along) aligned

/-- Counting from an aligned origin moves whole cells. -/
theorem alignDown_sub (cell : IsCell bytes) (address : Address) {origin : Address}
    (aligned : bytes ∣ origin.toNat) :
    (address - origin).alignDown bytes = address.alignDown bytes - origin := by
  have parts := alignDown_add_offset address cell
  have start := dvd_sub cell (dvd_alignDown address cell) aligned
  have moved : address - origin =
      address.alignDown bytes - origin + BitVec.ofNat 64 (address.toNat % bytes) := by
    rw [BitVec.sub_eq_add_neg (address.alignDown bytes), BitVec.add_assoc,
      BitVec.add_comm (-origin), ← BitVec.add_assoc, parts, BitVec.sub_eq_add_neg]
  rw [moved]
  exact alignDown_add cell start (Nat.mod_lt _ cell.positive)

theorem toNat_sub_mod (cell : IsCell bytes) (address : Address) {origin : Address}
    (aligned : bytes ∣ origin.toNat) :
    (address - origin).toNat % bytes = address.toNat % bytes := by
  have above := Nat.dvd_sub cell.dvd_space aligned
  rw [BitVec.toNat_sub, Nat.mod_mod_of_dvd _ cell.dvd_space, Nat.add_mod,
    Nat.mod_eq_zero_of_dvd above, Nat.zero_add, Nat.mod_mod]

end Address

end BusFabric
