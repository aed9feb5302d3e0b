set_option autoImplicit false

namespace BusFabric

/-- The address of one byte. Address arithmetic wraps at the top of the address space. -/
abbrev Address := BitVec 64

/-- Sixteen byte lanes. Narrower buses leave the upper lanes zero. -/
abbrev Data := BitVec 128

abbrev Byte := BitVec 8

/-- One enable bit per lane. -/
abbrev Strobe := BitVec 16

/-- Clears the address bits that `bytes - 1` sets: for a power of two, the address of the
`bytes`-wide cell that holds `address`. -/
def Address.alignDown (address : Address) (bytes : Nat) : Address :=
  address &&& ~~~(BitVec.ofNat 64 bytes - 1)

def Data.lane (data : Data) (index : Nat) : Byte :=
  (data >>> (8 * index)).setWidth 8

def Data.setLane (data : Data) (index : Nat) (byte : Byte) : Data :=
  (data &&& ~~~(0xff#128 <<< (8 * index))) ||| (byte.setWidth 128 <<< (8 * index))

/-- Keeps the low `bytes` lanes. -/
def Data.truncate (data : Data) (bytes : Nat) : Data :=
  if bytes ≥ 16 then data else data &&& ((1#128 <<< (8 * bytes)) - 1)

def Strobe.selects (strobe : Strobe) (index : Nat) : Bool :=
  strobe.getLsbD index

def Strobe.select (strobe : Strobe) (index : Nat) : Strobe :=
  strobe ||| (1#16 <<< index)

/-- Selects every lane of a bus of `bytes` bytes. -/
def Strobe.full (bytes : Nat) : Strobe :=
  if bytes ≥ 16 then BitVec.allOnes 16 else (1#16 <<< bytes) - 1

/-- How many low bits of a 64-bit count are zero; 64 when all are. -/
def trailingZeros (n : Nat) : Nat :=
  ((List.range 64).find? n.testBit).getD 64

namespace Data

/-- The lowest lane is the lowest eight bits. -/
theorem getLsbD_lowLane (bit : Nat) : (0xff#128).getLsbD bit = decide (bit < 8) := by
  have narrow : (0xff#128) = (BitVec.allOnes 8).setWidth 128 := by decide
  rw [narrow, BitVec.getLsbD_setWidth, BitVec.getLsbD_allOnes]
  by_cases low : bit < 8
  · have fits : bit < 128 := by omega
    simp [low, fits]
  · simp [low]

theorem getLsbD_lane (data : Data) (index bit : Nat) :
    (data.lane index).getLsbD bit = (decide (bit < 8) && data.getLsbD (8 * index + bit)) := by
  simp [lane]

/-- Replacing a lane replaces its eight bits and keeps the others. -/
theorem getLsbD_setLane (data : Data) (index : Nat) (byte : Byte) (bit : Nat) :
    (data.setLane index byte).getLsbD bit =
      if 8 * index ≤ bit ∧ bit < 8 * index + 8 ∧ bit < 128 then byte.getLsbD (bit - 8 * index)
      else data.getLsbD bit := by
  by_cases fits : bit < 128
  · by_cases before : bit < 8 * index
    · have outside : ¬ 8 * index ≤ bit := by omega
      simp only [setLane, BitVec.getLsbD_or, BitVec.getLsbD_and, BitVec.getLsbD_not,
        BitVec.getLsbD_shiftLeft, BitVec.getLsbD_setWidth]
      simp [fits, before, outside]
    · have start : 8 * index ≤ bit := by omega
      have shifted : bit - 8 * index < 128 := by omega
      by_cases inside : bit < 8 * index + 8
      · have low : bit - 8 * index < 8 := by omega
        simp only [setLane, BitVec.getLsbD_or, BitVec.getLsbD_and, BitVec.getLsbD_not,
          BitVec.getLsbD_shiftLeft, BitVec.getLsbD_setWidth, getLsbD_lowLane]
        simp [fits, start, before, inside, low, shifted]
      · have high : 8 ≤ bit - 8 * index := by omega
        have absent : ¬ bit - 8 * index < 8 := by omega
        simp only [setLane, BitVec.getLsbD_or, BitVec.getLsbD_and, BitVec.getLsbD_not,
          BitVec.getLsbD_shiftLeft, BitVec.getLsbD_setWidth, getLsbD_lowLane]
        simp [fits, start, before, inside, absent, BitVec.getLsbD_of_ge byte _ high]
  · have past : 128 ≤ bit := by omega
    simp [fits, BitVec.getLsbD_of_ge _ bit past]

@[simp] theorem lane_setLane_same (data : Data) {index : Nat} (byte : Byte)
    (inside : index < 16) : (data.setLane index byte).lane index = byte := by
  apply BitVec.eq_of_getLsbD_eq
  intro bit low
  have bounds : 8 * index ≤ 8 * index + bit ∧ 8 * index + bit < 8 * index + 8 ∧
      8 * index + bit < 128 := by omega
  rw [getLsbD_lane, getLsbD_setLane, if_pos bounds]
  simp [low]

theorem lane_setLane_other (data : Data) {index other : Nat} (byte : Byte)
    (apart : index ≠ other) : (data.setLane index byte).lane other = data.lane other := by
  apply BitVec.eq_of_getLsbD_eq
  intro bit low
  have outside : ¬ (8 * index ≤ 8 * other + bit ∧ 8 * other + bit < 8 * index + 8 ∧
      8 * other + bit < 128) := by omega
  rw [getLsbD_lane, getLsbD_lane, getLsbD_setLane, if_neg outside]

@[simp] theorem lane_zero (index : Nat) : Data.lane 0 index = 0 := by
  simp [lane]

end Data

theorem Strobe.selects_select (strobe : Strobe) (index other : Nat) :
    (strobe.select index).selects other =
      (strobe.selects other || decide (index = other ∧ other < 16)) := by
  by_cases fits : other < 16
  · by_cases before : other < index
    · have apart : index ≠ other := by omega
      simp [select, selects, fits, before, apart]
    · by_cases same : index = other
      · subst same
        simp [select, selects, fits]
      · have gap : other - index ≠ 0 := by omega
        simp [select, selects, fits, before, same, gap]
  · simp [select, selects, fits]

end BusFabric
