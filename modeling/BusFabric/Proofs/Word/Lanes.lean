import BusFabric.Word

set_option autoImplicit false

namespace BusFabric

variable {α : Type}

/-- One less than a power of two masks the bits below it. -/
theorem getLsbD_lowMask {size width : Nat} (small : width < size) (bit : Nat) :
    ((BitVec.ofNat size 1 <<< width) - 1).getLsbD bit = decide (bit < width) := by
  have same : (BitVec.ofNat size 1 <<< width) - 1 = (BitVec.allOnes width).setWidth size := by
    apply BitVec.eq_of_toNat_eq
    have bound : 1 <<< width < 1 <<< size := by
      rw [Nat.one_shiftLeft, Nat.one_shiftLeft]
      exact Nat.pow_lt_pow_right (by decide) small
    have positive : 0 < 1 <<< width := by
      rw [Nat.one_shiftLeft]
      exact Nat.two_pow_pos _
    have one : 1 % 1 <<< size = 1 := Nat.mod_eq_of_lt (by omega)
    simp only [BitVec.toNat_sub, BitVec.toNat_shiftLeft, BitVec.toNat_ofNat, BitVec.toNat_setWidth,
      BitVec.toNat_allOnes, BitVec.ofNat_eq_ofNat, ← Nat.one_shiftLeft]
    rw [one, Nat.mod_eq_of_lt bound]
    generalize (1 : Nat) <<< width = power at *
    generalize (1 : Nat) <<< size = limit at *
    rw [Nat.mod_eq_of_lt (by omega : power - 1 < limit),
      show limit - 1 + power = power - 1 + limit by omega, Nat.add_mod_right,
      Nat.mod_eq_of_lt (by omega)]
  rw [same, BitVec.getLsbD_setWidth, BitVec.getLsbD_allOnes]
  by_cases low : bit < width
  · simp [low, Nat.lt_trans low small]
  · simp [low]

namespace Data

def ofLanes (byte : Nat → Byte) : Data :=
  (List.range 16).foldl (fun data lane => data.setLane lane (byte lane)) 0

theorem ext_lanes {data other : Data}
    (same : ∀ lane, lane < 16 → data.lane lane = other.lane lane) : data = other := by
  apply BitVec.eq_of_getLsbD_eq
  intro bit fits
  have here := congrArg (fun byte : Byte => byte.getLsbD (bit % 8)) (same (bit / 8) (by omega))
  have low : bit % 8 < 8 := by omega
  have place : 8 * (bit / 8) + bit % 8 = bit := by omega
  simpa only [getLsbD_lane, low, place, decide_true, Bool.true_and] using here

/-- A lane that no item is placed in keeps its byte. -/
theorem lane_foldl_setLane_of_not_mem (items : List α) (place : α → Nat) (byte : α → Byte)
    (data : Data) {lane : Nat} (absent : ∀ item ∈ items, place item ≠ lane) :
    (items.foldl (fun data item => data.setLane (place item) (byte item)) data).lane lane =
      data.lane lane := by
  induction items generalizing data with
  | nil => rfl
  | cons item rest ih =>
    rw [List.foldl_cons, ih _ fun other mem => absent other (List.mem_cons_of_mem _ mem)]
    exact lane_setLane_other data _ (absent item List.mem_cons_self)

/-- A lane that is written holds the value that every item placed in it carries. -/
theorem lane_foldl_setLane_of_mem (items : List α) (place : α → Nat) (byte : α → Byte)
    (data : Data) {lane : Nat} {value : Byte} (inside : lane < 16)
    (agree : ∀ item ∈ items, place item = lane → byte item = value)
    (found : ∃ item ∈ items, place item = lane) :
    (items.foldl (fun data item => data.setLane (place item) (byte item)) data).lane lane =
      value := by
  induction items generalizing data with
  | nil => simp at found
  | cons item rest ih =>
    rw [List.foldl_cons]
    by_cases later : ∃ other ∈ rest, place other = lane
    · exact ih _ (fun other mem => agree other (List.mem_cons_of_mem _ mem)) later
    · have absent : ∀ other ∈ rest, place other ≠ lane :=
        fun other mem same => later ⟨other, mem, same⟩
      have here : place item = lane := by
        obtain ⟨other, mem, same⟩ := found
        rcases List.mem_cons.mp mem with rfl | mem
        · exact same
        · exact absurd same (absent other mem)
      rw [lane_foldl_setLane_of_not_mem rest place byte _ absent, here,
        lane_setLane_same data _ inside]
      exact agree item List.mem_cons_self here

theorem lane_ofLanes (byte : Nat → Byte) {lane : Nat} (inside : lane < 16) :
    (ofLanes byte).lane lane = byte lane := by
  unfold ofLanes
  apply lane_foldl_setLane_of_mem (List.range 16) (fun lane => lane) byte 0 inside
  · intro other _ same
    rw [same]
  · exact ⟨lane, List.mem_range.mpr inside, rfl⟩

theorem getLsbD_truncate (data : Data) (bytes bit : Nat) :
    (data.truncate bytes).getLsbD bit = (decide (bit < 8 * bytes) && data.getLsbD bit) := by
  unfold truncate
  split
  · by_cases fits : bit < 128
    · have low : bit < 8 * bytes := by omega
      simp [low]
    · simp [BitVec.getLsbD_of_ge data bit (by omega)]
  · rw [BitVec.getLsbD_and, getLsbD_lowMask (by omega : 8 * bytes < 128), Bool.and_comm]

theorem lane_truncate (data : Data) (bytes lane : Nat) :
    (data.truncate bytes).lane lane = if lane < bytes then data.lane lane else 0 := by
  apply BitVec.eq_of_getLsbD_eq
  intro bit low
  rw [getLsbD_lane, getLsbD_truncate]
  split
  · have inside : 8 * lane + bit < 8 * bytes := by omega
    simp [getLsbD_lane, inside]
  · have outside : ¬ 8 * lane + bit < 8 * bytes := by omega
    simp [outside]

/-- Moving a word down moves its lanes. -/
theorem lane_shiftRight (data : Data) (low lane : Nat) :
    Data.lane (data >>> (8 * low)) lane = data.lane (low + lane) := by
  unfold Data.lane
  rw [← BitVec.shiftRight_add, ← Nat.mul_add]

/-- Moving a word up moves its lanes, as far as they fit. -/
theorem lane_shiftLeft (data : Data) {low lane : Nat} (inside : low + lane < 16) :
    Data.lane (data <<< (8 * low)) (low + lane) = data.lane lane := by
  apply BitVec.eq_of_getLsbD_eq
  intro bit small
  have fits : 8 * (low + lane) + bit < 128 := by omega
  have above : ¬ 8 * (low + lane) + bit < 8 * low := by omega
  have place : 8 * (low + lane) + bit - 8 * low = 8 * lane + bit := by omega
  rw [getLsbD_lane, getLsbD_lane, BitVec.getLsbD_shiftLeft, place]
  simp [fits, above]

/-- A word that is moved up is empty below the move. -/
theorem lane_shiftLeft_of_lt (data : Data) {low lane : Nat} (under : lane < low) :
    Data.lane (data <<< (8 * low)) lane = 0 := by
  apply BitVec.eq_of_getLsbD_eq
  intro bit small
  have below : 8 * lane + bit < 8 * low := by omega
  rw [getLsbD_lane, BitVec.getLsbD_shiftLeft]
  simp [below]

end Data

namespace Strobe

def ofLanes (enabled : Nat → Bool) : Strobe :=
  ((List.range 16).filter enabled).foldl (fun strobe lane => strobe.select lane) 0

theorem ext_lanes {strobe other : Strobe}
    (same : ∀ lane, lane < 16 → strobe.selects lane = other.selects lane) : strobe = other :=
  BitVec.eq_of_getLsbD_eq same

theorem selects_foldl_select (items : List α) (place : α → Nat) (strobe : Strobe) {lane : Nat}
    (inside : lane < 16) :
    (items.foldl (fun strobe item => strobe.select (place item)) strobe).selects lane =
      (strobe.selects lane || items.any fun item => place item = lane) := by
  induction items generalizing strobe with
  | nil => simp
  | cons item rest ih =>
    rw [List.foldl_cons, ih, selects_select, List.any_cons, Bool.or_assoc]
    simp [inside]

theorem selects_zero (lane : Nat) : selects 0 lane = false := by
  simp [selects]

theorem selects_ofLanes (enabled : Nat → Bool) {lane : Nat} (inside : lane < 16) :
    (ofLanes enabled).selects lane = enabled lane := by
  unfold ofLanes
  rw [selects_foldl_select _ (fun lane => lane) 0 inside, selects_zero, Bool.false_or,
    Bool.eq_iff_iff]
  simp [inside]

theorem selects_full (bytes : Nat) {lane : Nat} (inside : lane < 16) :
    (full bytes).selects lane = decide (lane < bytes) := by
  unfold full selects
  split
  · have covered : lane < bytes := by omega
    rw [BitVec.getLsbD_allOnes]
    simp only [inside, covered]
  · exact getLsbD_lowMask (by omega : bytes < 16) lane

/-- A strobe that is moved up enables the lanes above the move. -/
theorem selects_shiftLeft (strobe : Strobe) (low : Nat) {lane : Nat} (inside : lane < 16) :
    selects (strobe <<< low) lane = (decide (low ≤ lane) && strobe.selects (lane - low)) := by
  unfold selects
  rw [BitVec.getLsbD_shiftLeft]
  by_cases above : low ≤ lane
  · have reached : ¬ lane < low := by omega
    simp [inside, above, reached]
  · have under : lane < low := by omega
    simp [above, under]

/-- The enables of a bus, moved up. -/
theorem selects_full_shiftLeft (bytes low : Nat) {lane : Nat} (inside : lane < 16) :
    selects (full bytes <<< low) lane = decide (low ≤ lane ∧ lane < low + bytes) := by
  rw [selects_shiftLeft _ low inside, selects_full _ (by omega : lane - low < 16),
    Bool.eq_iff_iff]
  simp only [Bool.and_eq_true, decide_eq_true_eq]
  omega

theorem selects_full_shiftLeft_iff {bytes low lane : Nat} (inside : lane < 16) :
    selects (full bytes <<< low) lane = true ↔ ∃ index < bytes, low + index = lane := by
  rw [selects_full_shiftLeft bytes low inside, decide_eq_true_eq]
  constructor
  · rintro ⟨above, below⟩
    exact ⟨lane - low, by omega, by omega⟩
  · rintro ⟨index, below, rfl⟩
    omega

end Strobe

end BusFabric
