import BusFabric.Proofs.Split.Beats
import Mathlib.Algebra.Group.Nat.Defs
import Mathlib.Data.List.Nodup

set_option autoImplicit false

namespace BusFabric

theorem turn_surj {count first place : Nat} (starts : first < count) (inside : place < count) :
    ∃ turn < count, (first + turn) % count = place := by
  refine ⟨(place + count - first) % count, Nat.mod_lt _ (by omega), ?_⟩
  have round : first + (place + count - first) = place + count := by omega
  rw [Nat.add_mod_mod, round, Nat.add_mod_right, Nat.mod_eq_of_lt inside]

namespace Checked

variable {width : Nat} {left right : BitVec width}

/-- The sum, unless it carries out of the word. -/
def add (left right : BitVec width) : Option (BitVec width) :=
  if BitVec.uaddOverflow left right then none else some (left + right)

/-- The difference, unless it borrows. -/
def sub (left right : BitVec width) : Option (BitVec width) :=
  if BitVec.usubOverflow left right then none else some (left - right)

/-- The product, unless it is too long for the word. -/
def mul (left right : BitVec width) : Option (BitVec width) :=
  if BitVec.umulOverflow left right then none else some (left * right)

/-- The remainder, unless the divisor is zero. -/
def rem (left right : BitVec width) : Option (BitVec width) :=
  if right = 0 then none else some (left % right)

theorem add_eq_some (fits : left.toNat + right.toNat < 2 ^ width) :
    add left right = some (left + right) := by
  have carry : BitVec.uaddOverflow left right = false := by
    simpa [BitVec.uaddOverflow] using fits
  simp [add, carry]

theorem sub_eq_some (le : right.toNat ≤ left.toNat) : sub left right = some (left - right) := by
  have borrow : BitVec.usubOverflow left right = false := by
    simpa [BitVec.usubOverflow] using le
  simp [sub, borrow]

theorem mul_eq_some (fits : left.toNat * right.toNat < 2 ^ width) :
    mul left right = some (left * right) := by
  have long : BitVec.umulOverflow left right = false := by
    simpa [BitVec.umulOverflow] using fits
  simp [mul, long]

theorem rem_eq_some (positive : 0 < right.toNat) :
    rem left right = some (BitVec.ofNat width (left.toNat % right.toNat)) := by
  have divisor : right ≠ 0 := by
    intro zero
    rw [zero] at positive
    exact absurd positive (by simp)
  unfold rem
  rw [if_neg divisor]
  congr 1
  apply BitVec.eq_of_toNat_eq
  rw [BitVec.toNat_umod, BitVec.toNat_ofNat]
  exact (Nat.mod_eq_of_lt (Nat.lt_of_le_of_lt (Nat.mod_le _ _) left.isLt)).symm

end Checked

namespace Address

theorem toNat_ofNat_of_lt {value : Nat} (fits : value < UInt64.size) :
    (BitVec.ofNat 64 value).toNat = value := by
  rw [BitVec.toNat_ofNat]
  exact Nat.mod_eq_of_lt fits

theorem alignDown_le (address : Address) (bytes : Nat) :
    (address.alignDown bytes).toNat ≤ address.toNat := by
  unfold alignDown
  rw [BitVec.toNat_and]
  exact Nat.and_le_left

/-- The bytes from an aligned address on, of any length, end inside the address space. -/
theorem alignDown_add_lt (address : Address) {bytes index : Nat} (fits : bytes < UInt64.size)
    (inside : index < bytes) : (address.alignDown bytes).toNat + index < UInt64.size := by
  have mask := toNat_ofNat_sub_one (Nat.zero_lt_of_lt inside) fits
  have high : (address.alignDown bytes).toNat ≤ UInt64.size - 1 - (bytes - 1) := by
    unfold alignDown
    rw [BitVec.toNat_and, BitVec.toNat_not, mask]
    exact Nat.and_le_right
  omega

/-- What lies before an address, from its aligned start on, is shorter than the length. -/
theorem sub_alignDown_lt (address : Address) {bytes : Nat} (positive : 0 < bytes)
    (fits : bytes < UInt64.size) : (address - address.alignDown bytes).toNat < bytes := by
  have mask := toNat_ofNat_sub_one positive fits
  have parts := toNat_and_add_and_not address (BitVec.ofNat 64 bytes - 1)
  have short : (address &&& (BitVec.ofNat 64 bytes - 1)).toNat ≤ bytes - 1 := by
    rw [BitVec.toNat_and, mask]
    exact Nat.and_le_right
  rw [BitVec.toNat_sub_of_le (BitVec.le_def.mpr (alignDown_le address bytes))]
  unfold alignDown
  omega

/-- Clears the offset bits of a word that holds a length. -/
def checkedAlignDown (address bytes : Address) : Option Address := do
  let offsets ← Checked.sub bytes 1
  some (address &&& ~~~offsets)

theorem checkedAlignDown_eq (address : Address) {bytes : Nat} (positive : 0 < bytes)
    (fits : bytes < UInt64.size) :
    address.checkedAlignDown (BitVec.ofNat 64 bytes) = some (address.alignDown bytes) := by
  unfold checkedAlignDown
  rw [Checked.sub_eq_some, Option.bind_eq_bind, Option.bind_some]
  · rfl
  · rw [toNat_ofNat_of_lt fits]
    exact positive

/-- Moves on by `moved` from an address and turns back to the start of its block at the end. -/
def checkedTurn (address block moved : Address) : Option Address := do
  let lower ← address.checkedAlignDown block
  let skipped ← Checked.sub address lower
  let along ← Checked.add skipped moved
  let turned ← Checked.rem along block
  Checked.add lower turned

/-- Within a block that takes no more than half of the address space, nothing is lost. -/
theorem checkedTurn_eq (address : Address) {block moved : Nat} (positive : 0 < block)
    (fits : 2 * block < UInt64.size) (short : moved < block) :
    address.checkedTurn (BitVec.ofNat 64 block) (BitVec.ofNat 64 moved) =
      some (address.alignDown block +
        BitVec.ofNat 64 (((address - address.alignDown block).toNat + moved) % block)) := by
  have below : block < UInt64.size := by omega
  have length := toNat_ofNat_of_lt below
  have moves := toNat_ofNat_of_lt (Nat.lt_trans short below)
  have skipped := sub_alignDown_lt address positive below
  unfold checkedTurn
  rw [checkedAlignDown_eq address positive below, Option.bind_eq_bind, Option.bind_some,
    Checked.sub_eq_some (alignDown_le address block), Option.bind_some]
  generalize address - address.alignDown block = before at *
  have sum : before.toNat + moved < UInt64.size := by omega
  have inside := Nat.mod_lt (before.toNat + moved) positive
  have turned := toNat_ofNat_of_lt (Nat.lt_trans inside below)
  rw [Checked.add_eq_some (by rw [moves]; exact sum), Option.bind_some,
    Checked.rem_eq_some (by rw [length]; exact positive), Option.bind_some,
    toNat_add_ofNat sum, length]
  apply Checked.add_eq_some
  rw [turned]
  exact alignDown_add_lt address below inside

end Address

namespace Split.AddressBeat

variable {burst : AddressBeat}

/-- The length of all beats together. The count of the beats is a 32-bit word. -/
def checkedBlock (burst : AddressBeat) : Option Address := do
  let beats ← Checked.add (burst.len.setWidth 32) 1
  Checked.mul (BitVec.ofNat 64 burst.beatBytes) (beats.setWidth 64)

/-- The address of data beat `index`, computed in 64-bit words. Only the sum of an incrementing
burst may go round the address space. -/
def checkedAddress (burst : AddressBeat) (index : Nat) : Option Address := do
  let aligned ← burst.address.checkedAlignDown (BitVec.ofNat 64 burst.beatBytes)
  match burst.mode with
  | .fixed => some burst.address
  | .incr =>
    if index = 0 then some burst.address
    else do
      let moved ← Checked.mul (BitVec.ofNat 64 index) (BitVec.ofNat 64 burst.beatBytes)
      some (aligned + moved)
  | .wrap => do
    let block ← burst.checkedBlock
    let moved ← Checked.mul (BitVec.ofNat 64 index) (BitVec.ofNat 64 burst.beatBytes)
    aligned.checkedTurn block moved

theorem block_pos (burst : AddressBeat) : 0 < burst.block :=
  Nat.mul_pos burst.beatBytes_pos (Nat.succ_pos _)

theorem two_mul_block_lt (burst : AddressBeat) : 2 * burst.block < UInt64.size := by
  have area := Nat.mul_le_mul (Nat.le_of_lt burst.beatBytes_lt) burst.beats_le
  exact Nat.lt_of_le_of_lt (Nat.mul_le_mul_left 2 area) (by decide)

theorem block_lt (burst : AddressBeat) : burst.block < UInt64.size :=
  Nat.lt_of_le_of_lt (Nat.le_mul_of_pos_left _ Nat.two_pos) burst.two_mul_block_lt

theorem toNat_beatBytes (burst : AddressBeat) :
    (BitVec.ofNat 64 burst.beatBytes).toNat = burst.beatBytes :=
  Address.toNat_ofNat_of_lt (Nat.lt_trans burst.beatBytes_lt (by decide))

/-- A beat's way from the first one is shorter than the block. -/
theorem mul_beatBytes_lt {index : Nat} (counted : index < burst.beats) :
    index * burst.beatBytes < burst.block := by
  unfold block
  rw [Nat.mul_comm]
  exact Nat.mul_lt_mul_of_pos_left counted burst.beatBytes_pos

theorem checkedBlock_eq (burst : AddressBeat) :
    burst.checkedBlock = some (BitVec.ofNat 64 burst.block) := by
  have few := burst.len.isLt
  have count : (burst.len.setWidth 32).toNat = burst.len.toNat :=
    BitVec.toNat_setWidth_of_le (by decide)
  have one : (1 : BitVec 32).toNat = 1 := rfl
  have counted : (burst.len.setWidth 32 + 1).setWidth 64 = BitVec.ofNat 64 burst.beats := by
    apply BitVec.eq_of_toNat_eq
    unfold beats
    rw [BitVec.toNat_setWidth, BitVec.toNat_add, count, one, BitVec.toNat_ofNat]
    omega
  have beats : (BitVec.ofNat 64 burst.beats).toNat = burst.beats :=
    Address.toNat_ofNat_of_lt (Nat.lt_of_le_of_lt burst.beats_le (by decide))
  unfold checkedBlock
  rw [Checked.add_eq_some (by omega), Option.bind_eq_bind, Option.bind_some, counted,
    Checked.mul_eq_some, ← BitVec.ofNat_mul]
  · rfl
  · rw [burst.toNat_beatBytes, beats]
    exact burst.block_lt

/-- The words on the way to the address of a beat hold their numbers. -/
theorem checkedAddress_eq (burst : AddressBeat) {index : Nat} (counted : index < burst.beats) :
    burst.checkedAddress index = some (burst.beatAddress index) := by
  have way := mul_beatBytes_lt counted
  have few := burst.beats_le
  have place : (BitVec.ofNat 64 index).toNat = index :=
    Address.toNat_ofNat_of_lt (Nat.lt_trans (Nat.lt_of_lt_of_le counted few) (by decide))
  have moved : Checked.mul (BitVec.ofNat 64 index) (BitVec.ofNat 64 burst.beatBytes) =
      some (BitVec.ofNat 64 (index * burst.beatBytes)) := by
    rw [Checked.mul_eq_some, ← BitVec.ofNat_mul]
    rw [place, burst.toNat_beatBytes]
    exact Nat.lt_trans way burst.block_lt
  unfold checkedAddress beatAddress
  rw [moved, Address.checkedAlignDown_eq _ burst.beatBytes_pos
    (Nat.lt_trans burst.beatBytes_lt (by decide)), Option.bind_eq_bind, Option.bind_some]
  cases burst.mode with
  | fixed => rfl
  | incr =>
    dsimp only
    split <;> rfl
  | wrap =>
    dsimp only
    rw [burst.checkedBlock_eq, Option.bind_some, Option.bind_some]
    exact Address.checkedTurn_eq _ burst.block_pos burst.two_mul_block_lt way

namespace GoesRound

variable {lower : Address} {first : Nat}

/-- No two beats go to one slot. -/
theorem nodup (round : GoesRound burst lower first) (cell : IsCell burst.beatBytes) :
    ((List.range burst.beats).map burst.beatAddress).Nodup := by
  apply List.Nodup.map_on _ List.nodup_range
  intro one inside another within same
  have meet := congrArg BitVec.toNat same
  rw [round.visits, round.visits] at meet
  have turns := Nat.eq_of_mul_eq_mul_right cell.positive (Nat.add_left_cancel meet)
  exact turn_inj (List.mem_range.mp inside) (List.mem_range.mp within) turns

/-- Every slot of the block is gone to, and nothing else. -/
theorem mem_iff (round : GoesRound burst lower first) {address : Address} :
    address ∈ (List.range burst.beats).map burst.beatAddress ↔
      ∃ slot < burst.beats, address.toNat = lower.toNat + slot * burst.beatBytes := by
  simp only [List.mem_map, List.mem_range]
  constructor
  · rintro ⟨beat, _, rfl⟩
    exact ⟨_, Nat.mod_lt _ (Nat.succ_pos _), round.visits beat⟩
  · rintro ⟨slot, within, place⟩
    obtain ⟨beat, counted, turn⟩ := turn_surj round.inside within
    refine ⟨beat, counted, BitVec.eq_of_toNat_eq ?_⟩
    rw [round.visits, turn, place]

end GoesRound

theorem incr_follows (size : burst.size.toNat < 32) (incr : burst.mode = .incr) (index : Nat) :
    (burst.beatAddress index).toNat / burst.beatBytes * burst.beatBytes =
      (burst.address.toNat / burst.beatBytes * burst.beatBytes + index * burst.beatBytes) %
        UInt64.size := by
  have cell := beatBytes_isCell size
  have aligned (address : Address) : (address.alignDown burst.beatBytes).toNat =
      address.toNat / burst.beatBytes * burst.beatBytes := by
    have parts := Nat.div_add_mod address.toNat burst.beatBytes
    rw [Address.toNat_alignDown address cell, Nat.mul_comm]
    omega
  have step := congrArg BitVec.toNat (alignDown_beatAddress_incr cell incr index)
  rw [BitVec.toNat_add, BitVec.toNat_ofNat, Nat.add_mod_mod, aligned, aligned] at step
  exact step

/-- Of every burst whose size a 32-bit count of bytes can say: the words that compute the address of
a beat hold all numbers on the way. The beats of an incrementing burst follow its aligned start one
by one, round the address space. Those of a wrapping burst of a legal length go round the block that
holds its start address: they all differ, and they are the slots of that block. -/
theorem beats_are_where_the_mode_says (burst : AddressBeat) (size : burst.size.toNat < 32) :
    (∀ index < burst.beats, burst.checkedAddress index = some (burst.beatAddress index)) ∧
    (burst.mode = .incr → ∀ index < burst.beats,
      (burst.beatAddress index).toNat / burst.beatBytes * burst.beatBytes =
        (burst.address.toNat / burst.beatBytes * burst.beatBytes + index * burst.beatBytes) %
          UInt64.size) ∧
    (burst.mode = .wrap → burst.beats ∈ [2, 4, 8, 16] →
      ((List.range burst.beats).map burst.beatAddress).Nodup ∧
      ∃ lower first, GoesRound burst lower first ∧
        ∀ address, address ∈ (List.range burst.beats).map burst.beatAddress ↔
          ∃ slot < burst.beats, address.toNat = lower.toNat + slot * burst.beatBytes) := by
  have cell := beatBytes_isCell size
  refine ⟨?_, ?_, ?_⟩
  · intro index counted
    exact burst.checkedAddress_eq counted
  · intro incr index _
    exact incr_follows size incr index
  · intro wrap legal
    obtain ⟨lower, first, round⟩ := goesRound_wrap cell (cell_block cell legal) wrap
    exact ⟨round.nodup cell, lower, first, round, fun address => round.mem_iff⟩

/-- A wrapping burst of four words of eight bytes at the top of the address space, which starts off
a beat boundary in its last slot. -/
def topLine : AddressBeat where
  id := 7
  address := 0xfffffffffffffff9
  len := 3
  size := 3
  mode := .wrap

/-- The line at the top is read from its last word on, and no sum leaves its word. -/
theorem topLine_goes_round : topLine.size.toNat < 32 ∧
    (List.range topLine.beats).map topLine.beatAddress =
      [0xfffffffffffffff8, 0xffffffffffffffe0, 0xffffffffffffffe8, 0xfffffffffffffff0] ∧
    (∀ index < topLine.beats, topLine.checkedAddress index = some (topLine.beatAddress index)) ∧
    ∃ lower first, GoesRound topLine lower first := by
  obtain ⟨words, _, line⟩ := beats_are_where_the_mode_says topLine (by decide)
  obtain ⟨_, lower, first, round, _⟩ := line rfl (by decide)
  exact ⟨by decide, by decide, words, lower, first, round⟩

end Split.AddressBeat

end BusFabric
