import BusFabric.Proofs.Bridge.OutboundPlan
import BusFabric.Proofs.Bridge.Places

set_option autoImplicit false

namespace BusFabric.Bridge

open Simple (Request)

/-- The beats of the burst move the byte at `byte`, counted from zero without wrapping around. -/
def Carrier.Moves (carrier : Carrier) (byte : Nat) : Prop :=
  ∃ beat < carrier.burst.beats, ∃ index < carrier.burst.beatBytes,
    (carrier.burst.beatAddress beat).toNat + index = byte

namespace Outbound

variable {bridge : Outbound} {request : Request} {byte : Nat}

/-- The burst over a word moves the bytes of whole beats, from the one in which the word starts to
the one in which it ends. -/
theorem moves_plan_iff (reach : Reach (bridge.wordStart request) bridge.conversion.simpleBytes
    bridge.conversion.splitBytes) :
    (bridge.plan request).Moves byte ↔
      ∃ beat < beatCount (bridge.wordStart request) bridge.conversion.simpleBytes
        bridge.conversion.splitBytes, ∃ index < bridge.conversion.splitBytes,
          ((bridge.wordStart request).alignDown bridge.conversion.splitBytes).toNat +
            beat * bridge.conversion.splitBytes + index = byte := by
  have burst : (bridge.plan request).burst = carrierBurst bridge.nextId (bridge.wordStart request)
      bridge.conversion.simpleBytes bridge.conversion.splitBytes := by
    rw [plan_eq bridge request reach]
  unfold Carrier.Moves
  rw [burst, reach.beats_carrierBurst, reach.beatBytes_carrierBurst]
  simp only [reach.beatAddress_carrierBurst]
  constructor
  · rintro ⟨beat, early, index, inside, rfl⟩
    refine ⟨beat, early, index, inside, ?_⟩
    rw [reach.toNat_beatStart early]
  · rintro ⟨beat, early, index, inside, rfl⟩
    refine ⟨beat, early, index, inside, ?_⟩
    rw [reach.toNat_beatStart early]

/-- The burst over a word that ends below a limit stays below it, if the limit lies between two
beats. -/
theorem lt_of_moves (reach : Reach (bridge.wordStart request) bridge.conversion.simpleBytes
    bridge.conversion.splitBytes) {limit : Nat} (whole : bridge.conversion.splitBytes ∣ limit)
    (ends : (bridge.wordStart request).toNat + bridge.conversion.simpleBytes ≤ limit)
    (moves : (bridge.plan request).Moves byte) : byte < limit := by
  obtain ⟨beat, early, index, inside, rfl⟩ := (moves_plan_iff reach).mp moves
  have parts := Address.alignDown_add_mod (bridge.wordStart request) reach.split
  have aligned := Address.dvd_alignDown (bridge.wordStart request) reach.split
  have word := reach.positive
  have before : beat * bridge.conversion.splitBytes ≤
      (bridge.wordStart request).toNat % bridge.conversion.splitBytes +
        (bridge.conversion.simpleBytes - 1) := by
    have quotient : beat ≤ ((bridge.wordStart request).toNat % bridge.conversion.splitBytes +
        (bridge.conversion.simpleBytes - 1)) / bridge.conversion.splitBytes :=
      Nat.le_of_lt_succ early
    exact Nat.le_trans (Nat.mul_le_mul_right _ quotient) (Nat.div_mul_le_self _ _)
  have last := add_le_of_dvd_of_lt (Nat.dvd_add aligned (Nat.dvd_mul_left _ beat)) whole
    (by omega)
  omega

/-- The burst moves the first byte of the word. -/
theorem moves_wordStart (reach : Reach (bridge.wordStart request) bridge.conversion.simpleBytes
    bridge.conversion.splitBytes) : (bridge.plan request).Moves (bridge.wordStart request).toNat := by
  have parts := Address.alignDown_add_mod (bridge.wordStart request) reach.split
  have inside := Nat.mod_lt (bridge.wordStart request).toNat reach.split.positive
  refine (moves_plan_iff reach).mpr ⟨0, Nat.succ_pos _, _, inside, ?_⟩
  omega

end Outbound

namespace Conversion

variable {conversion : Conversion}

/-- Translating moves an address up at most as far as its bases are scaled. -/
theorem toNat_translate_le (regular : conversion.IsRegular) (address : Address) :
    (conversion.translate address).toNat ≤ address.toNat * 1 <<< conversion.scale := by
  have parts := Nat.div_add_mod address.toNat conversion.sourceBytes
  have moved := Nat.mod_le (address.toNat / conversion.sourceBytes * conversion.stride) UInt64.size
  have kept : address.toNat % conversion.sourceBytes ≤
      address.toNat % conversion.sourceBytes * 1 <<< conversion.scale := by
    rw [Nat.one_shiftLeft]
    exact Nat.le_mul_of_pos_right _ (Nat.two_pow_pos _)
  have whole : address.toNat * 1 <<< conversion.scale =
      address.toNat / conversion.sourceBytes * conversion.stride +
        address.toNat % conversion.sourceBytes * 1 <<< conversion.scale := by
    unfold stride
    rw [← Nat.mul_assoc, ← Nat.add_mul, Nat.mul_comm _ conversion.sourceBytes, parts]
  rw [toNat_translate regular]
  omega

/-- Onto a narrower target the source words are spread by the ratio of the widths. -/
theorem targetBytes_mul (regular : conversion.IsRegular)
    (narrow : conversion.targetWidth / 8 ≤ conversion.sourceBytes) :
    conversion.targetWidth / 8 * 1 <<< conversion.scale = conversion.sourceBytes := by
  have source := regular.source.log2_eq.1
  have target := regular.target.log2_eq.1
  unfold sourceBytes at narrow ⊢
  unfold scale shift sourceBytes
  rw [Nat.one_shiftLeft] at source target ⊢
  have order : (conversion.targetWidth / 8).log2 ≤ (conversion.sourceWidth / 8).log2 := by
    rw [source, target] at narrow
    exact (Nat.pow_le_pow_iff_right (by decide)).mp narrow
  generalize (conversion.targetWidth / 8).log2 = low at target order ⊢
  generalize (conversion.sourceWidth / 8).log2 = high at source order ⊢
  rw [target, source, ← Nat.pow_add]
  congr 1
  omega

section

variable {word base : Address} (regular : conversion.IsRegular)
  (whole : conversion.sourceBytes ∣ word.toNat)
  (based : conversion.targetWidth / 8 ∣ base.toNat) (starts : base.toNat ≤ word.toNat)

include regular whole based starts

/-- A word of a window comes to lie inside the length that the window has on the target. -/
theorem translate_add_le {size : Nat} (sized : conversion.targetWidth / 8 ∣ size)
    (inside : word.toNat < base.toNat + size) :
    (conversion.translate (word - base)).toNat + conversion.sourceBytes ≤
      size * 1 <<< conversion.scale := by
  have offset : (word - base).toNat = word.toNat - base.toNat := BitVec.toNat_sub_of_le starts
  have moved := toNat_translate_le regular (word - base)
  -- The word is told from the end of the window by the smaller of the two widths.
  have room : ∃ unit, unit ∣ word.toNat - base.toNat ∧ unit ∣ size ∧
      conversion.sourceBytes ≤ unit * 1 <<< conversion.scale := by
    by_cases narrow : conversion.targetWidth / 8 ≤ conversion.sourceBytes
    · have divides := regular.target.isCell.dvd regular.sourceBytes narrow
      refine ⟨conversion.targetWidth / 8, Nat.dvd_sub (Nat.dvd_trans divides whole) based, sized, ?_⟩
      exact Nat.le_of_eq (targetBytes_mul regular narrow).symm
    · have divides := regular.sourceBytes.dvd regular.target.isCell (by omega)
      refine ⟨conversion.sourceBytes, Nat.dvd_sub whole (Nat.dvd_trans divides based),
        Nat.dvd_trans divides sized, ?_⟩
      exact conversion.sourceBytes_le_stride
  obtain ⟨unit, here, there, enough⟩ := room
  have last := add_le_of_dvd_of_lt here there (by omega)
  have scaled := Nat.mul_le_mul_right (1 <<< conversion.scale) last
  rw [Nat.add_mul] at scaled
  rw [offset] at moved
  omega

/-- Onto a narrower target, the top of the address space is not reached. -/
theorem translate_add_lt (narrow : conversion.targetWidth / 8 < conversion.sourceBytes) :
    (conversion.translate (word - base)).toNat + conversion.sourceBytes +
      conversion.targetWidth / 8 ≤ UInt64.size := by
  have offset : (word - base).toNat = word.toNat - base.toNat := BitVec.toNat_sub_of_le starts
  have divides := regular.target.isCell.dvd regular.sourceBytes (Nat.le_of_lt narrow)
  have aligned : conversion.targetWidth / 8 ∣ (word - base).toNat % conversion.sourceBytes := by
    rw [Nat.dvd_mod_iff divides, offset]
    exact Nat.dvd_sub (Nat.dvd_trans divides whole) based
  have last := add_le_of_dvd_of_lt aligned divides
    (Nat.mod_lt (word - base).toNat regular.sourceBytes.positive)
  have spread := two_mul_le_stride regular narrow
  have below := translate_room regular (word - base)
  omega

end

/-- A cell starts at any address or less than a cell behind it. -/
theorem exists_dvd_ge (base : Nat) {cell : Nat} (positive : 0 < cell) :
    ∃ first, cell ∣ first ∧ base ≤ first ∧ first < base + cell := by
  have parts := Nat.div_add_mod (base + (cell - 1)) cell
  have rest := Nat.mod_lt (base + (cell - 1)) positive
  exact ⟨cell * ((base + (cell - 1)) / cell), Nat.dvd_mul_right _ _, by omega, by omega⟩

/-- An address behind so many whole words is brought behind as many strides. -/
theorem mul_stride_le_translate (regular : conversion.IsRegular) {address : Address}
    {offset words : Nat} (place : address.toNat = offset + conversion.sourceBytes * words)
    (small : offset < conversion.sourceBytes) (fits : words * conversion.stride < UInt64.size) :
    words * conversion.stride ≤ (conversion.translate address).toNat := by
  rw [toNat_translate regular, place, Nat.add_mul_div_left _ _ regular.sourceBytes.positive,
    Nat.div_eq_of_lt small, Nat.zero_add, Nat.mod_eq_of_lt fits]
  exact Nat.le_add_right _ _

/-- If the length that a window has on the target exceeds a power of two, some word of the window
comes to lie behind it, unless it is the only one. -/
theorem exists_translate_ge (regular : conversion.IsRegular) {base : Address} {size exponent : Nat}
    (power : size.isPowerOfTwo) (several : conversion.sourceBytes < size)
    (below : base.toNat + size < UInt64.size) (low : exponent < 64)
    (exceeds : 1 <<< exponent < size * 1 <<< conversion.scale) :
    ∃ word : Address, conversion.sourceBytes ∣ word.toNat ∧ base.toNat ≤ word.toNat ∧
      word.toNat < base.toNat + size ∧
        1 <<< exponent ≤ (conversion.translate (word - base)).toNat := by
  obtain ⟨bits, narrow, source, stride⟩ := exponents regular
  obtain ⟨length, rfl⟩ := power
  have scale := regular.scale_le
  rw [source, Nat.one_shiftLeft] at several
  have longer : bits < length := (Nat.pow_lt_pow_iff_right (by decide)).mp several
  rw [Nat.one_shiftLeft, Nat.one_shiftLeft, ← Nat.pow_add] at exceeds
  have higher : exponent < length + conversion.scale :=
    (Nat.pow_lt_pow_iff_right (by decide)).mp exceeds
  -- The word whose base is moved to the power, or past it by less than a stride.
  generalize top : max exponent (bits + conversion.scale) = bit
  generalize count : 2 ^ (bit - (bits + conversion.scale)) = skipped
  have places : skipped * conversion.stride = 2 ^ bit := by
    rw [← count, stride, Nat.one_shiftLeft, ← Nat.pow_add]
    congr 1
    omega
  have early : 2 * (conversion.sourceBytes * skipped) ≤ 2 ^ length := by
    rw [← count, source, Nat.one_shiftLeft, ← Nat.pow_add, ← Nat.pow_succ']
    exact Nat.pow_le_pow_right (by decide) (by omega)
  have some_ : conversion.sourceBytes ≤ conversion.sourceBytes * skipped := by
    apply Nat.le_mul_of_pos_right
    rw [← count]
    exact Nat.two_pow_pos _
  obtain ⟨first, whole, starts, near⟩ := exists_dvd_ge base.toNat regular.sourceBytes.positive
  have placed : first + conversion.sourceBytes * skipped < UInt64.size := by omega
  generalize chosen : BitVec.ofNat 64 (first + conversion.sourceBytes * skipped) = word
  have number : word.toNat = first + conversion.sourceBytes * skipped := by
    rw [← chosen]
    exact Nat.mod_eq_of_lt placed
  have distance : (word - base).toNat =
      first - base.toNat + conversion.sourceBytes * skipped := by
    rw [BitVec.toNat_sub_of_le (BitVec.le_def.mpr (by omega)), number]
    omega
  refine ⟨word, ?_, by omega, by omega, ?_⟩
  · rw [number]
    exact Nat.dvd_add whole (Nat.dvd_mul_right _ _)
  · have fits : 2 ^ bit < UInt64.size := by
      have space : UInt64.size = 2 ^ 64 := rfl
      rw [space]
      exact Nat.pow_lt_pow_right (by decide) (by omega)
    have enough : 2 ^ exponent ≤ 2 ^ bit := Nat.pow_le_pow_right (by decide) (by omega)
    rw [← places] at enough fits
    rw [Nat.one_shiftLeft]
    exact Nat.le_trans enough (mul_stride_le_translate regular distance (by omega) fits)

end Conversion

end BusFabric.Bridge
