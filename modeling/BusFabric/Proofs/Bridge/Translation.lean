import BusFabric.Bridge.Conversion
import BusFabric.Proofs.Word.Cells

set_option autoImplicit false

namespace Except

variable {ε δ α β : Type}

theorem bind_eq_ok {first : Except ε α} {next : α → Except ε β} {result : β} :
    (first >>= next) = .ok result ↔ ∃ value, first = .ok value ∧ next value = .ok result := by
  cases first with
  | error error =>
    constructor
    · intro done
      cases done
    · rintro ⟨_, done, _⟩
      cases done
  | ok value =>
    constructor
    · intro done
      exact ⟨value, rfl, done⟩
    · rintro ⟨_, same, done⟩
      cases same
      exact done

theorem mapError_eq_ok {made : Except ε α} {change : ε → δ} {value : α} :
    made.mapError change = .ok value ↔ made = .ok value := by
  cases made with
  | error error =>
    constructor
    · intro same
      cases same
    · intro same
      cases same
  | ok made =>
    constructor
    · intro same
      cases same
      rfl
    · intro same
      cases same
      rfl

theorem bind_eq_error {first : Except ε α} {next : α → Except ε β} {error : ε} :
    (first >>= next) = .error error ↔
      first = .error error ∨ ∃ value, first = .ok value ∧ next value = .error error := by
  cases first with
  | error problem =>
    constructor
    · intro same
      cases same
      exact .inl rfl
    · rintro (same | ⟨_, done, _⟩)
      · cases same
        rfl
      · cases done
  | ok value =>
    constructor
    · intro failed
      exact .inr ⟨value, rfl, failed⟩
    · rintro (same | ⟨_, same, failed⟩)
      · cases same
      · cases same
        exact failed

theorem mapError_eq_error {made : Except ε α} {change : ε → δ} {error : δ} :
    made.mapError change = .error error ↔ ∃ cause, made = .error cause ∧ change cause = error := by
  cases made with
  | error cause =>
    constructor
    · intro same
      exact ⟨cause, rfl, Except.error.inj same⟩
    · rintro ⟨_, same, rfl⟩
      cases same
      rfl
  | ok made =>
    constructor
    · intro same
      cases same
    · rintro ⟨_, same, _⟩
      cases same

end Except

namespace BusFabric.Bridge.Conversion

/-- A width that a bridge takes: 1, 2, 4, 8 or 16 bytes. -/
def IsBusWidth (width : Nat) : Prop :=
  ∃ exponent, exponent ≤ 4 ∧ width / 8 = 1 <<< exponent

/-- Both widths of the conversion are widths that a bridge takes. -/
structure IsRegular (conversion : Conversion) : Prop where
  source : IsBusWidth conversion.sourceWidth
  target : IsBusWidth conversion.targetWidth

theorem isBusWidth_of_checkWidth {width : Nat} (checked : checkWidth width = .ok ()) :
    IsBusWidth width := by
  unfold checkWidth at checked
  split at checked
  · cases checked
  · rename_i power
    split at checked
    · cases checked
    · rename_i range
      obtain ⟨exponent, rfl⟩ := Classical.not_not.mp power
      rw [not_or, Nat.not_lt, Nat.not_lt] at range
      have low : Nat.pow 2 3 ≤ Nat.pow 2 exponent := range.1
      have high : Nat.pow 2 exponent ≤ Nat.pow 2 7 := range.2
      have least : 3 ≤ exponent := (Nat.pow_le_pow_iff_right (by decide)).mp low
      have most : exponent ≤ 7 := (Nat.pow_le_pow_iff_right (by decide)).mp high
      obtain ⟨rest, rfl⟩ := Nat.exists_eq_add_of_le least
      refine ⟨rest, by omega, ?_⟩
      rw [Nat.pow_add, Nat.one_shiftLeft]
      exact Nat.mul_div_cancel_left _ (by decide)

section

variable {source target : Protocol} {sourceWidth targetWidth : Nat} {conversion : Conversion}

theorem eq_of_between
    (built : between source sourceWidth target targetWidth = .ok conversion) :
    conversion = ⟨source, sourceWidth, target, targetWidth⟩ ∧
      checkWidth sourceWidth = .ok () ∧ checkWidth targetWidth = .ok () ∧
      isSupported source target = true := by
  unfold between at built
  obtain ⟨_, first, rest⟩ := Except.bind_eq_ok.mp built
  obtain ⟨_, second, last⟩ := Except.bind_eq_ok.mp rest
  split at last
  · rename_i supported
    exact ⟨(Except.ok.inj last).symm, first, second, supported⟩
  · cases last

theorem isRegular_of_between
    (built : between source sourceWidth target targetWidth = .ok conversion) :
    conversion.IsRegular := by
  obtain ⟨rfl, first, second, _⟩ := eq_of_between built
  exact ⟨isBusWidth_of_checkWidth first, isBusWidth_of_checkWidth second⟩

end

theorem IsBusWidth.isCell {width : Nat} (bus : IsBusWidth width) : IsCell (width / 8) := by
  obtain ⟨exponent, small, bytes⟩ := bus
  exact ⟨exponent, by omega, bytes⟩

theorem IsBusWidth.le {width : Nat} (bus : IsBusWidth width) : width / 8 ≤ 16 := by
  obtain ⟨exponent, small, bytes⟩ := bus
  rw [bytes, Nat.one_shiftLeft]
  exact Nat.pow_le_pow_right (by decide) small

theorem IsBusWidth.log2_eq {width : Nat} (bus : IsBusWidth width) :
    width / 8 = 1 <<< (width / 8).log2 ∧ (width / 8).log2 ≤ 4 := by
  obtain ⟨exponent, small, bytes⟩ := bus
  rw [bytes, Nat.one_shiftLeft, Nat.log2_two_pow, Nat.one_shiftLeft]
  exact ⟨rfl, small⟩

variable {conversion : Conversion}

namespace IsRegular

theorem splitWidth (regular : conversion.IsRegular) : IsBusWidth conversion.splitWidth := by
  unfold Conversion.splitWidth
  split
  · exact regular.source
  · exact regular.target

theorem simpleWidth (regular : conversion.IsRegular) : IsBusWidth conversion.simpleWidth := by
  unfold Conversion.simpleWidth
  split
  · exact regular.target
  · exact regular.source

theorem splitBytes (regular : conversion.IsRegular) : IsCell conversion.splitBytes :=
  regular.splitWidth.isCell

theorem simpleBytes (regular : conversion.IsRegular) : IsCell conversion.simpleBytes :=
  regular.simpleWidth.isCell

theorem sourceBytes (regular : conversion.IsRegular) : IsCell conversion.sourceBytes :=
  regular.source.isCell

theorem splitBytes_le (regular : conversion.IsRegular) : conversion.splitBytes ≤ 16 :=
  regular.splitWidth.le

theorem simpleBytes_le (regular : conversion.IsRegular) : conversion.simpleBytes ≤ 16 :=
  regular.simpleWidth.le

/-- A beat that fits on the split bus is within the limit that the bridge checks. -/
theorem size_le (regular : conversion.IsRegular) {size : Nat}
    (narrow : 1 <<< size ≤ conversion.splitBytes) : size ≤ conversion.splitBytes.log2 := by
  have power : conversion.splitBytes = 1 <<< conversion.splitBytes.log2 :=
    regular.splitWidth.log2_eq.1
  rw [power, Nat.one_shiftLeft, Nat.one_shiftLeft] at narrow
  exact (Nat.pow_le_pow_iff_right (by decide)).mp narrow

theorem scale_le (regular : conversion.IsRegular) : conversion.scale ≤ 4 := by
  have source := regular.source.log2_eq.2
  unfold scale shift Conversion.sourceBytes
  omega

end IsRegular

theorem sourceBytes_inward (inward : conversion.direction = .splitToSimple) :
    conversion.sourceBytes = conversion.splitBytes := by
  unfold splitBytes splitWidth sourceBytes
  rw [inward]

theorem sourceBytes_outward (outward : conversion.direction = .simpleToSplit) :
    conversion.sourceBytes = conversion.simpleBytes := by
  unfold simpleBytes simpleWidth sourceBytes
  rw [outward]

/-- The distance between the places of neighbouring source words in the target. -/
def stride (conversion : Conversion) : Nat :=
  conversion.sourceBytes * 1 <<< conversion.scale

theorem IsRegular.stride (regular : conversion.IsRegular) : IsCell conversion.stride := by
  obtain ⟨exponent, small, bytes⟩ := regular.source
  have bound := regular.scale_le
  refine ⟨exponent + conversion.scale, by omega, ?_⟩
  unfold Conversion.stride Conversion.sourceBytes
  rw [bytes, Nat.one_shiftLeft, Nat.one_shiftLeft, Nat.one_shiftLeft, Nat.pow_add]

theorem sourceBytes_le_stride (conversion : Conversion) :
    conversion.sourceBytes ≤ conversion.stride := by
  unfold stride
  rw [Nat.one_shiftLeft]
  exact Nat.le_mul_of_pos_right _ (Nat.two_pow_pos _)

theorem toNat_offset (regular : conversion.IsRegular) (address : Address) :
    (conversion.offset address).toNat = address.toNat % conversion.sourceBytes :=
  Address.toNat_and_mask address regular.sourceBytes

/-- What is left of an address without its offset is the base of its source word. -/
theorem toNat_sub_offset (regular : conversion.IsRegular) (address : Address) :
    (address - conversion.offset address).toNat =
      address.toNat / conversion.sourceBytes * conversion.sourceBytes := by
  have below := Nat.mod_le address.toNat conversion.sourceBytes
  have parts := Nat.div_add_mod address.toNat conversion.sourceBytes
  have limit := address.toNat_lt
  have size : UInt64.size = 18446744073709551616 := rfl
  rw [BitVec.toNat_sub, toNat_offset regular, Nat.mul_comm]
  omega

/-- Translating spreads the source words at the stride and keeps the offset in the word. -/
theorem toNat_translate (regular : conversion.IsRegular) (address : Address) :
    (conversion.translate address).toNat =
      address.toNat / conversion.sourceBytes * conversion.stride % UInt64.size +
        address.toNat % conversion.sourceBytes := by
  have moved : ((address - conversion.offset address) <<< conversion.scale).toNat =
      address.toNat / conversion.sourceBytes * conversion.stride % UInt64.size := by
    rw [BitVec.toNat_shiftLeft, toNat_sub_offset regular, Nat.shiftLeft_eq, Nat.mul_assoc]
    unfold stride
    rw [Nat.one_shiftLeft]
  unfold translate
  dsimp only
  rw [BitVec.toNat_or, moved, toNat_offset regular]
  have cell := regular.stride
  have aligned : conversion.stride ∣
      address.toNat / conversion.sourceBytes * conversion.stride % UInt64.size := by
    rw [Nat.dvd_mod_iff cell.dvd_space]
    exact Nat.dvd_mul_left _ _
  have small : address.toNat % conversion.sourceBytes < conversion.stride :=
    Nat.lt_of_lt_of_le (Nat.mod_lt _ regular.sourceBytes.positive)
      conversion.sourceBytes_le_stride
  obtain ⟨exponent, _, stride⟩ := cell
  obtain ⟨count, place⟩ := aligned
  rw [stride, Nat.one_shiftLeft] at place small ⊢
  rw [place]
  exact (Nat.two_pow_add_eq_or_of_lt small count).symm

theorem dvd_translate (regular : conversion.IsRegular) {bytes : Nat} (cell : IsCell bytes)
    {address : Address} (aligned : bytes ∣ address.toNat) :
    bytes ∣ (conversion.translate address).toNat := by
  have source := regular.sourceBytes
  rw [toNat_translate regular]
  rcases Nat.le_total bytes conversion.sourceBytes with narrow | wide
  · have inside := cell.dvd source narrow
    apply Nat.dvd_add _ ((Nat.dvd_mod_iff inside).mpr aligned)
    rw [Nat.dvd_mod_iff cell.dvd_space]
    exact Nat.dvd_mul_left_of_dvd (Nat.dvd_trans inside (Nat.dvd_mul_right _ _)) _
  · -- Whole source words start at the base of one, which moves as a whole.
    have base := Nat.dvd_trans (source.dvd cell wide) aligned
    rw [Nat.mod_eq_zero_of_dvd base, Nat.add_zero, Nat.dvd_mod_iff cell.dvd_space]
    unfold stride
    rw [← Nat.mul_assoc, Nat.div_mul_cancel base]
    exact Nat.dvd_mul_right_of_dvd aligned _

/-- The bytes of a source word stay side by side. -/
theorem translate_add (regular : conversion.IsRegular) {address : Address} {index : Nat}
    (inside : address.toNat % conversion.sourceBytes + index < conversion.sourceBytes) :
    (conversion.translate address).toNat + index < UInt64.size ∧
      conversion.translate (address + BitVec.ofNat 64 index) =
        conversion.translate address + BitVec.ofNat 64 index := by
  have cell := regular.sourceBytes
  have parts := Nat.div_add_mod address.toNat conversion.sourceBytes
  have fits : address.toNat + index < UInt64.size := by
    have start := Address.add_lt_of_dvd cell (Address.dvd_alignDown address cell) inside
    rw [Nat.add_comm (address.toNat % _), ← Nat.add_assoc, Nat.add_right_comm,
      Address.alignDown_add_mod address cell] at start
    exact start
  have sum := Address.toNat_add_ofNat fits
  have quotient : (address.toNat + index) / conversion.sourceBytes =
      address.toNat / conversion.sourceBytes := by
    rw [← parts, Nat.add_assoc, Nat.mul_add_div cell.positive, Nat.div_eq_of_lt inside,
      Nat.mul_add_div cell.positive, Nat.div_eq_of_lt (Nat.mod_lt _ cell.positive)]
  have remainder : (address.toNat + index) % conversion.sourceBytes =
      address.toNat % conversion.sourceBytes + index := by
    rw [Nat.add_mod, Nat.mod_eq_of_lt (Nat.lt_of_le_of_lt (Nat.le_add_left _ _) inside),
      Nat.mod_eq_of_lt inside]
  have below : (conversion.translate address).toNat + index < UInt64.size := by
    rw [toNat_translate regular, Nat.add_assoc]
    have wide := Nat.lt_of_lt_of_le inside conversion.sourceBytes_le_stride
    have aligned : conversion.stride ∣
        address.toNat / conversion.sourceBytes * conversion.stride % UInt64.size := by
      rw [Nat.dvd_mod_iff regular.stride.dvd_space]
      exact Nat.dvd_mul_left _ _
    have limit : address.toNat / conversion.sourceBytes * conversion.stride % UInt64.size <
        UInt64.size := Nat.mod_lt _ (by decide)
    have base : (BitVec.ofNat 64 (address.toNat / conversion.sourceBytes * conversion.stride %
        UInt64.size)).toNat =
        address.toNat / conversion.sourceBytes * conversion.stride % UInt64.size :=
      Nat.mod_eq_of_lt limit
    rw [← base] at aligned ⊢
    exact Address.add_lt_of_dvd regular.stride aligned wide
  refine ⟨below, BitVec.eq_of_toNat_eq ?_⟩
  rw [Address.toNat_add_ofNat below, toNat_translate regular, toNat_translate regular, sum,
    quotient, remainder]
  omega

end BusFabric.Bridge.Conversion
