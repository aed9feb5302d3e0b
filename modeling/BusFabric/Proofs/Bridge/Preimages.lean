import Mathlib.Algebra.Group.Nat.Defs
import BusFabric.Proofs.Bridge.Places

set_option autoImplicit false

namespace BusFabric.Bridge

namespace Conversion

variable {conversion : Conversion} {address other place : Address}

/-- The address bits that are moved past the top make no difference. -/
theorem translate_congr (regular : conversion.IsRegular)
    (same : address.toNat % 1 <<< (64 - conversion.scale) =
      other.toNat % 1 <<< (64 - conversion.scale)) :
    conversion.translate address = conversion.translate other := by
  obtain ⟨exponent, narrow, source, stride⟩ := exponents regular
  have scale := regular.scale_le
  have cell := regular.sourceBytes.positive
  have cells : (1 : Nat) <<< (64 - conversion.scale) = conversion.sourceBytes *
      1 <<< (64 - conversion.scale - exponent) := by
    rw [source]
    apply shift_split
    omega
  have space : UInt64.size = 1 <<< (64 - conversion.scale - exponent) * conversion.stride := by
    rw [stride, Nat.mul_comm, show UInt64.size = 1 <<< 64 by decide,
      shift_split (by omega : exponent + conversion.scale ≤ 64),
      show 64 - (exponent + conversion.scale) = 64 - conversion.scale - exponent by omega]
  have parts : ∀ address : Address, address.toNat =
      address.toNat / conversion.sourceBytes * conversion.sourceBytes +
        address.toNat % conversion.sourceBytes := by
    intro address
    rw [Nat.mul_comm, Nat.div_add_mod]
  rw [cells, parts address, parts other] at same
  obtain ⟨words, offsets⟩ := parts_of_mod (Nat.mod_lt _ cell) (Nat.mod_lt _ cell) same
  apply BitVec.eq_of_toNat_eq
  rw [toNat_translate regular, toNat_translate regular, space, Nat.mul_mod_mul_right,
    Nat.mul_mod_mul_right, words, offsets]

theorem translate_eq_iff (regular : conversion.IsRegular) :
    conversion.translate address = conversion.translate other ↔
      address.toNat % 1 <<< (64 - conversion.scale) =
        other.toNat % 1 <<< (64 - conversion.scale) := by
  have inside : ∀ address : Address,
      address.toNat % conversion.sourceBytes + 0 < conversion.stride := by
    intro address
    have offset := Nat.mod_lt address.toNat regular.sourceBytes.positive
    have least := conversion.sourceBytes_le_stride
    omega
  constructor
  · intro same
    apply translate_add_inj regular (inside address) (inside other)
    rw [same]
  · exact translate_congr regular

/-- A width that is checked is made of whole bytes. -/
theorem eight_mul_of_checkWidth {width : Nat} (checked : checkWidth width = .ok ()) :
    width = 8 * (width / 8) := by
  unfold checkWidth at checked
  split at checked
  · cases checked
  · rename_i power
    split at checked
    · cases checked
    · rename_i range
      rw [not_or, Nat.not_lt, Nat.not_lt] at range
      have whole : 8 ∣ width :=
        dvd_of_isPowerOfTwo ⟨3, rfl⟩ (Classical.not_not.mp power) range.1
      exact (Nat.mul_div_cancel' whole).symm

section

variable {source target : Protocol} {sourceWidth targetWidth : Nat}

theorem scale_eq_zero_of_between
    (built : between source sourceWidth target targetWidth = .ok conversion) :
    conversion.scale = 0 ↔ sourceWidth ≤ targetWidth := by
  have regular := isRegular_of_between built
  obtain ⟨rfl, first, second, _⟩ := eq_of_between built
  have whole := eight_mul_of_checkWidth first
  have bytes := eight_mul_of_checkWidth second
  rw [scale_eq_zero_iff regular]
  unfold sourceBytes
  dsimp only
  omega

/-- No two source bytes come onto one target byte just when no base is moved. -/
theorem translate_injective_iff
    (built : between source sourceWidth target targetWidth = .ok conversion) :
    Function.Injective conversion.translate ↔ sourceWidth ≤ targetWidth := by
  have regular := isRegular_of_between built
  rw [← scale_eq_zero_of_between built]
  constructor
  · intro injective
    apply Decidable.byContradiction
    intro moved
    have scale := regular.scale_le
    have below : (1 : Nat) <<< (64 - conversion.scale) < 2 ^ 64 := by
      rw [Nat.one_shiftLeft]
      exact Nat.pow_lt_pow_right (by decide) (by omega)
    have positive : 0 < (1 : Nat) <<< (64 - conversion.scale) := by
      rw [Nat.one_shiftLeft]
      exact Nat.two_pow_pos _
    have far : (BitVec.ofNat 64 (1 <<< (64 - conversion.scale))).toNat =
        1 <<< (64 - conversion.scale) := Nat.mod_eq_of_lt below
    have merged : conversion.translate (BitVec.ofNat 64 (1 <<< (64 - conversion.scale))) =
        conversion.translate 0 := by
      apply translate_congr regular
      rw [far, Nat.mod_self]
      exact (Nat.zero_mod _).symm
    have same := congrArg BitVec.toNat (injective merged)
    rw [far] at same
    have zero : (0 : Address).toNat = 0 := rfl
    omega
  · intro kept address other same
    have places := (translate_eq_iff regular).mp same
    rw [kept, Nat.sub_zero, Nat.one_shiftLeft, Nat.mod_eq_of_lt address.isLt,
      Nat.mod_eq_of_lt other.isLt] at places
    exact BitVec.eq_of_toNat_eq places

end

/-- The byte that the way back leads to, if it leads to any: the base is moved down and the offset
laid over it. -/
def candidate (conversion : Conversion) (place : Address) : Address :=
  ((place - conversion.offset place) >>> conversion.scale) ||| conversion.offset place

theorem untranslate?_eq (conversion : Conversion) (place : Address) :
    conversion.untranslate? place =
      if conversion.translate (conversion.candidate place) = place then
        some (conversion.candidate place)
      else none :=
  rfl

theorem toNat_candidate (regular : conversion.IsRegular) (place : Address) :
    (conversion.candidate place).toNat =
      place.toNat / conversion.sourceBytes * conversion.sourceBytes / 2 ^ conversion.scale |||
        place.toNat % conversion.sourceBytes := by
  unfold candidate
  rw [BitVec.toNat_or, BitVec.toNat_ushiftRight, toNat_sub_offset regular, toNat_offset regular,
    Nat.shiftRight_eq_div_pow]

/-- The bits that were moved past the top are taken for zero, in the gaps as well. -/
theorem candidate_lt (regular : conversion.IsRegular) (place : Address) :
    (conversion.candidate place).toNat < 2 ^ (64 - conversion.scale) := by
  obtain ⟨exponent, small, source, _⟩ := exponents regular
  have scale := regular.scale_le
  rw [toNat_candidate regular]
  apply Nat.or_lt_two_pow
  · apply Nat.div_lt_of_lt_mul
    rw [← Nat.pow_add, Nat.add_sub_cancel' (by omega)]
    exact Nat.lt_of_le_of_lt (Nat.div_mul_le_self _ _) place.isLt
  · have offset := Nat.mod_lt place.toNat regular.sourceBytes.positive
    have within : conversion.sourceBytes ≤ 2 ^ (64 - conversion.scale) := by
      rw [source, Nat.one_shiftLeft]
      exact Nat.pow_le_pow_right Nat.two_pos (by omega)
    omega

/-- The place of an address that has nothing in the bits moved past the top. -/
theorem toNat_translate_of_lt (regular : conversion.IsRegular)
    (small : address.toNat < 2 ^ (64 - conversion.scale)) :
    (conversion.translate address).toNat =
      address.toNat / conversion.sourceBytes * conversion.stride +
        address.toNat % conversion.sourceBytes := by
  have scale := regular.scale_le
  have inside : address.toNat / conversion.sourceBytes * conversion.stride < UInt64.size := by
    have base := Nat.lt_of_le_of_lt (Nat.div_mul_le_self _ conversion.sourceBytes) small
    have moved := Nat.mul_lt_mul_of_pos_right base (Nat.two_pow_pos conversion.scale)
    rw [← Nat.pow_add, Nat.sub_add_cancel (by omega)] at moved
    unfold stride
    rw [Nat.one_shiftLeft, ← Nat.mul_assoc]
    exact moved
  rw [toNat_translate regular, Nat.mod_eq_of_lt inside]

theorem candidate_translate (regular : conversion.IsRegular)
    (small : address.toNat < 2 ^ (64 - conversion.scale)) :
    conversion.candidate (conversion.translate address) = address := by
  have cell := regular.sourceBytes.positive
  have offset := Nat.mod_lt address.toNat cell
  have place := toNat_translate_of_lt regular small
  have spread : address.toNat / conversion.sourceBytes * conversion.stride =
      conversion.sourceBytes * (address.toNat / conversion.sourceBytes * 2 ^ conversion.scale) := by
    unfold stride
    rw [Nat.one_shiftLeft, Nat.mul_left_comm]
  rw [spread] at place
  apply BitVec.eq_of_toNat_eq
  rw [toNat_candidate regular, place, Nat.mul_add_mod, Nat.mod_eq_of_lt offset,
    Nat.mul_add_div cell, Nat.div_eq_of_lt offset, Nat.add_zero, Nat.mul_right_comm,
    Nat.mul_div_cancel _ (Nat.two_pow_pos _)]
  obtain ⟨exponent, _, source, _⟩ := exponents regular
  have parts := Nat.div_add_mod address.toNat conversion.sourceBytes
  rw [source, Nat.one_shiftLeft] at offset parts ⊢
  rw [Nat.mul_comm, ← Nat.two_pow_add_eq_or_of_lt offset]
  exact parts

/-- The way back from a place leads to the one address below the bits moved past the top that is
translated to it. -/
theorem untranslate?_eq_some_iff (regular : conversion.IsRegular) :
    conversion.untranslate? place = some address ↔
      conversion.translate address = place ∧ address.toNat < 2 ^ (64 - conversion.scale) := by
  rw [untranslate?_eq]
  constructor
  · intro found
    split at found
    · rename_i arrives
      cases found
      exact ⟨arrives, candidate_lt regular place⟩
    · cases found
  · rintro ⟨rfl, small⟩
    rw [candidate_translate regular small, if_pos rfl]

/-- If an address is translated to a place, one without the bits moved past the top is. -/
theorem exists_small_of_translate (regular : conversion.IsRegular) (address : Address) :
    ∃ small : Address, conversion.translate small = conversion.translate address ∧
      small.toNat < 2 ^ (64 - conversion.scale) := by
  have below : address.toNat % 2 ^ (64 - conversion.scale) < 2 ^ (64 - conversion.scale) :=
    Nat.mod_lt _ (Nat.two_pow_pos _)
  have kept : (BitVec.ofNat 64 (address.toNat % 2 ^ (64 - conversion.scale))).toNat =
      address.toNat % 2 ^ (64 - conversion.scale) :=
    Nat.mod_eq_of_lt (Nat.lt_of_le_of_lt (Nat.mod_le _ _) address.isLt)
  refine ⟨BitVec.ofNat 64 (address.toNat % 2 ^ (64 - conversion.scale)), ?_, ?_⟩
  · apply translate_congr regular
    rw [kept, Nat.one_shiftLeft, Nat.mod_mod]
  · rw [kept]
    exact below

theorem untranslate?_eq_none_iff (regular : conversion.IsRegular) :
    conversion.untranslate? place = none ↔ ∀ address, conversion.translate address ≠ place := by
  constructor
  · rintro lost address rfl
    obtain ⟨small, same, below⟩ := exists_small_of_translate regular address
    have found := (untranslate?_eq_some_iff regular).mpr ⟨same, below⟩
    rw [lost] at found
    cases found
  · intro missed
    cases found : conversion.untranslate? place with
    | none => rfl
    | some address => exact absurd ((untranslate?_eq_some_iff regular).mp found).1 (missed address)

/-- The places of source words and the gaps between them alternate. -/
theorem exists_translate_iff (regular : conversion.IsRegular) :
    (∃ address, conversion.translate address = place) ↔
      place.toNat % conversion.stride < conversion.sourceBytes := by
  have cell := regular.sourceBytes.positive
  constructor
  · rintro ⟨address, rfl⟩
    have offset := Nat.mod_lt address.toNat cell
    have aligned : conversion.stride ∣
        address.toNat / conversion.sourceBytes * conversion.stride % UInt64.size := by
      rw [Nat.dvd_mod_iff regular.stride.dvd_space]
      exact Nat.dvd_mul_left _ _
    obtain ⟨count, base⟩ := aligned
    rw [toNat_translate regular, base, Nat.mul_add_mod]
    exact Nat.lt_of_le_of_lt (Nat.mod_le _ _) offset
  · intro inside
    have parts := Nat.div_add_mod place.toNat conversion.stride
    have near : place.toNat / conversion.stride * conversion.sourceBytes ≤
        place.toNat / conversion.stride * conversion.stride :=
      Nat.mul_le_mul_left _ conversion.sourceBytes_le_stride
    rw [Nat.mul_comm] at parts
    have address : (BitVec.ofNat 64 (place.toNat / conversion.stride * conversion.sourceBytes +
        place.toNat % conversion.stride)).toNat =
          conversion.sourceBytes * (place.toNat / conversion.stride) +
            place.toNat % conversion.stride := by
      rw [Nat.mul_comm conversion.sourceBytes]
      apply Nat.mod_eq_of_lt
      have limit := place.isLt
      omega
    refine ⟨BitVec.ofNat 64 (place.toNat / conversion.stride * conversion.sourceBytes +
      place.toNat % conversion.stride), ?_⟩
    apply BitVec.eq_of_toNat_eq
    rw [toNat_translate regular, address, Nat.mul_add_div cell, Nat.div_eq_of_lt inside,
      Nat.add_zero, Nat.mul_add_mod, Nat.mod_eq_of_lt inside, Nat.mod_eq_of_lt]
    · exact parts
    · have limit := place.toNat_lt
      omega

/-- The way back is the inverse of translation, as far as there is one. From any place it leads to
an address that is translated there, and to the only such address below the bits that are moved past
the top; it ends only at the places that no address is translated to, which are the gaps between the
places of source words. An address without those bits is found again. -/
theorem untranslate?_inverts {source target : Protocol} {sourceWidth targetWidth : Nat}
    (built : between source sourceWidth target targetWidth = .ok conversion) :
    (∀ place address, conversion.untranslate? place = some address ↔
      conversion.translate address = place ∧ address.toNat < 2 ^ (64 - conversion.scale)) ∧
    (∀ place, conversion.untranslate? place = none ↔
      ∀ address, conversion.translate address ≠ place) ∧
    (∀ place, conversion.untranslate? place = none ↔
      conversion.sourceBytes ≤ place.toNat % conversion.stride) ∧
    ∀ address : Address, address.toNat < 2 ^ (64 - conversion.scale) →
      conversion.untranslate? (conversion.translate address) = some address := by
  have regular := isRegular_of_between built
  refine ⟨fun _ _ => untranslate?_eq_some_iff regular, fun _ => untranslate?_eq_none_iff regular,
    ?_, ?_⟩
  · intro place
    rw [untranslate?_eq_none_iff regular, ← not_exists, exists_translate_iff regular, Nat.not_lt]
  · intro address small
    exact (untranslate?_eq_some_iff regular).mpr ⟨rfl, small⟩

/-- Onto a bus of half the width, the second half of every stride is a gap. -/
theorem untranslate?_inverts_narrow :
    let conversion : Conversion := ⟨.wideSplit, 64, .simpleSync, 32⟩
    between .wideSplit 64 .simpleSync 32 = .ok conversion ∧
      (13 : Address).toNat < 2 ^ (64 - conversion.scale) ∧
      conversion.translate 13 = 0x15 ∧ conversion.untranslate? 0x15 = some 13 ∧
      conversion.sourceBytes ≤ (0x1D : Address).toNat % conversion.stride ∧
      ∀ address, conversion.translate address ≠ 0x1D := by
  intro conversion
  have built : between .wideSplit 64 .simpleSync 32 = .ok conversion := rfl
  obtain ⟨_, missed, gaps, again⟩ := untranslate?_inverts built
  have small : (13 : Address).toNat < 2 ^ (64 - conversion.scale) := by decide
  have arrives : conversion.translate 13 = 0x15 := by decide
  have gap : conversion.sourceBytes ≤ (0x1D : Address).toNat % conversion.stride := by decide
  refine ⟨built, small, arrives, ?_, gap, (missed _).mp ((gaps _).mpr gap)⟩
  rw [← arrives]
  exact again 13 small

end Conversion

end BusFabric.Bridge
