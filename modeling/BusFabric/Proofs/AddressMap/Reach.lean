import BusFabric.Proofs.AddressMap.Admission
import Mathlib.Algebra.Group.Nat.Defs

set_option autoImplicit false

namespace BusFabric

namespace Port

variable {port : Port}

/-- Bits of the byte addresses that the lines of the port span. -/
def addressBits (port : Port) : Nat :=
  if port.protocol.isSplit then port.addressWidth.toNat
  else port.addressWidth.toNat + port.wordBytes.log2

/-- The bytes that addresses of `bits` bits tell apart, as a 64-bit count. -/
def reach (bits : Nat) : Nat :=
  if bits < 64 then 2 ^ bits else UInt64.size - 1

theorem reach_mono {bits more : Nat} (le : bits ≤ more) : reach bits ≤ reach more := by
  have size : UInt64.size = 2 ^ 64 := rfl
  unfold reach
  split
  · rename_i few
    split
    · exact Nat.pow_le_pow_right Nat.two_pos le
    · have below : 2 ^ bits < 2 ^ 64 := Nat.pow_lt_pow_right Nat.one_lt_two few
      omega
  · exact Nat.le_of_eq (if_neg (show ¬ more < 64 by omega)).symm

theorem wordBytes_of_validate (valid : port.validate = .ok ()) :
    trailingZeros port.wordBytes = port.wordBytes.log2 ∧ port.wordBytes.log2 ≤ 4 := by
  have allowed : port.dataWidth ∈ [8, 16, 32, 64, 128] := by
    unfold validate at valid
    split at valid
    · cases valid
    rename_i width
    have subset : allowedWidths port.protocol ⊆ [8, 16, 32, 64, 128] := by
      cases port.protocol <;> decide
    exact subset (Decidable.not_not.mp width)
  have zeros : ∀ width ∈ [8, 16, 32, 64, 128],
      trailingZeros (width / 8) = (width / 8).log2 ∧ (width / 8).log2 ≤ 4 := by decide
  exact zeros port.dataWidth allowed

theorem spanBits_eq (valid : port.validate = .ok ()) : port.spanBits = port.addressBits := by
  unfold spanBits addressBits
  rw [(wordBytes_of_validate valid).1]

theorem addressableBytes_eq (valid : port.validate = .ok ()) :
    port.addressableBytes = reach port.addressBits := by
  unfold addressableBytes reach
  rw [spanBits_eq valid, Nat.one_shiftLeft]

theorem addressableBytes?_of_fits (valid : port.validate = .ok ())
    (fits : port.addressBits < 2 ^ 32) :
    port.addressableBytes? = some (reach port.addressBits) := by
  unfold addressableBytes?
  rw [spanBits_eq valid, addressableBytes_eq valid]
  exact if_pos fits

theorem addressableBytes?_of_overflow (valid : port.validate = .ok ())
    (past : 2 ^ 32 ≤ port.addressBits) : port.addressableBytes? = none := by
  unfold addressableBytes?
  rw [spanBits_eq valid]
  exact if_neg (Nat.not_lt_of_le past)

def withLines (port : Port) (lines : BitVec 32) : Port :=
  { port with addressWidth := lines }

@[simp] theorem validate_withLines (port : Port) (lines : BitVec 32) :
    (port.withLines lines).validate = port.validate := rfl

theorem addressBits_withLines {lines : BitVec 32} (more : port.addressWidth ≤ lines) :
    port.addressBits ≤ (port.withLines lines).addressBits := by
  have le : port.addressWidth.toNat ≤ lines.toNat := more
  unfold addressBits withLines
  split
  · exact le
  · exact Nat.add_le_add_right le port.wordBytes.log2

end Port

namespace AddressMap

/-- A window that a map takes is taken for any span that it fits. -/
theorem insert?_span_iff {map after : AddressMap} {window : Window} {alignment span : Nat}
    (inserted : map.insert? window alignment span = .ok after) (other : Nat) :
    map.insert? window alignment other = .ok after ↔ window.size ≤ other := by
  have admits := (insert?_eq_ok inserted).1
  constructor
  · intro again
    exact (insert?_eq_ok again).1.le_span
  · intro le
    have within : ¬ (window.size > span ∨ window.finish ≥ UInt64.size) := by
      have reaches := admits.le_span
      have below := admits.below
      omega
    have fits : ¬ (window.size > other ∨ window.finish ≥ UInt64.size) := by
      have below := admits.below
      omega
    unfold insert? at inserted ⊢
    simp only [if_neg within] at inserted
    simp only [if_neg fits]
    exact inserted

/-- The address lines of a port count for its window in one way only: they have to reach it. -/
theorem register?_withLines_iff {map after : AddressMap} {slave : Port} {base : Address}
    {size : Nat} (registered : map.register? slave base size = .ok after) (lines : BitVec 32) :
    map.register? (slave.withLines lines) base size = .ok after ↔
      ∃ span, (slave.withLines lines).addressableBytes? = some span ∧ size ≤ span := by
  have inserted := (register?_eq_ok registered).2
  cases counted : (slave.withLines lines).addressableBytes? with
  | none =>
    rw [register?_of_uncounted counted]
    exact iff_of_false nofun fun ⟨_, reaches, _⟩ => nomatch reaches
  | some span =>
    rw [register?_of_counted counted]
    apply (insert?_span_iff inserted span).trans
    constructor
    · exact fun le => ⟨span, rfl, le⟩
    · rintro ⟨_, ⟨⟩, le⟩
      exact le

end AddressMap

/-- The lines of a valid port reach exactly what their bits tell apart, or all of the address space
but its last byte, if the bits are fewer than `2 ^ 32`; on a split bus they always are. Up to there
more lines never reach less, and a window that is registered for a port is registered for it with
more lines as well. Past it neither the reach nor a registration has an answer, whatever the map
holds. -/
theorem Port.lines_reach_exactly (port : Port) (valid : port.validate = .ok ()) :
    (port.addressBits < 2 ^ 32 → port.addressableBytes? = some (reach port.addressBits)) ∧
    (2 ^ 32 ≤ port.addressBits → port.addressableBytes? = none ∧
      ∀ (map : AddressMap) (base : Address) (size : Nat),
        map.register? port base size = .error (.arithmetic .overflow)) ∧
    (port.protocol.isSplit = true → port.addressBits < 2 ^ 32) ∧
    (∀ lines, port.addressWidth ≤ lines → (port.withLines lines).addressBits < 2 ^ 32 →
      ∃ few many, port.addressableBytes? = some few ∧
        (port.withLines lines).addressableBytes? = some many ∧ few ≤ many) ∧
    ∀ (map after : AddressMap) (base : Address) (size : Nat),
      map.register? port base size = .ok after →
        (∀ lines, port.addressWidth ≤ lines →
          (map.register? (port.withLines lines) base size = .ok after ↔
            (port.withLines lines).addressBits < 2 ^ 32)) ∧
        ∀ lines, map.register? (port.withLines lines) base size = .ok after ↔
          ∃ span, (port.withLines lines).addressableBytes? = some span ∧ size ≤ span := by
  have wider {lines : BitVec 32} : (port.withLines lines).validate = .ok () :=
    (validate_withLines port lines).trans valid
  have grows : ∀ lines, port.addressWidth ≤ lines → (port.withLines lines).addressBits < 2 ^ 32 →
      ∃ few many, port.addressableBytes? = some few ∧
        (port.withLines lines).addressableBytes? = some many ∧ few ≤ many := by
    intro lines more fits
    have le := addressBits_withLines more
    exact ⟨_, _, addressableBytes?_of_fits valid (Nat.lt_of_le_of_lt le fits),
      addressableBytes?_of_fits wider fits, reach_mono le⟩
  refine ⟨addressableBytes?_of_fits valid, ?_, ?_, grows, ?_⟩
  · intro past
    have uncounted := addressableBytes?_of_overflow valid past
    exact ⟨uncounted, AddressMap.register?_of_uncounted uncounted⟩
  · intro split_
    unfold addressBits
    rw [if_pos split_]
    exact port.addressWidth.isLt
  · intro map after base size registered
    refine ⟨?_, AddressMap.register?_withLines_iff registered⟩
    intro lines more
    rw [AddressMap.register?_withLines_iff registered]
    constructor
    · rintro ⟨span, counted, _⟩
      apply Nat.lt_of_not_le
      intro past
      rw [addressableBytes?_of_overflow wider past] at counted
      cases counted
    · intro fits
      obtain ⟨few, many, counted, reaches, le⟩ := grows lines more fits
      obtain ⟨its, inserted⟩ := AddressMap.register?_eq_ok registered
      obtain rfl := Option.some.inj (its.symm.trans counted)
      exact ⟨many, reaches, Nat.le_trans (AddressMap.insert?_eq_ok inserted).1.le_span le⟩

/-- A slave on the simple bus, with a window of 4 KiB. -/
def wordSlave (lines : BitVec 32) : Port :=
  { id := ⟨1⟩, name := "wb", protocol := .simpleSync, role := .slave, dataWidth := 32,
    addressWidth := lines, base := some 0, size := some 4096 }

/-- A window that 14 lines reach is registered with the most lines whose bits can be counted. -/
theorem window_stays_with_most_lines :
    (wordSlave 14).validate = .ok () ∧
      (wordSlave 14).addressableBytes? = some (Port.reach 16) ∧
      ∃ after, AddressMap.register? {} (wordSlave 14) 0 4096 = .ok after ∧
        AddressMap.register? {} (wordSlave 4294967293) 0 4096 = .ok after :=
  have valid : (wordSlave 14).validate = .ok () := rfl
  have exact_ := Port.lines_reach_exactly _ valid
  ⟨valid, exact_.1 (by decide), _, rfl,
    ((exact_.2.2.2.2 {} _ 0 4096 rfl).1 4294967293 (by decide)).mpr (by decide)⟩

/-- With all lines there are, the reach of a valid slave cannot be told, and a window does not come
to be registered for which 14 lines are enough. -/
theorem all_lines_overflow :
    (wordSlave 4294967295).validate = .ok () ∧ 64 ≤ (wordSlave 4294967295).addressBits ∧
      (wordSlave 4294967295).addressableBytes? = none ∧
      (∃ after, AddressMap.register? {} (wordSlave 14) 0 4096 = .ok after) ∧
      AddressMap.register? {} (wordSlave 4294967295) 0 4096 =
        .error (.arithmetic .overflow) :=
  ⟨rfl, by decide, by decide, ⟨_, rfl⟩, rfl⟩

end BusFabric
