import Mathlib.Data.Nat.Digits.Defs
import Mathlib.Data.Set.Card
import BusFabric.Proofs.Memory.Words
import BusFabric.Proofs.Word.Digits

set_option autoImplicit false

namespace BusFabric.Memory

/-- A word is the number that its bytes write, least significant first. -/
theorem toNat_readWord (memory : Memory) (address : Address) {bytes : Nat} (narrow : bytes ≤ 16) :
    (memory.readWord address bytes).toNat =
      Nat.ofDigits 256 ((List.range bytes).map fun lane =>
        (memory.readByte (address + BitVec.ofNat 64 lane)).toNat) := by
  have empty : ∀ lane, bytes ≤ lane → (memory.readWord address bytes).lane lane = 0 := by
    intro lane above
    rw [lane_readWord _ _ narrow, if_neg (Nat.not_lt_of_le above)]
  rw [Data.toNat_eq_ofDigits empty]
  congr 1
  apply List.map_congr_left
  intro lane listed
  rw [lane_readWord _ _ narrow, if_pos (List.mem_range.mp listed)]

/-- Writing a word brings the pages of its selected bytes into being, and no other. -/
theorem mem_pages_writeWord (memory : Memory) (address : Address) (data : Data) (strobe : Strobe)
    (bytes : Nat) {page : Nat} :
    page ∈ (memory.writeWord address data strobe bytes).pages ↔
      (∃ lane < bytes, strobe.selects lane ∧
        (address + BitVec.ofNat 64 lane).toNat / pageBytes = page) ∨ page ∈ memory.pages := by
  unfold writeWord
  induction bytes with
  | zero => simp
  | succ bytes ih =>
    rw [List.range_succ, List.foldl_append, List.foldl_cons, List.foldl_nil,
      Nat.exists_lt_succ_right]
    by_cases on : strobe.selects bytes = true
    · rw [if_pos on, mem_pages_writeByte, ih]
      simp only [on, true_and]
      exact or_left_comm.trans or_assoc.symm
    · rw [if_neg on, ih]
      simp only [on, Bool.false_eq_true, false_and, or_false]

/-- The pages are counted without repetition. -/
theorem encard_pages (memory : Memory) :
    {page | page ∈ memory.pages}.encard = memory.residentPages := by
  have keys : {page | page ∈ memory.pages} = memory.pages.keys.toFinset := by
    ext page
    simp
  rw [keys, Set.encard_coe_eq_coe_finsetCard,
    List.toFinset_card_of_nodup Std.TreeMap.nodup_keys, Std.TreeMap.length_keys]
  rfl

inductive Call where
  | readByte (address : Address)
  | readWord (address : Address) (bytes : Nat)
  | writeByte (address : Address) (byte : Byte)
  | writeWord (address : Address) (data : Data) (strobe : Strobe) (bytes : Nat)

def afterCall (memory : Memory) : Call → Memory
  | .readByte _ | .readWord _ _ => memory
  | .writeByte address byte => memory.writeByte address byte
  | .writeWord address data strobe bytes => memory.writeWord address data strobe bytes

/-- A word that is written has at most sixteen lanes and ends inside the address space. -/
def Call.Fits : Call → Prop
  | .writeWord start _ _ bytes => bytes ≤ 16 ∧ start.toNat + bytes ≤ UInt64.size
  | _ => True

/-- The byte that an access writes to an address, if it writes one there: of a word, the digit to
the base 256 whose place is that of the address among the bytes of the word. -/
def Call.byte? (address : Address) : Call → Option Byte
  | .readByte _ | .readWord _ _ => none
  | .writeByte written byte => if written = address then some byte else none
  | .writeWord start data strobe bytes =>
    let place := address.toNat - start.toNat
    if start.toNat ≤ address.toNat ∧ place < bytes ∧ strobe.toNat.testBit place then
      some (BitVec.ofNat 8 (data.toNat / 256 ^ place))
    else none

section

variable {memory : Memory} {call : Call} {address start : Address} {data : Data} {strobe : Strobe}
  {bytes page : Nat}

/-- The selected lanes of a word go to the addresses from its start on. -/
theorem Call.byte?_writeWord (inside : start.toNat + bytes ≤ UInt64.size) :
    (Call.writeWord start data strobe bytes).byte? address =
      if (address - start).toNat < bytes ∧ strobe.selects (address - start).toNat then
        some (data.lane (address - start).toNat)
      else none := by
  simp only [Call.byte?]
  by_cases within : (address - start).toNat < bytes
  · obtain ⟨above, near⟩ := (Address.toNat_sub_lt_iff inside).mp within
    have place : (address - start).toNat = address.toNat - start.toNat :=
      BitVec.toNat_sub_of_le above
    simp only [place, above, near, true_and, BitVec.testBit_toNat, Data.lane_eq_ofNat,
      Strobe.selects]
  · have outside := mt (Address.toNat_sub_lt_iff inside).mpr within
    rw [if_neg fun both => outside ⟨both.1, both.2.1⟩, if_neg fun both => within both.1]

theorem readByte_afterCall (fits : call.Fits) (memory : Memory) (address : Address) :
    (memory.afterCall call).readByte address =
      (call.byte? address).getD (memory.readByte address) := by
  cases call with
  | readByte read => rfl
  | readWord read bytes => rfl
  | writeByte written byte =>
    simp only [afterCall, Call.byte?, readByte_writeByte]
    split <;> rfl
  | writeWord start data strobe bytes =>
    rw [Call.byte?_writeWord fits.2]
    unfold afterCall
    rw [readByte_writeWord _ _ _ _ _ fits.1]
    split <;> rfl

theorem mem_pages_afterCall (fits : call.Fits) :
    page ∈ (memory.afterCall call).pages ↔
      (∃ address, (call.byte? address).isSome ∧ address.toNat / pageBytes = page) ∨
        page ∈ memory.pages := by
  cases call with
  | readByte read => simp [afterCall, Call.byte?]
  | readWord read bytes => simp [afterCall, Call.byte?]
  | writeByte written byte => simp [afterCall, Call.byte?, mem_pages_writeByte]
  | writeWord start data strobe bytes =>
    have whole : bytes ≤ UInt64.size := Nat.le_trans (Nat.le_add_left _ _) fits.2
    unfold afterCall
    rw [mem_pages_writeWord, Address.exists_lane_iff whole fun lane address =>
      strobe.selects lane ∧ address.toNat / pageBytes = page]
    simp only [Call.byte?_writeWord fits.2, Option.isSome_ite, and_assoc]

end

/-- The memory after a history of accesses, which starts with nothing written. -/
def afterCalls (calls : List Call) : Memory :=
  calls.foldl afterCall {}

/-- The byte that was written to an address last, if any was. -/
def latest? (calls : List Call) (address : Address) : Option Byte :=
  calls.reverse.findSome? (Call.byte? address)

/-- The pages of 4 KiB that hold a written byte. -/
def writtenPages (calls : List Call) : Set Nat :=
  {page | ∃ address : Address, (latest? calls address).isSome ∧ address.toNat / 4096 = page}

/-- A memory that shows what was written, and zero elsewhere. -/
structure IsFlat (calls : List Call) (memory : Memory) : Prop where
  /-- A byte is the one that was written to its address last, or zero. -/
  byte : ∀ address, memory.readByte address = (latest? calls address).getD 0
  /-- A word is the number that its bytes write, least significant first. -/
  word : ∀ address bytes, bytes ≤ 16 →
    (memory.readWord address bytes).toNat =
      Nat.ofDigits 256 ((List.range bytes).map fun lane =>
        (memory.readByte (address + BitVec.ofNat 64 lane)).toNat)
  /-- As many pages are there as hold a written byte. -/
  pages : memory.residentPages = (writtenPages calls).encard

section

variable {calls : List Call}

theorem afterCalls_concat (calls : List Call) (call : Call) :
    afterCalls (calls ++ [call]) = (afterCalls calls).afterCall call :=
  List.foldl_concat _ _ _ _

theorem latest?_concat (calls : List Call) (call : Call) (address : Address) :
    latest? (calls ++ [call]) address = (call.byte? address).or (latest? calls address) := by
  unfold latest?
  rw [List.reverse_append, List.reverse_singleton, List.findSome?_append,
    List.findSome?_singleton]

theorem readByte_foldl_afterCall (fits : ∀ call ∈ calls, call.Fits) (memory : Memory)
    (address : Address) :
    (calls.foldl afterCall memory).readByte address =
      (latest? calls address).getD (memory.readByte address) := by
  induction calls using List.reverseRecOn with
  | nil => rfl
  | append_singleton calls call ih =>
    have last := fits call (List.mem_concat_self)
    have earlier := ih fun other listed => fits other (List.mem_append_left _ listed)
    rw [List.foldl_concat, readByte_afterCall last, earlier, latest?_concat, Option.getD_or]

theorem readByte_afterCalls (fits : ∀ call ∈ calls, call.Fits) (address : Address) :
    (afterCalls calls).readByte address = (latest? calls address).getD 0 := by
  unfold afterCalls
  rw [readByte_foldl_afterCall fits, readByte_empty]

theorem mem_pages_afterCalls (fits : ∀ call ∈ calls, call.Fits) {page : Nat} :
    page ∈ (afterCalls calls).pages ↔ page ∈ writtenPages calls := by
  unfold writtenPages
  induction calls using List.reverseRecOn with
  | nil => simp [afterCalls, latest?]
  | append_singleton calls call ih =>
    have last := fits call (List.mem_concat_self)
    have earlier := ih fun other listed => fits other (List.mem_append_left _ listed)
    rw [afterCalls_concat, mem_pages_afterCall last, earlier]
    simp only [Set.mem_ofPred_eq, latest?_concat, Option.isSome_or, Bool.or_eq_true, or_and_right,
      exists_or, pageBytes]

end

/-- Whatever is read and written, a memory shows one array of bytes that starts as zeros: a byte is
the one that was written to its address last, a word is made of its bytes, on one page or on two,
and neither reading nor a lane that is not selected brings a page into being. -/
theorem memory_is_flat {calls : List Call} (fits : ∀ call ∈ calls, call.Fits) :
    IsFlat calls (afterCalls calls) where
  byte := readByte_afterCalls fits
  word address _ narrow := toNat_readWord _ address narrow
  pages := by
    have same : {page | page ∈ (afterCalls calls).pages} = writtenPages calls :=
      Set.ext fun _ => mem_pages_afterCalls fits
    rw [← same, encard_pages]

/-- A word on the border of two pages with more lanes selected than it has, a byte and a word that
each write over some of it, the last byte of the address space, and two accesses that write
nothing. -/
def sampleCalls : List Call :=
  [.writeWord 0xFFE 0x44332211 0xFFFF 4, .readWord 0x5FFC 16, .writeByte 0xFFF 0xAA,
    .writeWord 0x1000 0x9988 0x2 2, .writeWord 0x3000 0xFFFFFFFF 0 16,
    .writeWord 0xFFFFFFFFFFFFFFF0 (0x77 <<< 120) 0x8000 16]

/-- Each byte is the latest of its own, and there are three pages. -/
theorem straddling_word_reads_back :
    (∀ call ∈ sampleCalls, call.Fits) ∧
      ((afterCalls sampleCalls).readWord 0xFFE 4).toNat = 0x9933AA11 ∧
      (afterCalls sampleCalls).readByte 0xFFFFFFFFFFFFFFFF = 0x77 ∧
      (writtenPages sampleCalls).encard = 3 := by
  have fits : ∀ call ∈ sampleCalls, call.Fits := by
    simp [sampleCalls, Call.Fits, UInt64.size]
  have flat := memory_is_flat fits
  refine ⟨fits, ?_, ?_, ?_⟩
  · rw [flat.word 0xFFE 4 (by decide)]
    simp only [flat.byte]
    rfl
  · rw [flat.byte]
    rfl
  · rw [← flat.pages]
    rfl

end BusFabric.Memory
