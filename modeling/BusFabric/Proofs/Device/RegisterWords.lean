import BusFabric.Device.RegisterFile
import BusFabric.Proofs.RegisterBank.Placement
import BusFabric.Proofs.Word.Lanes

set_option autoImplicit false

namespace BusFabric

open RegisterBank (Allocator Bank Layout PlacedRegister)

namespace RegisterBank.Bank

variable {bank : Bank} {stride dataWidth word : Nat} {registers : List PlacedRegister}
  {register : PlacedRegister}

theorem registerAt?_eq_some (inSequence : bank.InSequence stride dataWidth registers)
    (placement : bank.placement = .registers registers) (member : register ∈ registers)
    (inside : register.offset ≤ word ∧ word < register.offset + register.words) :
    bank.registerAt? word = some register := by
  obtain ⟨place, here⟩ := List.mem_iff_getElem?.mp member
  unfold registerAt?
  rw [placement]
  dsimp only
  cases found : registers.find? (fun register =>
      register.offset ≤ word ∧ word < register.offset + register.words) with
  | none => exact absurd inside (by simpa using List.find?_eq_none.mp found register member)
  | some other =>
    have shared := List.find?_some found
    rw [decide_eq_true_eq] at shared
    obtain ⟨again, there⟩ := List.mem_iff_getElem?.mp (List.mem_of_find?_eq_some found)
    obtain rfl := inSequence.place_unique here there inside shared
    exact there.symm.trans here

theorem mem_of_registerAt? (placement : bank.placement = .registers registers)
    (found : bank.registerAt? word = some register) :
    register ∈ registers ∧ register.offset ≤ word ∧ word < register.offset + register.words := by
  unfold registerAt? at found
  rw [placement] at found
  exact ⟨List.mem_of_find?_eq_some found, by simpa using List.find?_some found⟩

end RegisterBank.Bank

theorem RegisterBank.Allocator.Seats.number_lt {allocator : Allocator} {bank : Bank}
    {registers : List PlacedRegister} {register : PlacedRegister} {word : Nat}
    (seats : allocator.Seats bank) (placement : bank.placement = .registers registers)
    (member : register ∈ registers) (inside : word < register.words) :
    register.offset + word < bank.wordCount := by
  obtain ⟨place, found⟩ := List.mem_iff_getElem?.mp member
  have finish := (seats.registers registers placement).finish_le found
  omega

namespace Device.RegisterFile

variable {file : RegisterFile} {bank : Bank} {word : Nat} {register : PlacedRegister}

/-- A word of a register starts out as its part of the reset value. -/
theorem resetWord_eq (found : bank.registerAt? word = some register) :
    file.resetWord bank word =
      (register.reset.extractLsb' ((word - register.offset) * file.dataWidth)
        file.dataWidth).setWidth 64 := by
  unfold resetWord
  rw [found]
  dsimp only
  apply BitVec.eq_of_getLsbD_eq
  intro bit fits
  split
  · rename_i wide
    simp [fits, Nat.lt_of_lt_of_le fits wide]
  · rename_i narrow
    rw [BitVec.getLsbD_and, getLsbD_lowMask (by omega : file.dataWidth < 64)]
    simp [fits, Bool.and_comm]

theorem resetWord_of_none (free : bank.registerAt? word = none) : file.resetWord bank word = 0 := by
  unfold resetWord
  rw [free]

/-- No access has an answer. -/
def IsSilent (file : RegisterFile) : Prop :=
  ∀ offset, file.read? offset = none ∧ ∀ data select, file.write? offset data select = none

theorem isSilent_of_position? (nowhere : ∀ offset, file.position? offset = none) :
    file.IsSilent := by
  intro offset
  unfold read? write?
  rw [nowhere]
  exact ⟨rfl, fun _ _ => rfl⟩

/-- Without a space for each word, or for each bank, no access has an answer. -/
theorem isSilent_of_eq_zero (zero : file.granularity = 0 ∨ file.stride = 0) : file.IsSilent :=
  isSilent_of_position? fun _ => if_pos zero

/-- A register file that was made from a layout, whatever was written to it. -/
structure IsOf (file : RegisterFile) (layout : Layout) : Prop where
  granularity : file.granularity = layout.granularity
  stride : file.stride = layout.stride
  dataWidth : file.dataWidth = layout.dataWidth
  banks : file.banks.map (·.bank) = layout.banks

theorem isOf_ofLayout (layout : Layout) : (ofLayout layout).IsOf layout where
  granularity := rfl
  stride := rfl
  dataWidth := rfl
  banks := by
    simp only [ofLayout, List.map_map]
    exact List.map_id _

def state? (file : RegisterFile) (index : Nat) : Option BankState :=
  file.banks.find? (·.bank.index = index)

/-- The value of a word, counted in words from the start of the bank with an index. -/
def wordAt? (file : RegisterFile) (index word : Nat) : Option (BitVec 64) :=
  (file.stateAt? index word).map (file.word · word)

section

variable {index : Nat} {state : BankState} {offset : Address}

theorem stateAt?_eq_some :
    file.stateAt? index word = some state ↔
      file.state? index = some state ∧ word < state.bank.wordCount := by
  unfold stateAt? state?
  rw [Option.filter_eq_some_iff, decide_eq_true_eq]

theorem wordAt?_eq_some (found : file.state? index = some state)
    (inside : word < state.bank.wordCount) :
    file.wordAt? index word = some (file.word state word) := by
  unfold wordAt?
  rw [stateAt?_eq_some.mpr ⟨found, inside⟩, Option.map_some]

theorem wordAt?_eq_none_iff :
    file.wordAt? index word = none ↔
      ∀ state, file.state? index = some state → state.bank.wordCount ≤ word := by
  unfold wordAt? stateAt? state?
  rw [Option.map_eq_none_iff, Option.filter_eq_none_iff]
  simp only [decide_eq_true_eq, Nat.not_lt]

theorem read?_eq (here : file.position? offset = some (index, word)) :
    file.read? offset = some (match file.wordAt? index word with
      | some value => .ok (value.setWidth 128)
      | none => .error (.unmapped offset)) := by
  unfold read? wordAt?
  rw [here, Option.map_some]
  dsimp only
  cases file.stateAt? index word <;> rfl

def put (file : RegisterFile) (state : BankState) (word : Nat) (value : BitVec 64) :
    RegisterFile :=
  { file with
    banks := file.banks.map fun other =>
      if other.bank.index = state.bank.index then
        { state with written := state.written.insert word value }
      else other }

/-- Writing puts the merged value into the word at the offset, if it may be written. -/
theorem write?_eq (here : file.position? offset = some (index, word)) (data : Data)
    (select : Strobe) :
    file.write? offset data select =
      match file.stateAt? index word with
      | none => some (.error (.unmapped offset))
      | some state =>
        if isWritable state.bank word then
          if file.dataBytes ≤ 16 then
            some (.ok (file.put state word (file.merged (file.word state word) data select)))
          else none
        else some (.error (.readOnly offset)) := by
  unfold write?
  rw [here, Option.bind_some]
  rfl

theorem write?_unmapped (here : file.position? offset = some (index, word))
    (absent : file.wordAt? index word = none) (data : Data) (select : Strobe) :
    file.write? offset data select = some (.error (.unmapped offset)) := by
  rw [write?_eq here, Option.map_eq_none_iff.mp absent]

end

section

variable {allocator : Allocator} {index : Nat} {state : BankState}

theorem mem_of_state? (found : file.state? index = some state) : state ∈ file.banks :=
  List.mem_of_find?_eq_some found

theorem index_of_state? (found : file.state? index = some state) : state.bank.index = index := by
  simpa using List.find?_some found

theorem IsOf.mem_banks (isOf : file.IsOf allocator.layout) (held : state ∈ file.banks) :
    state.bank ∈ allocator.banks := by
  rw [← show file.banks.map (·.bank) = allocator.banks from isOf.banks]
  exact List.mem_map_of_mem held

theorem IsOf.state?_eq_some (isOf : file.IsOf allocator.layout) (sound : allocator.IsSound)
    (member : bank ∈ allocator.banks) :
    ∃ state, file.state? bank.index = some state ∧ state.bank = bank := by
  obtain ⟨state, held, rfl⟩ : ∃ state ∈ file.banks, state.bank = bank := by
    rw [← show file.banks.map (·.bank) = allocator.banks from isOf.banks] at member
    exact List.mem_map.mp member
  cases found : file.state? state.bank.index with
  | none => simpa using List.find?_eq_none.mp found state held
  | some other =>
    have listed := isOf.mem_banks (mem_of_state? found)
    exact ⟨other, rfl, sound.bank_unique listed member (index_of_state? found)⟩

theorem state?_ofLayout (layout : Layout) (index : Nat) :
    (ofLayout layout).state? index =
      (layout.banks.find? (·.index = index)).map ({ bank := · }) := by
  unfold state? ofLayout
  rw [List.find?_map]
  rfl

theorem wordAt?_ofLayout (sound : allocator.IsSound)
    (member : bank ∈ allocator.banks) (inside : word < bank.wordCount) :
    (ofLayout allocator.layout).wordAt? bank.index word =
      some ((ofLayout allocator.layout).resetWord bank word) := by
  obtain ⟨state, found, rfl⟩ := (isOf_ofLayout allocator.layout).state?_eq_some sound member
  have fresh : state.written = {} := by
    rw [state?_ofLayout, Option.map_eq_some_iff] at found
    obtain ⟨bank, _, rfl⟩ := found
    rfl
  rw [wordAt?_eq_some found inside]
  unfold RegisterFile.word
  rw [fresh, Std.TreeMap.getD_emptyc]

end

end Device.RegisterFile

end BusFabric
