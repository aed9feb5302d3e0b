import Mathlib.Algebra.Group.Nat.Defs
import BusFabric.Proofs.Device.RegisterWords

set_option autoImplicit false

namespace BusFabric

open RegisterBank (Allocator Bank Layout PlacedRegister)

namespace RegisterBank

/-- The layouts there are: those of the banks that an allocator has placed, and those without a
bank. -/
inductive Layout.IsMade : Layout → Prop
  | allocated {bus : Port} {origin : Address} {granularity stride maxBanks : Nat}
      {start : Allocator}
      (created : Allocator.create bus origin granularity stride maxBanks = .ok start)
      (calls : List Declaration) : IsMade (start.allocateEach calls).1.layout
  | empty (origin : Address) (granularity stride dataWidth : Nat) :
      IsMade { origin, granularity, stride, dataWidth }

theorem Layout.IsMade.exists_allocator {layout : Layout} (made : layout.IsMade) :
    ∃ allocator : Allocator, allocator.IsSound ∧ allocator.layout = layout := by
  cases made with
  | allocated created calls => exact ⟨_, (Allocator.follows_create created calls).sound, rfl⟩
  | empty origin granularity stride dataWidth =>
    refine ⟨⟨⟨0⟩, origin, granularity, stride, dataWidth, 0, []⟩, ⟨?_, ?_, ?_⟩, rfl⟩ <;> simp

def Bank.IsReadOnly (bank : Bank) (word : Nat) : Prop :=
  ∃ registers, bank.placement = .registers registers ∧
    ∃ register ∈ registers, register.access = .readOnly ∧
      register.offset ≤ word ∧ word < register.offset + register.words

def Layout.HasWord (layout : Layout) (index word : Nat) : Prop :=
  ∃ bank ∈ layout.banks, bank.index = index ∧ word < bank.wordCount

def Layout.IsReadOnly (layout : Layout) (index word : Nat) : Prop :=
  ∃ bank ∈ layout.banks, bank.index = index ∧ bank.IsReadOnly word

end RegisterBank

namespace Device.RegisterFile

/-! ### Lanes of a written word -/

section

variable {file : RegisterFile} {value : BitVec 64} {data : Data} {select : Strobe} {lane : Nat}

theorem lane_setWidth_setWidth (word : Data) (small : lane < 8) :
    Data.lane ((word.setWidth 64).setWidth 128) lane = word.lane lane := by
  apply BitVec.eq_of_getLsbD_eq
  intro bit low
  have narrow : 8 * lane + bit < 64 := by omega
  have fits : 8 * lane + bit < 128 := by omega
  rw [Data.getLsbD_lane, Data.getLsbD_lane]
  simp only [BitVec.getLsbD_setWidth, narrow, fits, decide_true, Bool.true_and]

/-- The lanes that are selected come from the bus, the others stay. -/
theorem lane_merged (inside : lane < file.dataWidth / 8) (small : lane < 8) :
    Data.lane ((file.merged value data select).setWidth 128) lane =
      if select.selects lane then data.lane lane else Data.lane (value.setWidth 128) lane := by
  unfold merged dataBytes
  rw [lane_setWidth_setWidth _ small, Data.lane_truncate, if_pos inside, ← List.foldl_filter]
  by_cases selected : select.selects lane
  · rw [if_pos selected]
    apply Data.lane_foldl_setLane_of_mem _ (fun lane => lane) data.lane _ (by omega)
    · intro other _ same
      rw [same]
    · exact ⟨lane, List.mem_filter.mpr ⟨List.mem_range.mpr inside, selected⟩, rfl⟩
  · rw [if_neg selected]
    apply Data.lane_foldl_setLane_of_not_mem _ (fun lane => lane) data.lane
    intro other held same
    rw [same] at held
    exact selected (List.mem_filter.mp held).2

/-- A written word has no more bits than the bus. -/
theorem merged_lt (value : BitVec 64) (data : Data) (select : Strobe) :
    (file.merged value data select).toNat < 2 ^ file.dataWidth := by
  apply Nat.lt_pow_two_of_testBit
  intro bit high
  rw [BitVec.testBit_toNat]
  unfold merged dataBytes
  rw [BitVec.getLsbD_setWidth, Data.getLsbD_truncate]
  have past : ¬ bit < 8 * (file.dataWidth / 8) := by omega
  simp [past]

theorem resetWord_lt (bank : Bank) (word : Nat) :
    (file.resetWord bank word).toNat < 2 ^ file.dataWidth := by
  cases found : bank.registerAt? word with
  | none =>
    rw [resetWord_of_none found]
    exact Nat.two_pow_pos _
  | some register =>
    rw [resetWord_eq found, BitVec.toNat_setWidth]
    exact Nat.lt_of_le_of_lt (Nat.mod_le _ _) (BitVec.isLt _)

end

/-! ### One write -/

section

variable {file after : RegisterFile} {state : BankState} {index number : Nat} {value : BitVec 64}
  {offset : Address} {data : Data} {select : Strobe}

theorem state?_put (file : RegisterFile) (state : BankState) (word : Nat) (value : BitVec 64)
    (index : Nat) :
    (file.put state word value).state? index =
      (file.state? index).map fun other =>
        if other.bank.index = state.bank.index then
          { state with written := state.written.insert word value }
        else other := by
  unfold state? put
  rw [List.find?_map]
  congr 2
  funext other
  dsimp only [Function.comp_apply]
  split
  · rename_i same
    rw [same]
  · rfl

theorem wordAt?_put_same (found : file.state? state.bank.index = some state)
    (inside : number < state.bank.wordCount) :
    (file.put state number value).wordAt? state.bank.index number = some value := by
  have now : (file.put state number value).state? state.bank.index =
      some { state with written := state.written.insert number value } := by
    rw [state?_put, found, Option.map_some, if_pos rfl]
  rw [wordAt?_eq_some now inside]
  unfold word
  rw [Std.TreeMap.getD_insert_self]

theorem wordAt?_put_other {word : Nat} (found : file.state? state.bank.index = some state)
    (apart : (index, number) ≠ (state.bank.index, word)) :
    (file.put state word value).wordAt? index number = file.wordAt? index number := by
  unfold wordAt? stateAt?
  rw [← state?, ← state?, state?_put]
  by_cases same : index = state.bank.index
  · have elsewhere : word ≠ number := fun here => apart (by rw [same, here])
    rw [same, found, Option.map_some, if_pos rfl]
    by_cases inside : number < state.bank.wordCount
    · rw [Option.filter_some_pos (by simpa using inside),
        Option.filter_some_pos (by simpa using inside), Option.map_some, Option.map_some]
      unfold RegisterFile.word
      rw [Std.TreeMap.getD_insert, if_neg (by simpa using elsewhere)]
      rfl
    · rw [Option.filter_some_neg (by simpa using inside),
        Option.filter_some_neg (by simpa using inside)]
      rfl
  · cases here : file.state? index with
    | none => rfl
    | some other =>
      have its := index_of_state? here
      have elsewhere : ¬ other.bank.index = state.bank.index := by omega
      rw [Option.map_some, if_neg elsewhere]
      rfl

theorem put_of_write? (here : file.position? offset = some (index, number))
    (written : file.write? offset data select = some (.ok after)) :
    ∃ state, file.state? index = some state ∧ number < state.bank.wordCount ∧
      after = file.put state number (file.merged (file.word state number) data select) := by
  rw [write?_eq here] at written
  cases found : file.stateAt? index number with
  | none => simp [found] at written
  | some state =>
    obtain ⟨its, inside⟩ := stateAt?_eq_some.mp found
    refine ⟨state, its, inside, ?_⟩
    rw [found] at written
    dsimp only at written
    split at written
    · split at written
      · exact (Except.ok.inj (Option.some.inj written)).symm
      · cases written
    · cases written

theorem exists_position?_of_write? {answer : Except AccessError RegisterFile}
    (written : file.write? offset data select = some answer) :
    ∃ index number, file.position? offset = some (index, number) := by
  obtain ⟨⟨index, number⟩, here, _⟩ := Option.bind_eq_some_iff.mp written
  exact ⟨index, number, here⟩

/-- The word that is written takes the selected lanes. -/
theorem wordAt?_write? (here : file.position? offset = some (index, number))
    (written : file.write? offset data select = some (.ok after)) :
    ∃ old, file.wordAt? index number = some old ∧
      after.wordAt? index number = some (file.merged old data select) := by
  obtain ⟨state, found, inside, rfl⟩ := put_of_write? here written
  obtain rfl := index_of_state? found
  exact ⟨file.word state number, wordAt?_eq_some found inside, wordAt?_put_same found inside⟩

theorem wordAt?_write?_other (written : file.write? offset data select = some (.ok after))
    (apart : file.position? offset ≠ some (index, number)) :
    after.wordAt? index number = file.wordAt? index number := by
  obtain ⟨place, word, here⟩ := exists_position?_of_write? written
  obtain ⟨state, found, inside, rfl⟩ := put_of_write? here written
  obtain rfl := index_of_state? found
  apply wordAt?_put_other found
  intro same
  rw [here, same] at apart
  exact apart rfl

end

/-! ### Words that may be written -/

section

variable {file after : RegisterFile} {allocator : Allocator} {bank : Bank} {index number : Nat}
  {offset : Address} {data : Data} {select : Strobe}

theorem isWritable_iff (sound : allocator.IsSound) (member : bank ∈ allocator.banks) :
    isWritable bank number ↔ ¬ bank.IsReadOnly number := by
  unfold isWritable Bank.IsReadOnly
  cases found : bank.registerAt? number with
  | none =>
    simp only [true_iff]
    rintro ⟨registers, placement, register, held, _, inside⟩
    have its := Bank.registerAt?_eq_some ((sound.seats bank member).registers registers placement)
      placement held inside
    rw [found] at its
    cases its
  | some register =>
    dsimp only
    rw [decide_eq_true_eq]
    constructor
    · rintro writable ⟨registers, placement, other, held, protected', inside⟩
      have its := Bank.registerAt?_eq_some
        ((sound.seats bank member).registers registers placement) placement held inside
      obtain rfl := Option.some.inj (found.symm.trans its)
      rw [writable] at protected'
      cases protected'
    · intro free
      cases access : register.access with
      | readWrite => rfl
      | readOnly =>
        cases placement : bank.placement with
        | memory words =>
          unfold Bank.registerAt? at found
          rw [placement] at found
          cases found
        | registers registers =>
          obtain ⟨held, inside⟩ := Bank.mem_of_registerAt? placement found
          exact absurd ⟨registers, placement, register, held, access, inside⟩ free

theorem hasWord_of_isReadOnly (sound : allocator.IsSound)
    (guarded : allocator.layout.IsReadOnly index number) : allocator.layout.HasWord index number := by
  obtain ⟨bank, member, its, registers, placement, register, held, _, _, finish⟩ := guarded
  refine ⟨bank, member, its, ?_⟩
  obtain ⟨place, found⟩ := List.mem_iff_getElem?.mp held
  exact Nat.lt_of_lt_of_le finish
    (((sound.seats bank member).registers registers placement).finish_le found)

theorem IsOf.wordAt?_eq_none (isOf : file.IsOf allocator.layout) (sound : allocator.IsSound) :
    file.wordAt? index number = none ↔ ¬ allocator.layout.HasWord index number := by
  rw [wordAt?_eq_none_iff]
  constructor
  · rintro beyond ⟨bank, member, rfl, inside⟩
    obtain ⟨state, found, rfl⟩ := isOf.state?_eq_some sound member
    exact absurd inside (Nat.not_lt_of_le (beyond state found))
  · intro without state found
    have member := isOf.mem_banks (mem_of_state? found)
    by_contra inside
    exact without ⟨state.bank, member, index_of_state? found, Nat.lt_of_not_le inside⟩

/-- What a write does depends on the word at its offset alone. -/
theorem IsOf.write?_cases (isOf : file.IsOf allocator.layout) (sound : allocator.IsSound)
    (here : file.position? offset = some (index, number)) (data : Data) (select : Strobe) :
    (¬ allocator.layout.HasWord index number ∧
        file.write? offset data select = some (.error (.unmapped offset))) ∨
      (allocator.layout.IsReadOnly index number ∧
        file.write? offset data select = some (.error (.readOnly offset))) ∨
      (allocator.layout.HasWord index number ∧ ¬ allocator.layout.IsReadOnly index number ∧
        if allocator.dataWidth / 8 ≤ 16 then ∃ after, file.write? offset data select = some (.ok after)
        else file.write? offset data select = none) := by
  by_cases mapped : allocator.layout.HasWord index number
  · obtain ⟨bank, member, rfl, inside⟩ := mapped
    obtain ⟨state, found, rfl⟩ := isOf.state?_eq_some sound member
    have its := stateAt?_eq_some.mpr ⟨found, inside⟩
    by_cases guarded : state.bank.IsReadOnly number
    · refine .inr (.inl ⟨⟨state.bank, member, rfl, guarded⟩, ?_⟩)
      rw [write?_eq here, its]
      dsimp only
      rw [if_neg]
      rwa [isWritable_iff sound member, not_not]
    · refine .inr (.inr ⟨⟨state.bank, member, rfl, inside⟩, ?_, ?_⟩)
      · rintro ⟨other, listed, same, readOnly⟩
        rw [sound.bank_unique listed member same] at readOnly
        exact guarded readOnly
      · have width : file.dataBytes = allocator.dataWidth / 8 := by
          unfold dataBytes
          rw [isOf.dataWidth]
          rfl
        rw [write?_eq here, its]
        dsimp only
        rw [if_pos ((isWritable_iff sound member).mpr guarded), width]
        split
        · exact ⟨_, rfl⟩
        · rfl
  · exact .inl ⟨mapped,
      write?_unmapped here ((isOf.wordAt?_eq_none sound).mpr mapped) data select⟩

theorem IsOf.write? (isOf : file.IsOf allocator.layout) (sound : allocator.IsSound)
    (written : file.write? offset data select = some (.ok after)) :
    after.IsOf allocator.layout := by
  obtain ⟨index, number, here⟩ := exists_position?_of_write? written
  obtain ⟨state, found, _, rfl⟩ := put_of_write? here written
  have member := isOf.mem_banks (mem_of_state? found)
  refine ⟨isOf.granularity, isOf.stride, isOf.dataWidth, ?_⟩
  rw [← isOf.banks]
  unfold put
  rw [List.map_map]
  apply List.map_congr_left
  intro other held
  dsimp only [Function.comp_apply]
  split
  · rename_i same
    exact sound.bank_unique member (isOf.mem_banks held) same.symm
  · rfl

end

/-! ### Any number of accesses -/

/-- An access of a register file. -/
inductive Call where
  | read (offset : Address)
  | write (offset : Address) (data : Data) (select : Strobe)

/-- The file after an access, if that has an answer. One that is refused leaves it as it was. -/
def afterCall? (file : RegisterFile) : Call → Option RegisterFile
  | .read offset => (file.read? offset).map fun _ => file
  | .write offset data select =>
    (file.write? offset data select).map fun
      | .ok after => after
      | .error _ => file

/-- The file after a history of accesses, if all of them have an answer. -/
def afterCalls? (file : RegisterFile) (calls : List Call) : Option RegisterFile :=
  calls.foldlM afterCall? file

def Call.byte? (file : RegisterFile) (index word lane : Nat) : Call → Option Byte
  | .read _ => none
  | .write offset data select =>
    if file.position? offset = some (index, word) ∧ select.selects lane then some (data.lane lane)
    else none

/-- The byte that the latest of some accesses means for a lane of a word, if any has one. -/
def latest? (file : RegisterFile) (calls : List Call) (index word lane : Nat) : Option Byte :=
  calls.reverse.findSome? (Call.byte? file index word lane)

section

variable {file after : RegisterFile} {layout : Layout} {allocator : Allocator} {calls : List Call}
  {call : Call} {bank : Bank} {index number lane : Nat} {value : BitVec 64}

theorem afterCalls?_concat (file : RegisterFile) (calls : List Call) (call : Call) :
    file.afterCalls? (calls ++ [call]) = (file.afterCalls? calls).bind (·.afterCall? call) := by
  unfold afterCalls?
  rw [List.foldlM_append]
  congr 1
  funext file
  exact bind_pure (file.afterCall? call)

theorem latest?_concat (file : RegisterFile) (calls : List Call) (call : Call)
    (index word lane : Nat) :
    file.latest? (calls ++ [call]) index word lane =
      (call.byte? file index word lane).or (file.latest? calls index word lane) := by
  unfold latest?
  rw [List.reverse_append, List.reverse_singleton, List.singleton_append, List.findSome?_cons]
  cases call.byte? file index word lane <;> rfl

theorem Call.byte?_write (file : RegisterFile) (index word lane : Nat) (offset : Address)
    (data : Data) (select : Strobe) :
    (Call.write offset data select).byte? file index word lane =
      if file.position? offset = some (index, word) ∧ select.selects lane then
        some (data.lane lane)
      else none :=
  rfl

theorem afterCall?_write_error {offset : Address} {data : Data} {select : Strobe}
    {error : AccessError} (refused : file.write? offset data select = some (.error error)) :
    file.afterCall? (.write offset data select) = some file := by
  dsimp only [afterCall?]
  rw [refused, Option.map_some]

/-- What an access with an answer may do: it leaves the file as it was, being a read or refused, or
it writes to it. -/
theorem afterCall?_cases (ran : file.afterCall? call = some after) :
    (after = file ∧ ∀ offset data select, call = .write offset data select →
        ∃ error, file.write? offset data select = some (.error error)) ∨
      ∃ offset data select, call = .write offset data select ∧
        file.write? offset data select = some (.ok after) := by
  cases call with
  | read offset =>
    obtain ⟨_, _, rfl⟩ := Option.map_eq_some_iff.mp ran
    exact .inl ⟨rfl, nofun⟩
  | write offset data select =>
    obtain ⟨answer, written, its⟩ := Option.map_eq_some_iff.mp ran
    cases answer with
    | ok other =>
      obtain rfl : other = after := its
      exact .inr ⟨offset, data, select, rfl, written⟩
    | error error =>
      obtain rfl : file = after := its
      refine .inl ⟨rfl, ?_⟩
      rintro _ _ _ ⟨⟩
      exact ⟨error, written⟩

theorem IsOf.afterCall? (isOf : file.IsOf allocator.layout) (sound : allocator.IsSound)
    (ran : file.afterCall? call = some after) : after.IsOf allocator.layout := by
  rcases afterCall?_cases ran with ⟨rfl, _⟩ | ⟨_, _, _, _, written⟩
  · exact isOf
  · exact isOf.write? sound written

theorem isOf_afterCalls? (sound : allocator.IsSound)
    (ran : (ofLayout allocator.layout).afterCalls? calls = some file) :
    file.IsOf allocator.layout := by
  induction calls using List.reverseRecOn generalizing file with
  | nil =>
    obtain rfl := Option.some.inj ran
    exact isOf_ofLayout _
  | append_singleton calls call ih =>
    rw [afterCalls?_concat] at ran
    obtain ⟨before, earlier, last⟩ := Option.bind_eq_some_iff.mp ran
    exact (ih earlier).afterCall? sound last

/-- Files of a layout find the same words. -/
theorem IsOf.position?_eq {other : RegisterFile} (isOf : file.IsOf layout)
    (also : other.IsOf layout) (offset : Address) :
    file.position? offset = other.position? offset := by
  unfold position?
  rw [isOf.granularity, isOf.stride, also.granularity, also.stride]

/-- A file answers every access if its layout leaves space for each word and its bus has a bit of
the strobe for each lane. -/
theorem IsOf.isRegular (isOf : file.IsOf layout) (spaced : 0 < layout.granularity)
    (positive : 0 < layout.stride) (lanes : layout.dataWidth / 8 ≤ 16) : file.IsRegular := by
  constructor
  · rwa [isOf.granularity]
  · rwa [isOf.stride]
  · unfold dataBytes
    rwa [isOf.dataWidth]

theorem IsRegular.exists_afterCall? (regular : file.IsRegular) (call : Call) :
    ∃ after, file.afterCall? call = some after := by
  rw [← Option.isSome_iff_exists]
  cases call with
  | read offset =>
    unfold RegisterFile.afterCall?
    rw [Option.isSome_map]
    exact regular.isSome_read? offset
  | write offset data select =>
    unfold RegisterFile.afterCall?
    rw [Option.isSome_map, Option.isSome_iff_ne_none]
    exact regular.write?_ne_none offset data select

theorem exists_afterCalls? (sound : allocator.IsSound) (spaced : 0 < allocator.granularity)
    (positive : 0 < allocator.stride) (lanes : allocator.dataWidth / 8 ≤ 16) (calls : List Call) :
    ∃ file, (ofLayout allocator.layout).afterCalls? calls = some file := by
  induction calls using List.reverseRecOn with
  | nil => exact ⟨_, rfl⟩
  | append_singleton calls call ih =>
    obtain ⟨file, ran⟩ := ih
    rw [afterCalls?_concat, ran, Option.bind_some]
    have isOf := isOf_afterCalls? sound ran
    exact (isOf.isRegular spaced positive lanes).exists_afterCall? call

/-- A word of a read-only register is not changed by any access. -/
theorem wordAt?_afterCall?_of_isReadOnly (isOf : file.IsOf allocator.layout)
    (sound : allocator.IsSound) (guarded : allocator.layout.IsReadOnly index number)
    (ran : file.afterCall? call = some after) :
    after.wordAt? index number = file.wordAt? index number := by
  rcases afterCall?_cases ran with ⟨rfl, _⟩ | ⟨offset, data, select, rfl, written⟩
  · rfl
  · apply wordAt?_write?_other written
    intro here
    rcases isOf.write?_cases sound here data select with ⟨unmapped, _⟩ | ⟨_, refused⟩ | ⟨_, free, _⟩
    · exact unmapped (hasWord_of_isReadOnly sound guarded)
    · rw [refused] at written
      cases written
    · exact free guarded

theorem wordAt?_afterCalls?_of_isReadOnly (sound : allocator.IsSound)
    (guarded : allocator.layout.IsReadOnly index number)
    (ran : (ofLayout allocator.layout).afterCalls? calls = some file) :
    file.wordAt? index number = (ofLayout allocator.layout).wordAt? index number := by
  induction calls using List.reverseRecOn generalizing file with
  | nil =>
    obtain rfl := Option.some.inj ran
    rfl
  | append_singleton calls call ih =>
    rw [afterCalls?_concat] at ran
    obtain ⟨before, earlier, last⟩ := Option.bind_eq_some_iff.mp ran
    rw [wordAt?_afterCall?_of_isReadOnly (isOf_afterCalls? sound earlier) sound guarded last,
      ih earlier]

/-- What a word that may be written holds after some accesses. -/
structure Holds (start : RegisterFile) (calls : List Call) (index number : Nat)
    (initial value : BitVec 64) : Prop where
  /-- It has no more bits than the bus. -/
  lt : value.toNat < 2 ^ start.dataWidth
  /-- A lane has the byte that was last written to it, and the one it started with before. -/
  lanes : ∀ lane < start.dataWidth / 8, lane < 8 →
    Data.lane (value.setWidth 128) lane =
      (start.latest? calls index number lane).getD (Data.lane (initial.setWidth 128) lane)

/-- An access that means nothing for a word leaves what it holds. -/
theorem Holds.skip {start : RegisterFile} {initial : BitVec 64}
    (holds : start.Holds calls index number initial value)
    (silent : ∀ lane, call.byte? start index number lane = none) :
    start.Holds (calls ++ [call]) index number initial value := by
  refine ⟨holds.lt, fun lane inside small => ?_⟩
  rw [latest?_concat, silent, Option.none_or]
  exact holds.lanes lane inside small

theorem Holds.merge {start : RegisterFile} {initial : BitVec 64} {offset : Address} {data : Data}
    {select : Strobe} (holds : start.Holds calls index number initial value)
    (width : file.dataWidth = start.dataWidth)
    (here : start.position? offset = some (index, number)) :
    start.Holds (calls ++ [.write offset data select]) index number initial
      (file.merged value data select) := by
  constructor
  · rw [← width]
    exact merged_lt value data select
  · intro lane inside small
    rw [latest?_concat, lane_merged (by rwa [width]) small, holds.lanes lane inside small,
      Call.byte?_write]
    by_cases selected : select.selects lane
    · rw [if_pos selected, if_pos ⟨here, selected⟩]
      rfl
    · rw [if_neg selected, if_neg fun both => selected both.2]
      rfl

theorem holds_afterCall? {initial : BitVec 64} (isOf : file.IsOf allocator.layout)
    (sound : allocator.IsSound) (free : ¬ allocator.layout.IsReadOnly index number)
    (found : file.wordAt? index number = some value)
    (holds : (ofLayout allocator.layout).Holds calls index number initial value)
    (ran : file.afterCall? call = some after) :
    ∃ next, after.wordAt? index number = some next ∧
      (ofLayout allocator.layout).Holds (calls ++ [call]) index number initial next := by
  have same := isOf.position?_eq (isOf_ofLayout allocator.layout)
  have mapped : allocator.layout.HasWord index number := by
    by_contra unmapped
    rw [(isOf.wordAt?_eq_none sound).mpr unmapped] at found
    cases found
  rcases afterCall?_cases ran with ⟨rfl, refused⟩ | ⟨offset, data, select, rfl, written⟩
  · refine ⟨value, found, holds.skip fun lane => ?_⟩
    cases call with
    | read offset => rfl
    | write offset data select =>
      obtain ⟨error, refused⟩ := refused offset data select rfl
      rw [Call.byte?_write, ← same, if_neg]
      rintro ⟨here, _⟩
      rcases isOf.write?_cases sound here data select with
        ⟨unmapped, _⟩ | ⟨guarded, _⟩ | ⟨_, _, answered⟩
      · exact unmapped mapped
      · exact free guarded
      · rw [refused] at answered
        split at answered
        · obtain ⟨_, written⟩ := answered
          cases written
        · cases answered
  · by_cases here : file.position? offset = some (index, number)
    · obtain ⟨old, before, now⟩ := wordAt?_write? here written
      obtain rfl := Option.some.inj (found.symm.trans before)
      exact ⟨_, now, holds.merge isOf.dataWidth (by rw [← same, here])⟩
    · rw [wordAt?_write?_other written here]
      refine ⟨value, found, holds.skip fun lane => ?_⟩
      rw [Call.byte?_write, ← same, if_neg fun both => here both.1]

theorem holds_afterCalls? {initial : BitVec 64} (sound : allocator.IsSound)
    (free : ¬ allocator.layout.IsReadOnly index number)
    (found : (ofLayout allocator.layout).wordAt? index number = some initial)
    (small : initial.toNat < 2 ^ allocator.dataWidth)
    (ran : (ofLayout allocator.layout).afterCalls? calls = some file) :
    ∃ value, file.wordAt? index number = some value ∧
      (ofLayout allocator.layout).Holds calls index number initial value := by
  induction calls using List.reverseRecOn generalizing file with
  | nil =>
    obtain rfl := Option.some.inj ran
    exact ⟨initial, found, small, fun _ _ _ => rfl⟩
  | append_singleton calls call ih =>
    rw [afterCalls?_concat] at ran
    obtain ⟨before, earlier, last⟩ := Option.bind_eq_some_iff.mp ran
    obtain ⟨value, now, holds⟩ := ih earlier
    exact holds_afterCall? (isOf_afterCalls? sound earlier) sound free now holds last

/-- A word of a read-only register shows its part of the reset value. -/
theorem wordAt?_of_readOnly {registers : List PlacedRegister} {register : PlacedRegister}
    {word : Nat} (sound : allocator.IsSound) (member : bank ∈ allocator.banks)
    (placement : bank.placement = .registers registers) (held : register ∈ registers)
    (access : register.access = .readOnly) (inside : word < register.words)
    (ran : (ofLayout allocator.layout).afterCalls? calls = some file) :
    file.wordAt? bank.index (register.offset + word) =
      some ((register.reset.extractLsb' (word * allocator.dataWidth)
        allocator.dataWidth).setWidth 64) := by
  have its : bank.registerAt? (register.offset + word) = some register :=
    Bank.registerAt?_eq_some ((sound.seats bank member).registers registers placement) placement
      held (by omega)
  have guarded : allocator.layout.IsReadOnly bank.index (register.offset + word) :=
    ⟨bank, member, rfl, registers, placement, register, held, access, by omega, by omega⟩
  rw [wordAt?_afterCalls?_of_isReadOnly sound guarded ran, wordAt?_ofLayout sound member
    ((sound.seats bank member).number_lt placement held inside), resetWord_eq its,
    Nat.add_sub_cancel_left]
  rfl

end

/-- What a register file shows of its layout after some accesses. -/
structure Remembers (layout : Layout) (calls : List Call) (file : RegisterFile) : Prop where
  /-- A word of a read-only register is still its part of the reset value. -/
  readOnly : ∀ bank ∈ layout.banks, ∀ registers, bank.placement = .registers registers →
    ∀ register ∈ registers, register.access = .readOnly → ∀ word < register.words,
      file.wordAt? bank.index (register.offset + word) =
        some ((register.reset.extractLsb' (word * layout.dataWidth) layout.dataWidth).setWidth 64)
  /-- Any other word holds what was written to it. -/
  writable : ∀ index number, layout.HasWord index number → ¬ layout.IsReadOnly index number →
    ∃ initial value, (ofLayout layout).wordAt? index number = some initial ∧
      file.wordAt? index number = some value ∧
      (ofLayout layout).Holds calls index number initial value
  /-- An offset is in the window of a bank, on one of its words or behind them. -/
  position : ∀ offset, (ofLayout layout).position? offset =
    some (offset.toNat / layout.granularity, offset.toNat % layout.granularity / layout.stride)
  /-- Reading shows the word at the offset and changes nothing. -/
  read : ∀ offset index number, (ofLayout layout).position? offset = some (index, number) →
    file.afterCall? (.read offset) = some file ∧
      file.read? offset = some (match file.wordAt? index number with
        | some value => .ok (value.setWidth 128)
        | none => .error (.unmapped offset))
  /-- How a write ends is decided by the word at the offset. If it may be written, the bus needs a
  bit of the strobe for each of its lanes. -/
  write : ∀ offset index number, (ofLayout layout).position? offset = some (index, number) →
    ∀ data select,
      (file.write? offset data select = some (.error (.readOnly offset)) ↔
        layout.IsReadOnly index number) ∧
      (file.write? offset data select = some (.error (.unmapped offset)) ↔
        ¬ layout.HasWord index number) ∧
      ((∃ after, file.write? offset data select = some (.ok after)) ↔
        layout.HasWord index number ∧ ¬ layout.IsReadOnly index number ∧
          layout.dataWidth / 8 ≤ 16)
  /-- A write that is refused changes nothing. -/
  refused : ∀ offset data select error, file.write? offset data select = some (.error error) →
    file.afterCall? (.write offset data select) = some file
  /-- A write that succeeds changes no other word. -/
  others : ∀ offset data select after, file.write? offset data select = some (.ok after) →
    ∀ index number, (ofLayout layout).position? offset ≠ some (index, number) →
      after.wordAt? index number = file.wordAt? index number

section

variable {file : RegisterFile} {allocator : Allocator} {index number : Nat} {offset : Address}
  {calls : List Call}

theorem IsOf.write?_iff (isOf : file.IsOf allocator.layout) (sound : allocator.IsSound)
    (here : file.position? offset = some (index, number)) (data : Data) (select : Strobe) :
    (file.write? offset data select = some (.error (.readOnly offset)) ↔
        allocator.layout.IsReadOnly index number) ∧
      (file.write? offset data select = some (.error (.unmapped offset)) ↔
        ¬ allocator.layout.HasWord index number) ∧
      ((∃ after, file.write? offset data select = some (.ok after)) ↔
        allocator.layout.HasWord index number ∧ ¬ allocator.layout.IsReadOnly index number ∧
          allocator.dataWidth / 8 ≤ 16) := by
  rcases isOf.write?_cases sound here data select with
    ⟨unmapped, refused⟩ | ⟨guarded, refused⟩ | ⟨mapped, free, answered⟩
  · have free := mt (hasWord_of_isReadOnly sound) unmapped
    simp [refused, unmapped, free]
  · have mapped := hasWord_of_isReadOnly sound guarded
    simp [refused, guarded, mapped]
  · split at answered
    · rename_i lanes
      obtain ⟨after, written⟩ := answered
      simp [written, mapped, free, lanes]
    · rename_i lanes
      simp [answered, mapped, free, lanes]

theorem remembers_of_sound (sound : allocator.IsSound) (spaced : 0 < allocator.granularity)
    (positive : 0 < allocator.stride)
    (ran : (ofLayout allocator.layout).afterCalls? calls = some file) :
    Remembers allocator.layout calls file := by
  have isOf := isOf_afterCalls? sound ran
  have same := isOf.position?_eq (isOf_ofLayout allocator.layout)
  refine ⟨?_, ?_, ?_, ?_, ?_, ?_, ?_⟩
  · intro bank member registers placement register held access word inside
    exact wordAt?_of_readOnly sound member placement held access inside ran
  · intro index number mapped free
    obtain ⟨bank, member, rfl, inside⟩ := mapped
    have found := wordAt?_ofLayout sound member inside
    obtain ⟨value, now, holds⟩ := holds_afterCalls? sound free found (resetWord_lt bank number) ran
    exact ⟨_, value, found, now, holds⟩
  · intro offset
    exact if_neg (by simp only [ofLayout, Allocator.layout]; omega)
  · intro offset index number here
    rw [← same] at here
    have answer := read?_eq here
    refine ⟨?_, answer⟩
    dsimp only [afterCall?]
    rw [answer, Option.map_some]
  · intro offset index number here
    rw [← same] at here
    exact isOf.write?_iff sound here
  · intro offset data select error refused
    exact afterCall?_write_error refused
  · intro offset data select after written index number apart
    rw [← same] at apart
    exact wordAt?_write?_other written apart

end

/-- Where banks and words take up space: whatever is read and written, a word of a read-only
register keeps its reset value. Any other word has in each lane the byte that was written to it
last, or the one it started with, and no more bits than the bus, so that nothing else is in it. A
write is refused just where there is no word or a read-only one, and then changes nothing; one that
succeeds changes its own word only; and reading changes nothing. Every access has an answer unless
the bus has more lanes than the strobe has bits. Where banks or words take up no space, none has
one. -/
theorem register_file_remembers {layout : Layout} (made : layout.IsMade) (calls : List Call) :
    (0 < layout.granularity → 0 < layout.stride →
      (∀ file, (ofLayout layout).afterCalls? calls = some file → Remembers layout calls file) ∧
        (layout.dataWidth / 8 ≤ 16 → ∃ file, (ofLayout layout).afterCalls? calls = some file)) ∧
      (layout.granularity = 0 ∨ layout.stride = 0 → (ofLayout layout).IsSilent) := by
  obtain ⟨allocator, sound, rfl⟩ := made.exists_allocator
  refine ⟨fun spaced positive => ⟨fun file ran => ?_, fun lanes => ?_⟩, fun zero => ?_⟩
  · exact remembers_of_sound sound spaced positive ran
  · exact exists_afterCalls? sound spaced positive lanes calls
  · exact isSilent_of_eq_zero zero

/-- Three writes: one to a read-only word, one to the word behind the identifier with more lanes
selected than the bus has, and one to the same word that leaves its only lane out. -/
def sampleAccesses : List Call :=
  [.write 0x0C 0xFF 0xFFFF, .write 0x10 0xAB 0xFFFF, .read 0x10, .write 0x12 0xCD 0xFFFE]

/-- The identifier is still there, and the word behind it has the byte that was written to it. -/
theorem latest_selected_byte_stays :
    (Allocator.narrowRegion.allocateEach Allocator.sampleCalls).1.layout.IsMade ∧
      ∃ file, (ofLayout (Allocator.narrowRegion.allocateEach
          Allocator.sampleCalls).1.layout).afterCalls? sampleAccesses = some file ∧
        file.wordAt? 0 3 = some 0xC5 ∧
        ∃ value, file.wordAt? 0 4 = some value ∧ Data.lane (value.setWidth 128) 0 = 0xAB := by
  have created : Allocator.create Allocator.narrowBus 0xE0000000 0x800 4 32 =
      .ok Allocator.narrowRegion := by decide
  have made := Layout.IsMade.allocated created Allocator.sampleCalls
  obtain ⟨follows, answered⟩ :=
    (register_file_remembers made sampleAccesses).1 (by decide) (by decide)
  obtain ⟨file, ran⟩ := answered (by decide)
  have remembers := follows file ran
  refine ⟨made, file, ran, ?_, ?_⟩
  · exact remembers.readOnly _ List.mem_cons_self _ rfl _ List.mem_cons_self rfl 3 (by decide)
  · have fresh := ((register_file_remembers made []).1 (by decide) (by decide)).1 _ rfl
    obtain ⟨mapped, free, _⟩ := (fresh.write 0x10 0 4 rfl 0 0).2.2.mp ⟨_, rfl⟩
    obtain ⟨initial, value, _, now, holds⟩ := remembers.writable 0 4 mapped free
    refine ⟨value, now, ?_⟩
    rw [holds.lanes 0 (by decide) (by decide)]
    rfl

/-- Where words take up no space, a write to the first word, which is read-only, is not refused: it
has no answer, and nothing can follow it. -/
theorem no_refusal_without_stride :
    ∃ layout : Layout, layout.IsMade ∧ layout.IsReadOnly 0 0 ∧
      (ofLayout layout).write? 0x0 0xAB 0xFFFF = none ∧
      (ofLayout layout).afterCalls? [.write 0x0 0xAB 0xFFFF] = none := by
  have created : Allocator.create { Allocator.narrowBus with dataWidth := 32 } 0xE0000000 0x800 0
      32 = .ok { Allocator.narrowRegion with dataWidth := 32, stride := 0 } := by decide
  refine ⟨_, .allocated created Allocator.identifierCalls, ?_, rfl, rfl⟩
  exact ⟨_, List.mem_cons_self, rfl, _, rfl, _, List.mem_cons_self, rfl, by decide, by decide⟩

end Device.RegisterFile

end BusFabric
