import Mathlib.Data.List.Nodup
import Mathlib.Data.List.Forall2
import Mathlib.Data.List.Induction
import Mathlib.Data.List.Perm.Subperm
import BusFabric.Proofs.Word.Cells
import BusFabric.RegisterBank.Allocator

set_option autoImplicit false

namespace BusFabric.RegisterBank

/-! ### Registers in a bank -/

def totalWords (registers : List PlacedRegister) : Nat :=
  registers.foldr (fun register words => register.words + words) 0

@[simp] theorem totalWords_cons (register : PlacedRegister) (rest : List PlacedRegister) :
    totalWords (register :: rest) = register.words + totalWords rest :=
  rfl

theorem totalWords_take_succ {registers : List PlacedRegister} {place : Nat}
    {register : PlacedRegister} (found : registers[place]? = some register) :
    totalWords (registers.take (place + 1)) =
      totalWords (registers.take place) + register.words := by
  induction registers generalizing place with
  | nil => cases found
  | cons first rest ih =>
    cases place with
    | zero =>
      cases found
      simp [totalWords]
    | succ place =>
      rw [List.take_succ_cons, List.take_succ_cons, totalWords_cons, totalWords_cons, ih found,
        Nat.add_assoc]

theorem totalWords_take_mono (registers : List PlacedRegister) {earlier later : Nat}
    (le : earlier ≤ later) :
    totalWords (registers.take earlier) ≤ totalWords (registers.take later) := by
  induction registers generalizing earlier later with
  | nil => simp
  | cons first rest ih =>
    cases earlier with
    | zero => exact Nat.zero_le _
    | succ earlier =>
      obtain ⟨later, rfl⟩ : ∃ next, later = next + 1 := ⟨later - 1, by omega⟩
      rw [List.take_succ_cons, List.take_succ_cons, totalWords_cons, totalWords_cons]
      exact Nat.add_le_add_left (ih (by omega)) _

theorem totalWords_take_add_le {registers : List PlacedRegister} {place : Nat}
    {register : PlacedRegister} (found : registers[place]? = some register) :
    totalWords (registers.take place) + register.words ≤ totalWords registers := by
  have within := (List.getElem?_eq_some_iff.mp found).1
  have upTo := totalWords_take_mono registers (Nat.succ_le_of_lt within)
  rwa [List.take_length, totalWords_take_succ found] at upTo

/-- What a placed register has from its declaration. -/
structure PlacedRegister.Holds (placed : PlacedRegister) (register : Register)
    (dataWidth : Nat) : Prop where
  name : placed.name = register.name
  width : placed.width = register.width
  words : placed.words = register.words dataWidth
  access : placed.access = register.access
  reset : placed.reset = register.reset

/-- What a bank holds is what was asked for. -/
inductive Placement.Holds (dataWidth : Nat) : Placement → Contents → Prop
  | registers {placed : List PlacedRegister} {declared : List Register}
      (each : List.Forall₂ (fun one register => one.Holds register dataWidth) placed declared) :
      Holds dataWidth (.registers placed) (.registers declared)
  | memory (words : Nat) : Holds dataWidth (.memory words) (.memory words)

section

variable (base : Address) (stride dataWidth : Nat)

theorem placeRegisters_holds (offset : Nat) (registers : List Register) :
    List.Forall₂ (fun placed register => placed.Holds register dataWidth)
      (placeRegisters base stride dataWidth offset registers) registers := by
  induction registers generalizing offset with
  | nil => exact .nil
  | cons register rest ih => exact .cons ⟨rfl, rfl, rfl, rfl, rfl⟩ (ih _)

theorem placeRegisters_getElem? {offset place : Nat} {registers : List Register}
    {placed : PlacedRegister}
    (found : (placeRegisters base stride dataWidth offset registers)[place]? = some placed) :
    placed.offset = offset +
        totalWords ((placeRegisters base stride dataWidth offset registers).take place) ∧
      placed.address = base + BitVec.ofNat 64 (placed.offset * stride) ∧
      placed.words = (max placed.width 1 + dataWidth - 1) / dataWidth := by
  induction registers generalizing offset place with
  | nil => cases found
  | cons register rest ih =>
    cases place with
    | zero =>
      cases found
      exact ⟨rfl, rfl, rfl⟩
    | succ place =>
      obtain ⟨behind, rest⟩ := ih found
      refine ⟨?_, rest⟩
      rw [behind, Nat.add_assoc]
      rfl

theorem totalWords_placeRegisters (offset : Nat) (registers : List Register) :
    totalWords (placeRegisters base stride dataWidth offset registers) =
      (Contents.registers registers).wordCount dataWidth := by
  induction registers generalizing offset with
  | nil => rfl
  | cons register rest ih => exact congrArg (register.words dataWidth + ·) (ih _)

end

structure Bank.InSequence (bank : Bank) (stride dataWidth : Nat)
    (registers : List PlacedRegister) : Prop where
  /-- A register starts where the ones before it end. -/
  offset : ∀ {place : Nat} {register : PlacedRegister}, registers[place]? = some register →
    register.offset = totalWords (registers.take place)
  address : ∀ register ∈ registers,
    register.address.toNat = bank.base.toNat + register.offset * stride
  /-- A register takes as many words as its bits need, and at least one. -/
  words : ∀ register ∈ registers,
    register.words = (max register.width 1 + dataWidth - 1) / dataWidth
  total : totalWords registers = bank.wordCount
  /-- The last word of a register ends inside the window. -/
  within : ∀ register ∈ registers,
    register.address.toNat + register.words * stride ≤ bank.base.toNat + bank.size

namespace Bank.InSequence

variable {bank : Bank} {stride dataWidth place other : Nat} {registers : List PlacedRegister}
  {register later : PlacedRegister}

theorem finish (inSequence : bank.InSequence stride dataWidth registers)
    (found : registers[place]? = some register) :
    register.offset + register.words = totalWords (registers.take (place + 1)) := by
  rw [totalWords_take_succ found, inSequence.offset found]

theorem finish_le (inSequence : bank.InSequence stride dataWidth registers)
    (found : registers[place]? = some register) :
    register.offset + register.words ≤ bank.wordCount := by
  rw [inSequence.offset found, ← inSequence.total]
  exact totalWords_take_add_le found

/-- A register ends before the next ones start. -/
theorem finish_le_offset (inSequence : bank.InSequence stride dataWidth registers)
    (found : registers[place]? = some register) (behind : registers[other]? = some later)
    (before : place < other) : register.offset + register.words ≤ later.offset := by
  rw [inSequence.finish found, inSequence.offset behind]
  exact totalWords_take_mono registers before

/-- Placed registers fill a bank that has as many words as they take, if the words fit. -/
theorem of_placeRegisters {declared : List Register}
    (total : (Contents.registers declared).wordCount dataWidth = bank.wordCount)
    (room : bank.wordCount * stride ≤ bank.size)
    (below : bank.base.toNat + bank.size ≤ UInt64.size - 1) :
    bank.InSequence stride dataWidth (placeRegisters bank.base stride dataWidth 0 declared) := by
  have space : UInt64.size = 2 ^ 64 := rfl
  have whole := totalWords_placeRegisters bank.base stride dataWidth 0 declared
  rw [total] at whole
  have offset {place : Nat} {register : PlacedRegister}
      (found : (placeRegisters bank.base stride dataWidth 0 declared)[place]? = some register) :
      register.offset =
        totalWords ((placeRegisters bank.base stride dataWidth 0 declared).take place) := by
    rw [(placeRegisters_getElem? bank.base stride dataWidth found).1, Nat.zero_add]
  have fits {place : Nat} {register : PlacedRegister}
      (found : (placeRegisters bank.base stride dataWidth 0 declared)[place]? = some register) :
      register.offset * stride + register.words * stride ≤ bank.size := by
    have finish := totalWords_take_add_le found
    rw [← offset found, whole] at finish
    rw [← Nat.add_mul]
    exact Nat.le_trans (Nat.mul_le_mul_right stride finish) room
  have address {place : Nat} {register : PlacedRegister}
      (found : (placeRegisters bank.base stride dataWidth 0 declared)[place]? = some register) :
      register.address.toNat = bank.base.toNat + register.offset * stride := by
    have inside := fits found
    rw [(placeRegisters_getElem? bank.base stride dataWidth found).2.1, BitVec.toNat_add,
      BitVec.toNat_ofNat, Nat.add_mod_mod, Nat.mod_eq_of_lt (by omega)]
  refine ⟨offset, ?_, ?_, whole, ?_⟩
  · intro register member
    obtain ⟨place, found⟩ := List.mem_iff_getElem?.mp member
    exact address found
  · intro register member
    obtain ⟨place, found⟩ := List.mem_iff_getElem?.mp member
    exact (placeRegisters_getElem? bank.base stride dataWidth found).2.2
  · intro register member
    obtain ⟨place, found⟩ := List.mem_iff_getElem?.mp member
    have inside := fits found
    rw [address found]
    omega

theorem place_unique (inSequence : bank.InSequence stride dataWidth registers)
    (found : registers[place]? = some register) (again : registers[other]? = some later)
    {word : Nat} (inside : register.offset ≤ word ∧ word < register.offset + register.words)
    (shared : later.offset ≤ word ∧ word < later.offset + later.words) : place = other := by
  rcases Nat.lt_trichotomy place other with before | same | behind
  · have := inSequence.finish_le_offset found again before
    omega
  · exact same
  · have := inSequence.finish_le_offset again found behind
    omega

end Bank.InSequence

/-! ### Banks in a region -/

namespace Allocator

variable {allocator after : Allocator} {bank : Bank} {call : Declaration} {window : Window}
  {name : String} {index : Nat} {contents : Contents}

/-- A bank that lies where its index says, with all that it holds. -/
structure Seats (allocator : Allocator) (bank : Bank) : Prop where
  index_lt : bank.index < allocator.maxBanks
  base : bank.base.toNat = allocator.origin.toNat + allocator.granularity * bank.index
  size : bank.size = allocator.granularity
  /-- The window ends at or below the last address. -/
  below : bank.base.toNat + bank.size ≤ UInt64.size - 1
  room : bank.wordCount * allocator.stride ≤ allocator.granularity
  registers : ∀ registers, bank.placement = .registers registers →
    bank.InSequence allocator.stride allocator.dataWidth registers
  memory : ∀ words, bank.placement = .memory words → bank.wordCount = words

structure IsSound (allocator : Allocator) : Prop where
  names : (allocator.banks.map (·.name)).Nodup
  indices : (allocator.banks.map (·.index)).Nodup
  seats : ∀ bank ∈ allocator.banks, allocator.Seats bank

theorem IsSound.bank_unique (sound : allocator.IsSound) {bank other : Bank}
    (member : bank ∈ allocator.banks) (listed : other ∈ allocator.banks)
    (same : bank.index = other.index) : bank = other :=
  List.inj_on_of_nodup_map sound.indices member listed same

/-- The windows of sound banks have no address in common. -/
theorem IsSound.disjoint (sound : allocator.IsSound) :
    allocator.banks.Pairwise fun bank other =>
      bank.base.toNat + bank.size ≤ other.base.toNat ∨
        other.base.toNat + other.size ≤ bank.base.toNat := by
  refine (List.pairwise_map.mp sound.indices).imp_of_mem ?_
  intro bank other member listed differ
  have here := sound.seats bank member
  have there := sound.seats other listed
  rw [here.base, there.base, here.size, there.size, Nat.add_assoc, Nat.add_assoc,
    ← Nat.mul_succ, ← Nat.mul_succ]
  rcases Nat.lt_or_gt_of_ne differ with before | behind
  · exact .inl (Nat.add_le_add_left (Nat.mul_le_mul_left _ before) _)
  · exact .inr (Nat.add_le_add_left (Nat.mul_le_mul_left _ behind) _)

structure IsFor (allocator : Allocator) (call : Declaration) (index : Nat) : Prop where
  free : ∀ bank ∈ allocator.banks, bank.index ≠ index
  pinned : ∀ own, call.index = some own → index = own
  least : call.index = none → ∀ lower < index, ∃ bank ∈ allocator.banks, bank.index = lower

structure HasRoom (allocator : Allocator) (name : String) (index : Nat) (contents : Contents) :
    Prop where
  unnamed : ∀ bank ∈ allocator.banks, bank.name ≠ name
  index_lt : index < allocator.maxBanks
  countable : contents.isCountable allocator.dataWidth = true
  room : contents.wordCount allocator.dataWidth * allocator.stride ≤ allocator.granularity
  below : allocator.origin.toNat + allocator.granularity * index + allocator.granularity ≤
    UInt64.size - 1

def bankFor (allocator : Allocator) (name : String) (index : Nat) (contents : Contents) : Bank :=
  let base := BitVec.ofNat 64 (allocator.origin.toNat + allocator.granularity * index)
  ⟨name, index, base, allocator.granularity, contents.wordCount allocator.dataWidth,
    allocator.placement base contents⟩

def windowOf (allocator : Allocator) (bank : Bank) : Window :=
  ⟨bank.name, bank.base, bank.size, allocator.bus, allocator.dataWidth⟩

/-- Contents overflow a window just when their true length does, though lengths are counted in 64
bits: a window that ends below the top of the address space is shorter than the largest count. -/
theorem bytes_le_iff (powerOfTwo : allocator.granularity.isPowerOfTwo)
    (below : allocator.granularity < UInt64.size) (words : Nat) :
    allocator.bytes words ≤ allocator.granularity ↔
      words * allocator.stride ≤ allocator.granularity := by
  have shorter : allocator.granularity < UInt64.size - 1 := by
    obtain ⟨exponent, power⟩ := powerOfTwo
    have space : UInt64.size = 2 ^ 64 := rfl
    have small : exponent < 64 := (Nat.pow_lt_pow_iff_right (by decide : 1 < 2)).mp (by
      rw [← power, ← space]
      exact below)
    have most : 2 ^ exponent ≤ 2 ^ 63 := Nat.pow_le_pow_right (by decide) (by omega)
    rw [power, space]
    exact Nat.lt_of_le_of_lt most (by decide)
  unfold bytes
  omega

theorem place_eq_ok (powerOfTwo : allocator.granularity.isPowerOfTwo) :
    allocator.place name index contents = .ok (after, window) ↔
      allocator.HasRoom name index contents ∧
        after = { allocator with
          banks := allocator.banks ++ [allocator.bankFor name index contents] } ∧
        window = allocator.windowOf (allocator.bankFor name index contents) := by
  have space : UInt64.size = 2 ^ 64 := rfl
  unfold place
  dsimp only
  split
  · rename_i named
    obtain ⟨bank, member, same⟩ := List.any_eq_true.mp named
    refine iff_of_false nofun fun placed => ?_
    exact placed.1.unnamed bank member (of_decide_eq_true same)
  rename_i unnamed
  split
  · rename_i beyond
    exact iff_of_false nofun fun placed => Nat.not_le_of_lt placed.1.index_lt beyond
  rename_i index_lt
  split
  · rename_i uncountable
    exact iff_of_false nofun fun placed => uncountable placed.1.countable
  rename_i countable
  split
  · rename_i overflows
    refine iff_of_false nofun fun placed => Nat.not_le_of_lt overflows ?_
    have below := placed.1.below
    exact (bytes_le_iff powerOfTwo (by omega) _).mpr placed.1.room
  rename_i fits
  unfold base?
  dsimp only
  split
  · rename_i absent
    split at absent
    · cases absent
    rename_i above
    refine iff_of_false nofun fun placed => above ?_
    have below := placed.1.below
    omega
  · rename_i base inside
    split at inside
    · rename_i below
      cases inside
      have room : allocator.HasRoom name index contents := by
        refine ⟨fun bank member same => unnamed ?_, by omega, Decidable.not_not.mp countable, ?_,
          by omega⟩
        · exact List.any_eq_true.mpr ⟨bank, member, decide_eq_true same⟩
        · exact (bytes_le_iff powerOfTwo (by omega) _).mp (by omega)
      constructor
      · intro placed
        cases placed
        exact ⟨room, rfl, rfl⟩
      · rintro ⟨_, rfl, rfl⟩
        rfl
    · cases inside

/-! ### Free indices -/

theorem bankAt?_eq_none :
    allocator.bankAt? index = none ↔ ∀ bank ∈ allocator.banks, bank.index ≠ index := by
  simp [bankAt?]

theorem bankAt?_ne_none :
    allocator.bankAt? index ≠ none ↔ ∃ bank ∈ allocator.banks, bank.index = index := by
  rw [ne_eq, bankAt?_eq_none]
  push Not
  rfl

/-- Beside `n` banks, one of the first `n + 1` indices is free. -/
theorem exists_free (allocator : Allocator) :
    ∃ index < allocator.banks.length + 1, ∀ bank ∈ allocator.banks, bank.index ≠ index := by
  by_contra taken
  push Not at taken
  have covered : List.range (allocator.banks.length + 1) ⊆ allocator.banks.map (·.index) := by
    intro index member
    obtain ⟨bank, listed, same⟩ := taken index (List.mem_range.mp member)
    exact List.mem_map.mpr ⟨bank, listed, same⟩
  have count := (List.nodup_range.subperm covered).length_le
  rw [List.length_range, List.length_map] at count
  omega

theorem freeIndex_isLeast (allocator : Allocator) :
    (∀ bank ∈ allocator.banks, bank.index ≠ allocator.freeIndex) ∧
      ∀ lower < allocator.freeIndex, ∃ bank ∈ allocator.banks, bank.index = lower := by
  cases found : (List.range (allocator.banks.length + 1)).find?
      fun index => (allocator.bankAt? index).isNone with
  | none =>
    obtain ⟨index, small, free⟩ := allocator.exists_free
    have never := List.find?_eq_none.mp found index (List.mem_range.mpr small)
    simp [bankAt?_eq_none.mpr free] at never
  | some index =>
    have least : allocator.freeIndex = index := by
      rw [freeIndex, found]
      rfl
    rw [List.find?_range_eq_some] at found
    obtain ⟨free, _, before⟩ := found
    rw [least]
    constructor
    · exact bankAt?_eq_none.mp (Option.isNone_iff_eq_none.mp free)
    · intro lower less
      have taken := before lower less
      apply bankAt?_ne_none.mp
      intro none
      simp [none] at taken

theorem isFor_freeIndex (free : call.index = none) :
    allocator.IsFor call index ↔ index = allocator.freeIndex := by
  obtain ⟨unused, least⟩ := allocator.freeIndex_isLeast
  constructor
  · intro isFor
    rcases Nat.lt_trichotomy index allocator.freeIndex with before | same | behind
    · obtain ⟨bank, member, taken⟩ := least index before
      exact absurd taken (isFor.free bank member)
    · exact same
    · obtain ⟨bank, member, taken⟩ := isFor.least free _ behind
      exact absurd taken (unused bank member)
  · rintro rfl
    exact ⟨unused, fun own pinned => by simp [free] at pinned, fun _ => least⟩

/-! ### One call -/

theorem allocate_eq_ok (powerOfTwo : allocator.granularity.isPowerOfTwo) :
    allocator.allocate call = .ok (after, window) ↔
      ∃ index, allocator.IsFor call index ∧ allocator.HasRoom call.name index call.contents ∧
        after = { allocator with
          banks := allocator.banks ++ [allocator.bankFor call.name index call.contents] } ∧
        window = allocator.windowOf (allocator.bankFor call.name index call.contents) := by
  unfold allocate
  cases pinned : call.index with
  | none =>
    dsimp only
    rw [place_eq_ok powerOfTwo]
    constructor
    · exact fun placed => ⟨_, (isFor_freeIndex pinned).mpr rfl, placed⟩
    · rintro ⟨index, isFor, placed⟩
      rwa [(isFor_freeIndex pinned).mp isFor] at placed
  | some own =>
    dsimp only
    split
    · rename_i holder held
      refine iff_of_false nofun ?_
      rintro ⟨index, isFor, _⟩
      rw [isFor.pinned own pinned] at isFor
      rw [bankAt?_eq_none.mpr isFor.free] at held
      cases held
    · rename_i free
      rw [place_eq_ok powerOfTwo]
      constructor
      · refine fun placed => ⟨own, ⟨bankAt?_eq_none.mp free, ?_, ?_⟩, placed⟩
        · exact fun other same => Option.some.inj (pinned.symm.trans same)
        · exact fun none => nomatch pinned.symm.trans none
      · rintro ⟨index, isFor, placed⟩
        rwa [isFor.pinned own pinned] at placed

theorem allocate_taken (sound : allocator.IsSound) (pinned : call.index = some index)
    (member : bank ∈ allocator.banks) (taken : bank.index = index) :
    allocator.allocate call = .error (.map (.indexTaken index bank.name)) := by
  have held : allocator.bankAt? index = some bank := by
    cases found : allocator.bankAt? index with
    | none => exact absurd taken (bankAt?_eq_none.mp found bank member)
    | some other =>
      have same := List.find?_some found
      have listed := List.mem_of_find?_eq_some found
      congr 1
      exact sound.bank_unique listed member ((of_decide_eq_true same).trans taken.symm)
  unfold allocate
  rw [pinned]
  dsimp only
  rw [held]

/-! ### What calls keep -/

theorem bankFor_holds (allocator : Allocator) (name : String) (index : Nat) (contents : Contents) :
    (allocator.bankFor name index contents).placement.Holds allocator.dataWidth contents := by
  cases contents with
  | registers registers => exact .registers (placeRegisters_holds _ _ _ _ registers)
  | memory words => exact .memory words

theorem HasRoom.seats (hasRoom : allocator.HasRoom name index contents) :
    allocator.Seats (allocator.bankFor name index contents) := by
  have space : UInt64.size = 2 ^ 64 := rfl
  have below := hasRoom.below
  have base : (allocator.bankFor name index contents).base.toNat =
      allocator.origin.toNat + allocator.granularity * index := by
    show (BitVec.ofNat 64 _).toNat = _
    rw [BitVec.toNat_ofNat, Nat.mod_eq_of_lt (by omega)]
  refine ⟨hasRoom.index_lt, base, rfl, by rw [base]; exact below, hasRoom.room, ?_, ?_⟩
  · intro placed placement
    cases contents with
    | memory words => cases placement
    | registers registers =>
      cases placement
      exact .of_placeRegisters rfl hasRoom.room (by rw [base]; exact below)
  · intro words placement
    cases contents with
    | registers registers => cases placement
    | memory words =>
      cases placement
      rfl

/-- What lies where it belongs stays there when more banks are placed. -/
theorem Seats.exchange (seats : allocator.Seats bank) (banks : List Bank) :
    Seats { allocator with banks } bank :=
  ⟨seats.index_lt, seats.base, seats.size, seats.below, seats.room, seats.registers, seats.memory⟩

theorem IsSound.concat (sound : allocator.IsSound)
    (hasRoom : allocator.HasRoom name index contents)
    (free : ∀ bank ∈ allocator.banks, bank.index ≠ index) :
    IsSound { allocator with
      banks := allocator.banks ++ [allocator.bankFor name index contents] } := by
  refine ⟨?_, ?_, ?_⟩
  · rw [List.map_append, List.map_singleton]
    refine sound.names.append (List.nodup_singleton _) (List.disjoint_singleton.mpr ?_)
    intro member
    obtain ⟨bank, listed, same⟩ := List.mem_map.mp member
    exact hasRoom.unnamed bank listed same
  · rw [List.map_append, List.map_singleton]
    refine sound.indices.append (List.nodup_singleton _) (List.disjoint_singleton.mpr ?_)
    intro member
    obtain ⟨bank, listed, same⟩ := List.mem_map.mp member
    exact free bank listed same
  · intro bank member
    rcases List.mem_append.mp member with old | new
    · exact (sound.seats bank old).exchange _
    · rw [List.mem_singleton.mp new]
      exact hasRoom.seats.exchange _

structure Answers (allocator : Allocator) (call : Declaration) : Prop where
  /-- A bank that is placed comes behind the others, at the index that the call is for, with what
  was asked for in it. -/
  places : ∀ after window, allocator.allocate call = .ok (after, window) →
    ∃ bank, allocator.IsFor call bank.index ∧ bank.name = call.name ∧
      bank.placement.Holds allocator.dataWidth call.contents ∧
      after = { allocator with banks := allocator.banks ++ [bank] } ∧
      window = allocator.windowOf bank
  succeeds_iff : (∃ result, allocator.allocate call = .ok result) ↔
    ∃ index, allocator.IsFor call index ∧ allocator.HasRoom call.name index call.contents
  /-- A bank that is pinned to the index of another one is refused. -/
  taken : ∀ index, call.index = some index → ∀ bank ∈ allocator.banks, bank.index = index →
    allocator.allocate call = .error (.map (.indexTaken index bank.name))

theorem IsSound.answers (sound : allocator.IsSound)
    (powerOfTwo : allocator.granularity.isPowerOfTwo) (call : Declaration) :
    allocator.Answers call := by
  refine ⟨?_, ?_, fun index pinned bank member taken => allocate_taken sound pinned member taken⟩
  · intro after window allocated
    obtain ⟨index, isFor, _, same, shown⟩ := (allocate_eq_ok powerOfTwo).mp allocated
    exact ⟨_, isFor, rfl, allocator.bankFor_holds _ _ _, same, shown⟩
  · constructor
    · rintro ⟨⟨after, window⟩, allocated⟩
      obtain ⟨index, isFor, hasRoom, _⟩ := (allocate_eq_ok powerOfTwo).mp allocated
      exact ⟨index, isFor, hasRoom⟩
    · rintro ⟨index, isFor, hasRoom⟩
      exact ⟨_, (allocate_eq_ok powerOfTwo).mpr ⟨index, isFor, hasRoom, rfl, rfl⟩⟩

/-! ### Any number of calls -/

/-- The allocator after a call: with one bank more, or as it was. -/
def afterCall (allocator : Allocator) (call : Declaration) : Allocator :=
  match allocator.allocate call with
  | .ok (after, _) => after
  | .error _ => allocator

theorem allocateEach_concat (allocator : Allocator) (calls : List Declaration)
    (call : Declaration) :
    allocator.allocateEach (calls ++ [call]) =
      ((allocator.allocateEach calls).1.afterCall call,
        (allocator.allocateEach calls).2 ++
          [((allocator.allocateEach calls).1.allocate call).map (·.2)]) := by
  induction calls generalizing allocator with
  | nil =>
    simp only [List.nil_append, allocateEach, afterCall]
    split <;> rename_i answer <;> rw [answer] <;> rfl
  | cons first rest ih =>
    simp only [List.cons_append, allocateEach]
    split <;> rw [ih] <;> rfl

/-- Where every bank is placed, the banks are those that single calls place. -/
theorem allocateEach_of_allocateAll {calls : List Declaration}
    (allocated : allocator.allocateAll calls = .ok after) :
    (allocator.allocateEach calls).1 = after := by
  induction calls generalizing allocator with
  | nil => exact Except.ok.inj allocated
  | cons first rest ih =>
    unfold allocateAll at allocated
    unfold allocateEach
    split at allocated
    · exact ih allocated
    · cases allocated

def region (allocator : Allocator) : Allocator :=
  { allocator with banks := [] }

/-- What holds after some calls on an empty region. -/
structure Follows (start allocator : Allocator) (answers : List (Except BuildError Window)) :
    Prop where
  region : allocator.region = start.region
  sound : allocator.IsSound
  /-- The windows that were handed out are those of the banks. -/
  windows : answers.filterMap (·.toOption) = allocator.banks.map allocator.windowOf

theorem Follows.whole {start : Allocator} {answers : List (Except BuildError Window)}
    (follows : Follows start allocator answers) :
    allocator = { start with banks := allocator.banks } :=
  congrArg (fun region : Allocator => { region with banks := allocator.banks }) follows.region

theorem Follows.powerOfTwo {start : Allocator} {answers : List (Except BuildError Window)}
    (follows : Follows start allocator answers) (powerOfTwo : start.granularity.isPowerOfTwo) :
    allocator.granularity.isPowerOfTwo := by
  rw [follows.whole]
  exact powerOfTwo

theorem Follows.afterCall {start : Allocator} {answers : List (Except BuildError Window)}
    (follows : Follows start allocator answers)
    (powerOfTwo : allocator.granularity.isPowerOfTwo) (call : Declaration) :
    Follows start (allocator.afterCall call)
      (answers ++ [(allocator.allocate call).map (·.2)]) := by
  unfold Allocator.afterCall
  cases allocated : allocator.allocate call with
  | error error =>
    refine ⟨follows.region, follows.sound, ?_⟩
    rw [List.filterMap_append, follows.windows]
    exact List.append_nil _
  | ok result =>
    obtain ⟨after, window⟩ := result
    obtain ⟨index, isFor, hasRoom, rfl, rfl⟩ := (allocate_eq_ok powerOfTwo).mp allocated
    refine ⟨follows.region, follows.sound.concat hasRoom isFor.free, ?_⟩
    · rw [List.filterMap_append, follows.windows, List.map_append]
      rfl

theorem follows_calls {start : Allocator} (empty : start.banks = [])
    (powerOfTwo : start.granularity.isPowerOfTwo) (calls : List Declaration) :
    Follows start (start.allocateEach calls).1 (start.allocateEach calls).2 := by
  induction calls using List.reverseRecOn with
  | nil =>
    refine ⟨rfl, ⟨?_, ?_, ?_⟩, ?_⟩ <;> simp [allocateEach, empty]
  | append_singleton calls call ih =>
    rw [allocateEach_concat]
    exact ih.afterCall (ih.powerOfTwo powerOfTwo) call

section

variable {granularity stride maxBanks : Nat} {bus : Port} {origin : Address} {start : Allocator}

theorem create_eq_ok :
    create bus origin granularity stride maxBanks = .ok start ↔
      granularity.isPowerOfTwo ∧ stride ≤ granularity ∧
        start = ⟨bus.id, origin, granularity, stride, bus.dataWidth, maxBanks, []⟩ := by
  unfold create
  split
  · rename_i wrong
    simp only [reduceCtorEq, false_iff, not_and]
    intro powerOfTwo holds
    rcases wrong with wrong | wrong
    · exact absurd powerOfTwo wrong
    · omega
  · rename_i fine
    rw [Except.ok.injEq]
    constructor
    · rintro rfl
      exact ⟨Decidable.not_not.mp (not_or.mp fine).1, Nat.le_of_not_lt (not_or.mp fine).2, rfl⟩
    · exact fun made => made.2.2.symm

theorem follows_create (created : create bus origin granularity stride maxBanks = .ok start)
    (calls : List Declaration) :
    Follows start (start.allocateEach calls).1 (start.allocateEach calls).2 := by
  obtain ⟨powerOfTwo, _, rfl⟩ := create_eq_ok.mp created
  exact follows_calls rfl powerOfTwo calls

theorem follows_of_allocateAll
    (created : create bus origin granularity stride maxBanks = .ok start)
    {calls : List Declaration} (allocated : start.allocateAll calls = .ok allocator) :
    Follows start allocator (start.allocateEach calls).2 := by
  have follows := follows_create created calls
  rwa [allocateEach_of_allocateAll allocated] at follows

/-- What was fixed when an allocator was created stays. -/
theorem Follows.fixed {answers : List (Except BuildError Window)}
    (follows : Follows start allocator answers)
    (created : create bus origin granularity stride maxBanks = .ok start) :
    allocator.bus = bus.id ∧ allocator.dataWidth = bus.dataWidth ∧ allocator.origin = origin ∧
      allocator.granularity = granularity ∧ allocator.stride = stride := by
  obtain ⟨_, _, rfl⟩ := create_eq_ok.mp created
  rw [follows.whole]
  exact ⟨rfl, rfl, rfl, rfl, rfl⟩

end

/-- Whatever banks are asked for, and whether they are placed or refused: those that are placed have
names and indices of their own; each lies in the window that its index counts, inside the address
space and apart from the others; and its registers lie back to back in the window. A bank gets the
index it is pinned to or the least free one, and is placed whenever there is room for it; a call
that fails changes nothing. -/
theorem banks_keep_apart {granularity stride : Nat} (powerOfTwo : granularity.isPowerOfTwo)
    (holds : stride ≤ granularity) (bus : Port) (origin : Address) (maxBanks : Nat) :
    ∃ start, create bus origin granularity stride maxBanks = .ok start ∧
      ∀ calls : List Declaration,
        let allocator := (start.allocateEach calls).1
        allocator =
            ⟨bus.id, origin, granularity, stride, bus.dataWidth, maxBanks, allocator.banks⟩ ∧
          allocator.IsSound ∧
          (allocator.banks.Pairwise fun bank other =>
            bank.base.toNat + bank.size ≤ other.base.toNat ∨
              other.base.toNat + other.size ≤ bank.base.toNat) ∧
          (start.allocateEach calls).2.filterMap (·.toOption) =
            allocator.banks.map allocator.windowOf ∧
          ∀ call, allocator.Answers call ∧
            (∀ error, allocator.allocate call = .error error →
              (start.allocateEach (calls ++ [call])).1 = allocator) ∧
            ∀ after window, allocator.allocate call = .ok (after, window) →
              (start.allocateEach (calls ++ [call])).1 = after := by
  have created : create bus origin granularity stride maxBanks =
      .ok ⟨bus.id, origin, granularity, stride, bus.dataWidth, maxBanks, []⟩ :=
    create_eq_ok.mpr ⟨powerOfTwo, holds, rfl⟩
  refine ⟨_, created, fun calls => ?_⟩
  have follows := follows_create created calls
  refine ⟨follows.whole, follows.sound, follows.sound.disjoint, follows.windows,
    fun call => ⟨?_, ?_, ?_⟩⟩
  · exact follows.sound.answers (follows.powerOfTwo powerOfTwo) call
  · intro error refused
    rw [allocateEach_concat, afterCall, refused]
  · intro after window placed
    rw [allocateEach_concat, afterCall, placed]

def narrowBus : Port where
  id := ⟨5⟩
  name := "csr"
  protocol := .registerBus
  role := .slave
  dataWidth := 8
  addressWidth := 14

def narrowRegion : Allocator where
  bus := narrowBus.id
  origin := 0xE0000000
  granularity := 0x800
  stride := 4
  dataWidth := 8
  maxBanks := 32

/-- Banks of all kinds, some of which have to be refused: the name `buffer` comes twice, the index 2
as well, and the last bank is a word too long. -/
def sampleCalls : List Declaration :=
  [{ name := "control", contents := .registers
      [{ name := "id", width := 32, access := .readOnly, reset := 0xC5C50001 },
       { name := "scratch", width := 9 }] },
   { name := "buffer", index := some 2, contents := .memory 4 },
   { name := "buffer", contents := .memory 1 },
   { name := "status", index := some 2, contents := .memory 1 },
   { name := "table", contents := .memory 0x200 },
   { name := "trace", contents := .memory 0x201 }]

def identifierCalls : List Declaration :=
  [{ name := "control", contents := .registers
      [{ name := "id", width := 32, access := .readOnly, reset := 0xC5C50001 }] }]

/-- With banks at the indices 0 and 2, the next one fills the gap, whatever was refused before. -/
theorem late_bank_fills_the_gap :
    Nat.isPowerOfTwo 0x800 ∧ 4 ≤ 0x800 ∧
      ∃ start, create narrowBus 0xE0000000 0x800 4 32 = .ok start ∧
        (start.allocateEach sampleCalls).1.IsSound ∧
        (start.allocateEach sampleCalls).1.banks.map
          (fun bank => (bank.name, bank.index, bank.base, bank.wordCount)) =
            [("control", 0, 0xE0000000, 6), ("buffer", 2, 0xE0001000, 4),
              ("table", 1, 0xE0000800, 0x200)] := by
  have powerOfTwo : Nat.isPowerOfTwo 0x800 := ⟨11, rfl⟩
  obtain ⟨start, created, follows⟩ :=
    banks_keep_apart powerOfTwo (by decide : 4 ≤ 0x800) narrowBus 0xE0000000 32
  refine ⟨powerOfTwo, by decide, start, created, (follows sampleCalls).2.1, ?_⟩
  obtain rfl : start = narrowRegion := (create_eq_ok.mp created).2.2
  decide

end Allocator

end BusFabric.RegisterBank
