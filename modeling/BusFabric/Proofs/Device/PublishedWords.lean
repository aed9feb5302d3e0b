import BusFabric.Proofs.Device.RegisterWords

set_option autoImplicit false

namespace BusFabric

open RegisterBank (Allocator Bank Layout PlacedRegister)

namespace RegisterBank

/-- A word of a bank, as a driver names it: of the register at a place in the list of registers, or
of a memory. -/
inductive Part where
  | register (place word : Nat)
  | memory (word : Nat)
  deriving DecidableEq

/-- The words of a bank: what each is called, its number in the bank, and the address that is
published for it. -/
inductive Bank.Publishes (bank : Bank) (stride : Nat) : Part → Nat → Address → Prop
  | register {registers : List PlacedRegister} {place word : Nat} {register : PlacedRegister}
      (placement : bank.placement = .registers registers)
      (found : registers[place]? = some register) (inside : word < register.words) :
      Publishes bank stride (.register place word) (register.offset + word)
        (register.address + BitVec.ofNat 64 (word * stride))
  | memory {words word : Nat} (placement : bank.placement = .memory words)
      (inside : word < words) :
      Publishes bank stride (.memory word) word (bank.base + BitVec.ofNat 64 (word * stride))

namespace Allocator.Seats

variable {allocator : Allocator} {bank : Bank} {address : Address} {part other : Part}
  {registers : List PlacedRegister} {register : PlacedRegister} {word number : Nat}

theorem number_mul_stride_lt (seats : allocator.Seats bank) (positive : 0 < allocator.stride)
    (inside : number < bank.wordCount) : number * allocator.stride < allocator.granularity := by
  apply Nat.lt_of_lt_of_le _ seats.room
  exact Nat.mul_lt_mul_of_pos_right inside positive

theorem toNat_sub_origin (seats : allocator.Seats bank) (positive : 0 < allocator.stride)
    (inside : number < bank.wordCount)
    (here : address.toNat = bank.base.toNat + number * allocator.stride) :
    (address - allocator.origin).toNat =
      allocator.granularity * bank.index + number * allocator.stride := by
  have space : UInt64.size = 2 ^ 64 := rfl
  have short := seats.number_mul_stride_lt positive inside
  have below := seats.below
  have base := seats.base
  have origin := allocator.origin.isLt
  rw [seats.size] at below
  rw [BitVec.toNat_sub, here, base]
  rw [show 2 ^ 64 - allocator.origin.toNat +
      (allocator.origin.toNat + allocator.granularity * bank.index + number * allocator.stride) =
      allocator.granularity * bank.index + number * allocator.stride + 2 ^ 64 by omega,
    Nat.add_mod_right]
  apply Nat.mod_eq_of_lt
  omega

theorem toNat_word (seats : allocator.Seats bank) (positive : 0 < allocator.stride)
    (placement : bank.placement = .registers registers) (member : register ∈ registers)
    (inside : word < register.words) :
    (register.address + BitVec.ofNat 64 (word * allocator.stride)).toNat =
      bank.base.toNat + (register.offset + word) * allocator.stride := by
  have space : UInt64.size = 2 ^ 64 := rfl
  have short := seats.number_mul_stride_lt positive (seats.number_lt placement member inside)
  have below := seats.below
  rw [seats.size] at below
  rw [Nat.add_mul] at *
  rw [BitVec.toNat_add, BitVec.toNat_ofNat, Nat.add_mod_mod,
    (seats.registers registers placement).address register member, Nat.mod_eq_of_lt (by omega)]
  omega

theorem toNat_memory (seats : allocator.Seats bank) (positive : 0 < allocator.stride)
    (inside : word < bank.wordCount) :
    (bank.base + BitVec.ofNat 64 (word * allocator.stride)).toNat =
      bank.base.toNat + word * allocator.stride := by
  have space : UInt64.size = 2 ^ 64 := rfl
  have short := seats.number_mul_stride_lt positive inside
  have below := seats.below
  rw [seats.size] at below
  rw [BitVec.toNat_add, BitVec.toNat_ofNat, Nat.add_mod_mod, Nat.mod_eq_of_lt (by omega)]

theorem toNat_published (seats : allocator.Seats bank) (positive : 0 < allocator.stride)
    (published : bank.Publishes allocator.stride part number address) :
    number < bank.wordCount ∧
      address.toNat = bank.base.toNat + number * allocator.stride := by
  cases published with
  | register placement found inside =>
    have member := List.mem_of_getElem? found
    exact ⟨seats.number_lt placement member inside,
      seats.toNat_word positive placement member inside⟩
  | memory placement inside =>
    rw [← seats.memory _ placement] at inside
    exact ⟨inside, seats.toNat_memory positive inside⟩

theorem part_unique (seats : allocator.Seats bank) {again : Address}
    (published : bank.Publishes allocator.stride part number address)
    (repeated : bank.Publishes allocator.stride other number again) : part = other := by
  generalize same : number = count at repeated
  cases published with
  | register placement found inside =>
    cases repeated with
    | register placed there within =>
      cases placement.symm.trans placed
      have starts : ∀ offset word words : Nat, word < words →
          offset ≤ offset + word ∧ offset + word < offset + words := by omega
      obtain rfl := (seats.registers _ placement).place_unique found there (starts _ _ _ inside)
        (same ▸ starts _ _ _ within)
      cases found.symm.trans there
      congr 1
      omega
    | memory placed _ => cases placement.symm.trans placed
  | memory placement inside =>
    cases repeated with
    | register placed _ _ => cases placement.symm.trans placed
    | memory _ _ => rw [same]

end Allocator.Seats

end RegisterBank

namespace Device.RegisterFile

variable {file : RegisterFile} {bank : Bank} {offset : Address} {index inside number : Nat}

/-- An offset is a bank's and one inside the bank. -/
theorem position?_eq (positive : 0 < file.stride)
    (here : offset.toNat = file.granularity * index + inside) (within : inside < file.granularity) :
    file.position? offset = some (index, inside / file.stride) := by
  unfold position?
  rw [if_neg (by omega), here, Nat.mul_add_div (Nat.zero_lt_of_lt within), Nat.mul_add_mod,
    Nat.div_eq_of_lt within, Nat.mod_eq_of_lt within, Nat.add_zero]

def IsUnmapped (file : RegisterFile) (offset : Address) : Prop :=
  file.read? offset = some (.error (.unmapped offset)) ∧
    ∀ data select, file.write? offset data select = some (.error (.unmapped offset))

theorem isUnmapped_of_position? (here : file.position? offset = some (index, number))
    (absent : file.wordAt? index number = none) : file.IsUnmapped offset := by
  constructor
  · rw [read?_eq here, absent]
  · exact write?_unmapped here absent

/-- How a register file that was not written to yet agrees with the layout it was made from. -/
structure ShowsLayout (layout : Layout) : Prop where
  /-- A word of a register reads as its bits of the reset value. -/
  registers : ∀ bank ∈ layout.banks, ∀ registers, bank.placement = .registers registers →
    ∀ register ∈ registers, ∀ word < register.words,
      (ofLayout layout).read?
          (register.address - layout.origin + BitVec.ofNat 64 (word * layout.stride)) =
        some (.ok
          ((register.reset.extractLsb' (word * layout.dataWidth) layout.dataWidth).setWidth 128))
  /-- A word of a memory reads as zero. -/
  memories : ∀ bank ∈ layout.banks, ∀ words, bank.placement = .memory words → ∀ word < words,
    (ofLayout layout).read? (bank.base - layout.origin + BitVec.ofNat 64 (word * layout.stride)) =
      some (.ok 0)
  /-- What is published is found in its bank. -/
  position : ∀ bank ∈ layout.banks, ∀ part number address,
    bank.Publishes layout.stride part number address →
      number < bank.wordCount ∧
        (ofLayout layout).position? (address - layout.origin) = some (bank.index, number)
  /-- No two words that are published are one in the file. -/
  apart : ∀ bank ∈ layout.banks, ∀ other ∈ layout.banks,
    ∀ part number address otherPart otherNumber otherAddress,
      bank.Publishes layout.stride part number address →
      other.Publishes layout.stride otherPart otherNumber otherAddress →
      (ofLayout layout).position? (address - layout.origin) =
        (ofLayout layout).position? (otherAddress - layout.origin) →
      bank = other ∧ part = otherPart
  /-- Behind the words of a bank its window is empty. -/
  beyond : ∀ bank ∈ layout.banks, ∀ inside, bank.wordCount * layout.stride ≤ inside →
    inside < layout.granularity → ∀ offset : Address,
      offset.toNat = layout.granularity * bank.index + inside →
        (ofLayout layout).IsUnmapped offset
  /-- A window without a bank is empty. -/
  between : ∀ offset : Address,
    (∀ bank ∈ layout.banks, bank.index ≠ offset.toNat / layout.granularity) →
      (ofLayout layout).IsUnmapped offset

section

variable {allocator : Allocator} {part : RegisterBank.Part} {address : Address}
  {registers : List PlacedRegister} {register : PlacedRegister} {word : Nat}

/-- A published address falls on the word that it was published for. -/
theorem position?_published (seats : allocator.Seats bank) (positive : 0 < allocator.stride)
    (published : bank.Publishes allocator.stride part number address) :
    (ofLayout allocator.layout).position? (address - allocator.origin) =
      some (bank.index, number) := by
  obtain ⟨inside, here⟩ := seats.toNat_published positive published
  have offset := seats.toNat_sub_origin positive inside here
  rw [position?_eq positive offset (seats.number_mul_stride_lt positive inside)]
  exact congrArg (fun number => some (bank.index, number)) (Nat.mul_div_cancel number positive)

theorem read?_published (sound : allocator.IsSound) (positive : 0 < allocator.stride)
    (member : bank ∈ allocator.banks)
    (published : bank.Publishes allocator.stride part number address) :
    (ofLayout allocator.layout).read? (address - allocator.origin) =
      some (.ok (((ofLayout allocator.layout).resetWord bank number).setWidth 128)) := by
  have seats := sound.seats bank member
  rw [read?_eq (position?_published seats positive published),
    wordAt?_ofLayout sound member (seats.toNat_published positive published).1]

theorem read?_register (sound : allocator.IsSound) (positive : 0 < allocator.stride)
    (member : bank ∈ allocator.banks) (placement : bank.placement = .registers registers)
    (held : register ∈ registers) (inside : word < register.words) :
    (ofLayout allocator.layout).read?
        (register.address - allocator.origin + BitVec.ofNat 64 (word * allocator.stride)) =
      some (.ok ((register.reset.extractLsb' (word * allocator.dataWidth)
        allocator.dataWidth).setWidth 128)) := by
  obtain ⟨place, found⟩ := List.mem_iff_getElem?.mp held
  have sum : register.address - allocator.origin + BitVec.ofNat 64 (word * allocator.stride) =
      register.address + BitVec.ofNat 64 (word * allocator.stride) - allocator.origin := by
    rw [BitVec.sub_eq_add_neg, BitVec.sub_eq_add_neg, BitVec.add_assoc, BitVec.add_assoc,
      BitVec.add_comm (-allocator.origin)]
  have its : bank.registerAt? (register.offset + word) = some register :=
    Bank.registerAt?_eq_some ((sound.seats bank member).registers registers placement) placement
      held (by omega)
  rw [sum, read?_published sound positive member (.register placement found inside),
    resetWord_eq its, Nat.add_sub_cancel_left]
  have width : (ofLayout allocator.layout).dataWidth = allocator.dataWidth := rfl
  rw [width]
  congr 2
  apply BitVec.eq_of_getLsbD_eq
  intro bit fits
  by_cases low : bit < 64
  · simp [fits, low]
  · -- The reset value has no bits up here.
    have past : 64 ≤ word * allocator.dataWidth + bit := by omega
    simp [fits, low, BitVec.getLsbD_of_ge register.reset _ past]

theorem read?_memory {words : Nat} (sound : allocator.IsSound) (positive : 0 < allocator.stride)
    (member : bank ∈ allocator.banks) (placement : bank.placement = .memory words)
    (inside : word < words) :
    (ofLayout allocator.layout).read?
        (bank.base - allocator.origin + BitVec.ofNat 64 (word * allocator.stride)) =
      some (.ok 0) := by
  have sum : bank.base - allocator.origin + BitVec.ofNat 64 (word * allocator.stride) =
      bank.base + BitVec.ofNat 64 (word * allocator.stride) - allocator.origin := by
    rw [BitVec.sub_eq_add_neg, BitVec.sub_eq_add_neg, BitVec.add_assoc, BitVec.add_assoc,
      BitVec.add_comm (-allocator.origin)]
  have free : bank.registerAt? word = none := by
    unfold Bank.registerAt?
    rw [placement]
  rw [sum, read?_published sound positive member (.memory placement inside), resetWord_of_none free]
  rfl

theorem wordAt?_eq_none {layout : Layout}
    (beyond : ∀ bank ∈ layout.banks, bank.index = index → bank.wordCount ≤ number) :
    (ofLayout layout).wordAt? index number = none := by
  rw [wordAt?_eq_none_iff]
  intro state found
  rw [state?_ofLayout, Option.map_eq_some_iff] at found
  obtain ⟨bank, found, rfl⟩ := found
  have same := List.find?_some found
  rw [decide_eq_true_eq] at same
  exact beyond bank (List.mem_of_find?_eq_some found) same

theorem isUnmapped_beyond (sound : allocator.IsSound) (positive : 0 < allocator.stride)
    (member : bank ∈ allocator.banks) (past : bank.wordCount * allocator.stride ≤ inside)
    (within : inside < allocator.granularity)
    (here : offset.toNat = allocator.granularity * bank.index + inside) :
    (ofLayout allocator.layout).IsUnmapped offset := by
  apply isUnmapped_of_position? (position?_eq positive here within)
  apply wordAt?_eq_none
  intro other listed same
  rw [sound.bank_unique listed member same]
  exact (Nat.le_div_iff_mul_le positive).mpr past

theorem isUnmapped_between {layout : Layout} (spaced : 0 < layout.granularity)
    (positive : 0 < layout.stride)
    (free : ∀ bank ∈ layout.banks, bank.index ≠ offset.toNat / layout.granularity) :
    (ofLayout layout).IsUnmapped offset := by
  have here : offset.toNat =
      layout.granularity * (offset.toNat / layout.granularity) +
        offset.toNat % layout.granularity := (Nat.div_add_mod _ _).symm
  apply isUnmapped_of_position? (position?_eq positive here (Nat.mod_lt _ spaced))
  apply wordAt?_eq_none
  intro bank member same
  exact absurd same (free bank member)

theorem showsLayout (sound : allocator.IsSound) (spaced : 0 < allocator.granularity)
    (positive : 0 < allocator.stride) : ShowsLayout allocator.layout where
  registers _ member _ placement _ held _ inside :=
    read?_register sound positive member placement held inside
  memories _ member _ placement _ inside := read?_memory sound positive member placement inside
  position bank member _ _ _ published :=
    ⟨((sound.seats bank member).toNat_published positive published).1,
      position?_published (sound.seats bank member) positive published⟩
  apart := by
    intro bank member other listed part number address again _ _ published repeated same
    have seats := sound.seats bank member
    rw [show allocator.layout.origin = allocator.origin from rfl,
      position?_published seats positive published,
      position?_published (sound.seats other listed) positive repeated] at same
    obtain ⟨index, rfl⟩ := Prod.mk.inj (Option.some.inj same)
    obtain rfl := sound.bank_unique member listed index
    exact ⟨rfl, seats.part_unique published repeated⟩
  beyond _ member _ past within _ here := isUnmapped_beyond sound positive member past within here
  between _ free := isUnmapped_between spaced positive free

end

/-- Whatever banks were asked for: if words take up space, a word that the layout publishes is found
at its address, counted from the origin, and starts out as its part of the reset value; no two such
words are one word of the register file; and where no bank has a word, there is nothing. With a
stride of zero, which an allocator takes as well, no access has an answer. -/
theorem layout_shows_reset {bus : Port} {origin : Address} {granularity stride maxBanks : Nat}
    {start : Allocator}
    (created : Allocator.create bus origin granularity stride maxBanks = .ok start)
    (calls : List RegisterBank.Declaration) :
    (0 < stride → ShowsLayout (start.allocateEach calls).1.layout) ∧
      (stride = 0 → (ofLayout (start.allocateEach calls).1.layout).IsSilent) := by
  have follows := Allocator.follows_create created calls
  obtain ⟨powerOfTwo, _, rfl⟩ := Allocator.create_eq_ok.mp created
  have whole := follows.whole
  constructor
  · intro positive
    apply showsLayout follows.sound
    · rw [whole]
      exact Nat.pos_of_isPowerOfTwo powerOfTwo
    · rw [whole]
      exact positive
  · intro zero
    apply isSilent_of_eq_zero
    right
    change Allocator.stride _ = 0
    rw [whole]
    exact zero

/-- On a bus of eight bits the fourth word of the first register has the uppermost byte of its
reset value, and there is nothing behind the last word of the bank. -/
theorem narrow_bus_splits_registers :
    Allocator.create Allocator.narrowBus 0xE0000000 0x800 4 32 = .ok Allocator.narrowRegion ∧
      (ofLayout (Allocator.narrowRegion.allocateEach Allocator.sampleCalls).1.layout).read? 0xC =
        some (.ok 0xC5) ∧
      (ofLayout (Allocator.narrowRegion.allocateEach Allocator.sampleCalls).1.layout).IsUnmapped
        0x18 := by
  have created : Allocator.create Allocator.narrowBus 0xE0000000 0x800 4 32 =
      .ok Allocator.narrowRegion := by decide
  have shows := (layout_shows_reset created Allocator.sampleCalls).1 (by decide)
  refine ⟨created, ?_, ?_⟩
  · exact shows.registers _ List.mem_cons_self _ rfl _ List.mem_cons_self 3 (by decide)
  · exact shows.beyond _ List.mem_cons_self 0x18 (by decide) (by decide) 0x18 rfl

/-- Where words take up no space, the identifier has an address all the same, but reading it gives
no answer. -/
theorem no_answer_without_stride :
    ∃ start, Allocator.create { Allocator.narrowBus with dataWidth := 32 } 0xE0000000 0x800 0 32 =
        .ok start ∧
      ∃ bank ∈ (start.allocateEach Allocator.identifierCalls).1.layout.banks,
        ∃ registers, bank.placement = .registers registers ∧
          ∃ register ∈ registers, register.words = 1 ∧
            (ofLayout (start.allocateEach Allocator.identifierCalls).1.layout).read?
              (register.address - 0xE0000000) = none :=
  ⟨{ Allocator.narrowRegion with dataWidth := 32, stride := 0 }, by decide, _, List.mem_cons_self,
    _, rfl, _, List.mem_cons_self, by decide, rfl⟩

end Device.RegisterFile

end BusFabric
