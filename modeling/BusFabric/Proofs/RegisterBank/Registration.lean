import BusFabric.Proofs.AddressMap.Admission
import BusFabric.Proofs.RegisterBank.Placement

set_option autoImplicit false

namespace BusFabric

theorem Window.Meets.symm {window other : Window} (meets : window.Meets other) :
    other.Meets window := by
  obtain ⟨address, holds, shares⟩ := meets
  exact ⟨address, shares, holds⟩

namespace AddressMap

variable {map after : AddressMap} {window other : Window} {windows : List Window}
  {alignment span : Nat} {error : MapError}

def extended (map : AddressMap) (windows : List Window) : AddressMap :=
  { map with windows := windows.foldl (fun held window => place window held) map.windows }

theorem extended_cons (map : AddressMap) (window : Window) (windows : List Window) :
    map.extended (window :: windows) =
      { map with windows := place window map.windows }.extended windows := rfl

theorem perm_extended (map : AddressMap) (windows : List Window) :
    (map.extended windows).windows.Perm (windows ++ map.windows) := by
  induction windows generalizing map with
  | nil => exact .refl _
  | cons window rest ih =>
    rw [extended_cons]
    apply (ih _).trans
    apply ((perm_place window map.windows).append_left rest).trans
    exact List.perm_middle

theorem extended_eq_self_iff : map.extended windows = map ↔ windows = [] := by
  constructor
  · intro same
    have length := (perm_extended map windows).length_eq
    rw [same, List.length_append] at length
    apply List.eq_nil_of_length_eq_zero
    omega
  · rintro rfl
    rfl

theorem takes_place :
    { map with windows := place window map.windows }.Takes other alignment span ↔
      map.Takes other alignment span ∧ ¬ other.Meets window := by
  constructor
  · intro takes
    refine ⟨⟨takes.thawed, takes.sized, takes.inside, ?_, takes.positive, takes.aligned⟩, ?_⟩
    · intro held member
      exact takes.clear held (mem_place.mpr (.inr member))
    · exact takes.clear window (mem_place.mpr (.inl rfl))
  · rintro ⟨takes, apart⟩
    refine ⟨takes.thawed, takes.sized, takes.inside, ?_, takes.positive, takes.aligned⟩
    intro held member
    rcases mem_place.mp member with rfl | member
    · exact apart
    · exact takes.clear held member

theorem Refuses.of_place (apart : ¬ other.Meets window)
    (refuses : { map with windows := place window map.windows }.Refuses other alignment span
      error) :
    map.Refuses other alignment span error := by
  cases refuses with
  | frozen frozen => exact .frozen frozen
  | size thawed unfit => exact .size thawed unfit
  | range thawed sized outside => exact .range thawed sized outside
  | overlap thawed sized inside member meets =>
    rcases mem_place.mp member with rfl | member
    · exact absurd meets apart
    · exact .overlap (show map.isFrozen = false from thawed) sized inside member meets
  | division thawed sized inside clear zero =>
    exact .division thawed sized inside (fun held member => clear held
      (mem_place.mpr (.inr member))) zero
  | base thawed sized inside clear positive unaligned =>
    exact .base thawed sized inside (fun held member => clear held
      (mem_place.mpr (.inr member))) positive unaligned

/-- Windows that are apart from each other enter a map up to the first one that it does not take. -/
theorem insertAll_cases (ascending : Ascending map.windows)
    (apart : windows.Pairwise fun window other => ¬ window.Meets other) (alignment span : Nat) :
    ((∀ window ∈ windows, map.Takes window alignment span) ∧
        map.insertAll alignment span windows = (map.extended windows, .ok ())) ∨
      ∃ before refused rest error, windows = before ++ refused :: rest ∧
        (∀ window ∈ before, map.Takes window alignment span) ∧
        map.Refuses refused alignment span error ∧
        map.insertAll alignment span windows = (map.extended before, .error error) := by
  induction windows generalizing map with
  | nil => exact .inl ⟨nofun, rfl⟩
  | cons window rest ih =>
    obtain ⟨here, later⟩ := List.pairwise_cons.mp apart
    unfold insertAll
    rcases insert?_cases ascending window alignment span with
      ⟨takes, inserted⟩ | ⟨error, refuses, inserted⟩
    · rw [inserted]
      rcases ih (ascending.insert? inserted) later with
        ⟨all, entered⟩ | ⟨before, refused, behind, error, rfl, all, refuses, entered⟩
      · refine .inl ⟨?_, entered⟩
        intro other member
        rcases List.mem_cons.mp member with rfl | member
        · exact takes
        · exact (takes_place.mp (all other member)).1
      · refine .inr ⟨window :: before, refused, behind, error, rfl, ?_, ?_, entered⟩
        · intro other member
          rcases List.mem_cons.mp member with rfl | member
          · exact takes
          · exact (takes_place.mp (all other member)).1
        · apply refuses.of_place
          intro meets
          exact here refused (by simp) meets.symm
    · rw [inserted]
      exact .inr ⟨[], window, rest, error, rfl, nofun, refuses, rfl⟩

end AddressMap

namespace RegisterBank

variable {bus owner : Port} {origin : Address} {granularity stride maxBanks : Nat}
  {start : Allocator}

def Bank.window (bank : Bank) (bus : Port) : Window :=
  ⟨bank.name, bank.base, bank.size, bus.id, bus.dataWidth⟩

theorem Layout.windows_eq (layout : Layout) (bus : Port) :
    layout.windows bus = layout.banks.map (·.window bus) := rfl

/-- A map that may still get windows has room for a bank: none of its windows is in the way, and the
bank starts between two words, which take up space. -/
structure Bank.Enters (bank : Bank) (map : AddressMap) (bus : Port) (stride : Nat) : Prop where
  thawed : map.isFrozen = false
  clear : ∀ held ∈ map.windows, ¬ (bank.window bus).Meets held
  positive : 0 < stride
  aligned : stride ∣ bank.base.toNat

namespace Allocator

variable {allocator : Allocator} {bank other : Bank} {map : AddressMap}

theorem IsSound.windows_apart (sound : allocator.IsSound)
    (powerOfTwo : allocator.granularity.isPowerOfTwo) (bus : Port) :
    (allocator.layout.windows bus).Pairwise fun window other => ¬ window.Meets other := by
  have nonempty {bank : Bank} (member : bank ∈ allocator.banks) : 0 < (bank.window bus).size := by
    have size : (bank.window bus).size = allocator.granularity := (sound.seats bank member).size
    rw [size]
    exact Nat.pos_of_isPowerOfTwo powerOfTwo
  rw [Layout.windows_eq, List.pairwise_map]
  apply sound.disjoint.imp_of_mem
  intro bank other member listed apart meets
  obtain ⟨before, behind⟩ := (Window.meets_iff (nonempty member) (nonempty listed)).mp meets
  simp only [Window.finish, Bank.window] at before behind
  omega

theorem Seats.sized (seats : allocator.Seats bank)
    (powerOfTwo : allocator.granularity.isPowerOfTwo)
    (holds : allocator.stride ≤ allocator.granularity) (bus : Port) :
    (bank.window bus).size.isPowerOfTwo ∧ allocator.stride ≤ (bank.window bus).size := by
  have size : (bank.window bus).size = allocator.granularity := seats.size
  rw [size]
  exact ⟨powerOfTwo, holds⟩

/-- A bank ends before the last address, so its range is within any limit. -/
theorem Seats.inside (seats : allocator.Seats bank) (bus : Port) :
    (bank.window bus).size ≤ UInt64.size - 1 ∧ (bank.window bus).finish < UInt64.size := by
  have below := seats.below
  have size := seats.size
  have space : UInt64.size = 18446744073709551616 := rfl
  simp only [Bank.window, Window.finish]
  omega

/-- A map that is not frozen takes a bank that lies where it belongs if it has no window that meets
the bank and the bank's base is aligned: size and range are never in the way. -/
theorem Seats.takes_iff (seats : allocator.Seats bank)
    (powerOfTwo : allocator.granularity.isPowerOfTwo)
    (holds : allocator.stride ≤ allocator.granularity) (bus : Port) :
    map.Takes (bank.window bus) allocator.stride (UInt64.size - 1) ↔
      bank.Enters map bus allocator.stride := by
  constructor
  · intro takes
    exact ⟨takes.thawed, takes.clear, takes.positive, takes.aligned⟩
  · intro enters
    exact ⟨enters.thawed, seats.sized powerOfTwo holds bus, seats.inside bus, enters.clear,
      enters.positive, enters.aligned⟩

/-- Banks that keep apart enter a map up to the first one that does not fit. -/
theorem IsSound.registerBanks_cases (sound : allocator.IsSound)
    (powerOfTwo : allocator.granularity.isPowerOfTwo)
    (holds : allocator.stride ≤ allocator.granularity)
    (ascending : AddressMap.Ascending map.windows) (bus : Port) :
    ((∀ bank ∈ allocator.banks, bank.Enters map bus allocator.stride) ∧
        map.registerBanks bus allocator.layout =
          (map.extended (allocator.layout.windows bus), .ok ())) ∨
      ∃ before refused rest error, allocator.banks = before ++ refused :: rest ∧
        (∀ bank ∈ before, bank.Enters map bus allocator.stride) ∧
        map.Refuses (refused.window bus) allocator.stride (UInt64.size - 1) error ∧
        map.registerBanks bus allocator.layout =
          (map.extended (before.map (·.window bus)), .error error) := by
  have takes {bank : Bank} (member : bank ∈ allocator.banks) :
      map.Takes (bank.window bus) allocator.stride (UInt64.size - 1) ↔
        bank.Enters map bus allocator.stride :=
    (sound.seats bank member).takes_iff powerOfTwo holds bus
  rcases AddressMap.insertAll_cases ascending (sound.windows_apart powerOfTwo bus)
    allocator.stride (UInt64.size - 1) with
    ⟨all, entered⟩ | ⟨windows, window, others, error, whole, all, refuses, entered⟩
  · refine .inl ⟨?_, entered⟩
    intro bank member
    exact (takes member).mp (all _ (List.mem_map_of_mem member))
  · obtain ⟨before, behind, split, rfl, tail⟩ := List.map_eq_append_iff.mp whole
    obtain ⟨refused, rest, rfl, rfl, rfl⟩ := List.map_eq_cons_iff.mp tail
    refine .inr ⟨before, refused, rest, error, split, ?_, refuses, entered⟩
    intro bank member
    have listed : bank ∈ allocator.banks := by
      rw [show allocator.banks = before ++ refused :: rest from split]
      exact List.mem_append_left _ member
    exact (takes listed).mp (all _ (List.mem_map_of_mem member))

/-- Whatever was called on an empty map and whatever banks an allocator was asked for: registering
its layout enters the banks, in their order, up to the first one that does not fit the map as it was
before. They all enter just when all fit. If one is refused, for the first rule that it breaks,
those before it stay, so that the map is as it was just when the first bank of the layout is
refused. -/
theorem banks_enter_until_refused
    (created : create owner origin granularity stride maxBanks = .ok start)
    (calls : List AddressMap.Call) (declarations : List Declaration) (bus : Port) :
    let map := calls.foldl AddressMap.call {}
    let layout := (start.allocateEach declarations).1.layout
    let after := (map.registerBanks bus layout).1
    let answer := (map.registerBanks bus layout).2
    after.isFrozen = map.isFrozen ∧
      (answer = .ok () ↔ ∀ bank ∈ layout.banks, bank.Enters map bus stride) ∧
      (answer = .ok () → after.windows.Perm (layout.windows bus ++ map.windows)) ∧
      ∀ error, answer = .error error → ∃ before refused rest,
        layout.banks = before ++ refused :: rest ∧
          (∀ bank ∈ before, bank.Enters map bus stride) ∧
          map.Refuses (refused.window bus) stride (UInt64.size - 1) error ∧
          after.windows.Perm (before.map (·.window bus) ++ map.windows) ∧
          (after = map ↔ before = []) := by
  have follows := follows_create created declarations
  obtain ⟨powerOfTwo, holds, _⟩ := create_eq_ok.mp created
  obtain ⟨-, -, -, rfl, rfl⟩ := follows.fixed created
  generalize (start.allocateEach declarations).1 = allocator at follows powerOfTwo holds
  intro map layout after answer
  have laidOut : map.IsLaidOut := AddressMap.IsLaidOut.calls ⟨.nil, by simp⟩ calls
  rcases follows.sound.registerBanks_cases powerOfTwo holds laidOut.ascending bus with
    ⟨all, entered⟩ | ⟨before, refused, rest, error, split, all, refuses, entered⟩
  · have final : after = map.extended (layout.windows bus) := congrArg Prod.fst entered
    have done : answer = .ok () := congrArg Prod.snd entered
    rw [final, done]
    exact ⟨rfl, iff_of_true rfl all, fun _ => AddressMap.perm_extended map _, nofun⟩
  · have final : after = map.extended (before.map (·.window bus)) := congrArg Prod.fst entered
    have failed : answer = .error error := congrArg Prod.snd entered
    have lacks : ¬ refused.Enters map bus allocator.stride := by
      intro enters
      have listed : refused ∈ allocator.banks := by simp [split]
      exact refuses.not_takes
        (((follows.sound.seats refused listed).takes_iff powerOfTwo holds bus).mpr enters)
    rw [final, failed]
    refine ⟨rfl, iff_of_false nofun ?_, nofun, ?_⟩
    · intro enters
      apply lacks
      apply enters refused
      simp [layout, Allocator.layout, split]
    · rintro _ ⟨⟩
      refine ⟨before, refused, rest, split, all, refuses, AddressMap.perm_extended map _, ?_⟩
      rw [AddressMap.extended_eq_self_iff, List.map_eq_nil_iff]

/-- A memory in the window behind the first one of the region. -/
def memoryPort : Port where
  id := ⟨1⟩
  name := "memory"
  protocol := .simpleSync
  role := .slave
  dataWidth := 32
  addressWidth := 30

/-- With a memory in the place of the third bank, the banks do not all fit, and some of them have
entered when one is refused. -/
theorem banks_enter_beside_memory :
    let map := [AddressMap.Call.register memoryPort 0xE0000800 0x100].foldl AddressMap.call {}
    let layout := (narrowRegion.allocateEach sampleCalls).1.layout
    let after := (map.registerBanks narrowBus layout).1
    create narrowBus 0xE0000000 0x800 4 32 = .ok narrowRegion ∧
      (¬ ∀ bank ∈ layout.banks, bank.Enters map narrowBus 4) ∧
      ∃ before refused rest, layout.banks = before ++ refused :: rest ∧ before ≠ [] ∧
        (∀ bank ∈ before, bank.Enters map narrowBus 4) ∧
        after.windows.Perm (before.map (·.window narrowBus) ++ map.windows) := by
  intro map layout after
  have created : create narrowBus 0xE0000000 0x800 4 32 = .ok narrowRegion := by decide
  have failed : (map.registerBanks narrowBus layout).2 = .error
      (.overlap "table" 0xE0000800 0xE0001000 "memory" 0xE0000800 0xE0000900) := by decide
  have changed : after ≠ map := by decide
  obtain ⟨_, all, _, refused⟩ := banks_enter_until_refused created
    [.register memoryPort 0xE0000800 0x100] sampleCalls narrowBus
  obtain ⟨before, bank, rest, split, entered, _, perm, same⟩ := refused _ failed
  refine ⟨created, ?_, before, bank, rest, split, ?_, entered, ?_⟩
  · rw [← all, failed]
    nofun
  · rw [ne_eq, ← same]
    exact changed
  · simp only [after, map, layout]
    exact perm

/-- With a memory in the place of the third bank, registering the banks fails, but the first two of
them are decoded from then on. -/
theorem banks_before_a_refused_one_stay :
    let map := [AddressMap.Call.register memoryPort 0xE0000800 0x100].foldl AddressMap.call {}
    let layout := (narrowRegion.allocateEach sampleCalls).1.layout
    let after := (map.registerBanks narrowBus layout).1
    create narrowBus 0xE0000000 0x800 4 32 = .ok narrowRegion ∧
      (map.registerBanks narrowBus layout).2 = .error
        (.overlap "table" 0xE0000800 0xE0001000 "memory" 0xE0000800 0xE0000900) ∧
      map.decode 0xE0000000 = none ∧ after.decode 0xE0000000 = some narrowBus.id ∧
      map.decode 0xE0001000 = none ∧ after.decode 0xE0001000 = some narrowBus.id ∧
      after.windows ≠ map.windows := by
  decide

/-- Where the stride divides the granularity, all bases are aligned like the origin. -/
theorem Seats.dvd_base_iff (seats : allocator.Seats bank)
    (whole : allocator.stride ∣ allocator.granularity) :
    allocator.stride ∣ bank.base.toNat ↔ allocator.stride ∣ allocator.origin.toNat := by
  rw [seats.base]
  exact (Nat.dvd_add_iff_left (Nat.dvd_mul_right_of_dvd whole bank.index)).symm

/-- Where words take up space, an empty map refuses a bank for its base only. -/
theorem Seats.refused_by_empty (seats : allocator.Seats bank)
    (powerOfTwo : allocator.granularity.isPowerOfTwo) (positive : 0 < allocator.stride)
    (holds : allocator.stride ≤ allocator.granularity) {error : MapError}
    (refuses : AddressMap.Refuses {} (bank.window bus) allocator.stride (UInt64.size - 1) error) :
    ¬ allocator.stride ∣ bank.base.toNat ∧
      error = .alignment bank.name bank.base.toNat allocator.granularity allocator.stride := by
  have size : (bank.window bus).size = allocator.granularity := seats.size
  cases refuses with
  | frozen frozen => cases frozen
  | size _ unfit => exact absurd (seats.sized powerOfTwo holds bus) unfit
  | range _ _ outside => exact absurd (seats.inside bus) outside
  | overlap _ _ _ member _ => cases member
  | division _ _ _ _ zero => exact absurd zero (Nat.ne_of_gt positive)
  | base _ _ _ _ _ unaligned =>
    rw [size]
    exact ⟨unaligned, rfl⟩

/-- Banks whose words lie a power of two apart enter an empty map all together, or not at all: the
first one is refused then, for its base. -/
theorem IsSound.registerBanks_empty (sound : allocator.IsSound)
    (powerOfTwo : allocator.granularity.isPowerOfTwo) (even : allocator.stride.isPowerOfTwo)
    (holds : allocator.stride ≤ allocator.granularity) (bus : Port) :
    ((allocator.banks = [] ∨ allocator.stride ∣ allocator.origin.toNat) ∧
        AddressMap.registerBanks {} bus allocator.layout =
          (AddressMap.extended {} (allocator.layout.windows bus), .ok ())) ∨
      ∃ first ∈ allocator.banks.head?, ¬ allocator.stride ∣ allocator.origin.toNat ∧
        AddressMap.registerBanks {} bus allocator.layout = ({}, .error
          (.alignment first.name first.base.toNat allocator.granularity allocator.stride)) := by
  have whole := dvd_of_isPowerOfTwo even powerOfTwo holds
  have aligned {bank : Bank} (member : bank ∈ allocator.banks) :
      allocator.stride ∣ bank.base.toNat ↔ allocator.stride ∣ allocator.origin.toNat :=
    (sound.seats bank member).dvd_base_iff whole
  have empty : AddressMap.Ascending (AddressMap.windows {}) := .nil
  rcases sound.registerBanks_cases powerOfTwo holds empty bus with
    ⟨all, entered⟩ | ⟨before, refused, rest, error, split, all, refuses, entered⟩
  · refine .inl ⟨?_, entered⟩
    cases banks : allocator.banks with
    | nil => exact .inl rfl
    | cons first rest =>
      have member : first ∈ allocator.banks := by simp [banks]
      exact .inr ((aligned member).mp (all first member).aligned)
  · have member : refused ∈ allocator.banks := by simp [split]
    obtain ⟨unaligned, rfl⟩ :=
      (sound.seats refused member).refused_by_empty powerOfTwo (Nat.pos_of_isPowerOfTwo even) holds
        refuses
    rw [aligned member] at unaligned
    -- A bank before the refused one would be aligned like it.
    cases before with
    | nil => exact .inr ⟨refused, by simp [split], unaligned, entered⟩
    | cons first between =>
      have listed : first ∈ allocator.banks := by simp [split]
      exact absurd ((aligned listed).mp (all first (by simp)).aligned) unaligned

/-- Where words lie a power of two apart, whatever banks an allocator was asked for, registering its
layout in an empty map succeeds just when there is no bank or the origin is aligned to the stride.
The windows of the map are then those that the allocator handed out, and each is found at all of its
addresses. Otherwise the first bank is refused for its base, and the map stays empty: a bank is
never refused for its size, its range or another bank in its place. -/
theorem allocated_banks_register (even : stride.isPowerOfTwo)
    (created : create bus origin granularity stride maxBanks = .ok start)
    (declarations : List Declaration) :
    let layout := (start.allocateEach declarations).1.layout
    let handed := (start.allocateEach declarations).2.filterMap (·.toOption)
    let after := (AddressMap.registerBanks {} bus layout).1
    let answer := (AddressMap.registerBanks {} bus layout).2
    layout.banks.map (·.window bus) = handed ∧
      (answer = .ok () ↔ layout.banks = [] ∨ stride ∣ origin.toNat) ∧
      (answer = .ok () → after.isFrozen = false ∧ after.windows.Perm handed ∧
        ∀ window ∈ handed, ∀ address,
          after.windowAt? address = some window ↔ window.contains address = true) ∧
      ∀ error, answer = .error error → after = {} ∧ ∃ first ∈ layout.banks.head?,
        error = .alignment first.name first.base.toNat granularity stride := by
  have follows := follows_create created declarations
  obtain ⟨powerOfTwo, holds, _⟩ := create_eq_ok.mp created
  obtain ⟨carried, width, rfl, rfl, rfl⟩ := follows.fixed created
  generalize (start.allocateEach declarations).1 = allocator
    at follows powerOfTwo even holds carried width
  intro layout handed after answer
  have windows : layout.banks.map (·.window bus) = handed := by
    have same : allocator.windowOf = (·.window bus) := by
      funext bank
      rw [windowOf, Bank.window, carried, width]
    rw [← same]
    exact follows.windows.symm
  have empty : AddressMap.IsLaidOut {} := ⟨.nil, by simp⟩
  have laidOut : after.IsLaidOut := empty.call (.registerBanks bus layout)
  refine ⟨windows, ?_⟩
  rcases follows.sound.registerBanks_empty powerOfTwo even holds bus with
    ⟨fits, entered⟩ | ⟨first, found, unaligned, entered⟩
  · have final : after = AddressMap.extended {} (layout.windows bus) := congrArg Prod.fst entered
    have done : answer = .ok () := congrArg Prod.snd entered
    have perm : after.windows.Perm handed := by
      rw [final, ← windows, ← List.append_nil (layout.banks.map _)]
      exact AddressMap.perm_extended {} (layout.windows bus)
    refine ⟨iff_of_true done fits, ?_, ?_⟩
    · intro _
      refine ⟨congrArg AddressMap.isFrozen final, perm, ?_⟩
      intro window member address
      rw [AddressMap.windowAt?_eq_some_iff laidOut.ascending, perm.mem_iff]
      exact and_iff_right member
    · rw [done]
      nofun
  · have final : after = {} := congrArg Prod.fst entered
    have failed : answer = .error (.alignment first.name first.base.toNat allocator.granularity
      allocator.stride) := congrArg Prod.snd entered
    have banks : layout.banks ≠ [] := by
      intro none
      rw [show allocator.banks = [] from none] at found
      cases found
    rw [failed]
    refine ⟨iff_of_false nofun (not_or.mpr ⟨banks, unaligned⟩), nofun, ?_⟩
    rintro _ ⟨⟩
    exact ⟨final, first, found, rfl⟩

/-- The banks of the sample region, three of the six that were asked for, are decoded as they were
handed out. -/
theorem sample_banks_register :
    let layout := (narrowRegion.allocateEach sampleCalls).1.layout
    let handed := (narrowRegion.allocateEach sampleCalls).2.filterMap (·.toOption)
    let after := (AddressMap.registerBanks {} narrowBus layout).1
    Nat.isPowerOfTwo 4 ∧ create narrowBus 0xE0000000 0x800 4 32 = .ok narrowRegion ∧
      handed.map (fun window => (window.name, window.base)) =
        [("control", 0xE0000000), ("buffer", 0xE0001000), ("table", 0xE0000800)] ∧
      (AddressMap.registerBanks {} narrowBus layout).2 = .ok () ∧ after.windows.Perm handed := by
  intro layout handed after
  have even : Nat.isPowerOfTwo 4 := ⟨2, rfl⟩
  have created : create narrowBus 0xE0000000 0x800 4 32 = .ok narrowRegion := by decide
  obtain ⟨_, succeeds, entered, _⟩ := allocated_banks_register even created sampleCalls
  have done : (AddressMap.registerBanks {} narrowBus layout).2 = .ok () :=
    succeeds.mpr (.inr (by decide))
  refine ⟨even, created, by decide, done, ?_⟩
  simp only [after, handed, layout]
  exact (entered done).2.1

end Allocator

end RegisterBank

end BusFabric
