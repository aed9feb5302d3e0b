import Mathlib.Data.List.Forall2
import Mathlib.Data.List.Perm.Basic
import BusFabric.Fabric.Description
import BusFabric.Proofs.AddressMap.Calls
import BusFabric.Proofs.Fabric.Slaves

set_option autoImplicit false

namespace BusFabric

namespace AddressMap

theorem perm_insertAll {map after : AddressMap} {alignment span : Nat} {windows : List Window}
    (inserted : map.insertAll alignment span windows = (after, .ok ())) :
    after.windows.Perm (map.windows ++ windows) := by
  induction windows generalizing map with
  | nil =>
    cases inserted
    rw [List.append_nil]
  | cons window rest ih =>
    unfold insertAll at inserted
    split at inserted
    · rename_i next first
      obtain ⟨_, rfl⟩ := insert?_eq_ok first
      apply (ih inserted).trans
      apply ((perm_place window map.windows).append_right rest).trans
      exact List.perm_middle.symm
    · cases inserted

end AddressMap

namespace Port

def IsPlainSlave (port : Port) : Prop :=
  port.role = .slave ∧ port.protocol ≠ .registerBus

def IsRegisterBus (port : Port) : Prop :=
  port.role = .slave ∧ port.protocol = .registerBus

instance : DecidablePred IsPlainSlave :=
  fun port => inferInstanceAs (Decidable (port.role = .slave ∧ port.protocol ≠ .registerBus))

instance : DecidablePred IsRegisterBus :=
  fun port => inferInstanceAs (Decidable (port.role = .slave ∧ port.protocol = .registerBus))

end Port

structure RegisterBank.Bank.Opens (layout : RegisterBank.Layout) (bus : Port)
    (bank : RegisterBank.Bank) (window : Window) : Prop where
  name : window.name = bank.name
  base : window.base.toNat = layout.origin.toNat + layout.granularity * bank.index
  size : window.size = layout.granularity
  owner : window.owner = bus.id
  width : window.dataWidth = bus.dataWidth

namespace Fabric

open RegisterBank (Allocator Layout)

structure Parts.Gathers (parts : Parts) (ports : List Port) : Prop where
  windows : ∃ declared, List.Forall₂ Port.Declares (ports.filter (·.IsPlainSlave)) declared ∧
    parts.map.windows.Perm declared
  slaves : parts.slaves.map (·.1) = (ports.filter (·.IsPlainSlave)).map (·.id)
  /-- There is one register bus at most. -/
  bus : parts.registerBus.toList = ports.filter (·.IsRegisterBus)

theorem registerBus_eq_none {config : Config} {parts after : Parts} {port : Port}
    (carries : port.IsRegisterBus) (added : parts.add config port = .ok after) :
    parts.registerBus = none := by
  obtain ⟨role, protocol⟩ := carries
  unfold Parts.add at added
  rw [role] at added
  dsimp only at added
  rw [if_pos protocol] at added
  split at added
  · cases added
  · rename_i free
    simpa using free

namespace Parts.Gathers

variable {config : Config} {parts after : Parts} {ports : List Port} {port : Port}

theorem nil : Parts.Gathers {} [] where
  windows := ⟨[], .nil, .nil⟩
  slaves := rfl
  bus := rfl

theorem add (gathers : parts.Gathers ports) (added : parts.add config port = .ok after) :
    after.Gathers (ports ++ [port]) := by
  obtain ⟨⟨declared, each, order⟩, slaves, bus⟩ := gathers
  rcases add_cases added with ⟨agent, asks, _, rfl⟩ | ⟨answers, carries, rfl⟩ |
    ⟨map, agent, answers, plain, placed, _, rfl⟩
  · have windowless : ¬ port.IsPlainSlave := by simp [Port.IsPlainSlave, asks]
    have bankless : ¬ port.IsRegisterBus := by simp [Port.IsRegisterBus, asks]
    refine ⟨⟨declared, ?_, order⟩, ?_, ?_⟩
    all_goals simpa [List.filter_append, windowless, bankless]
  · have windowless : ¬ port.IsPlainSlave := fun plain => plain.2 carries
    have its : port.IsRegisterBus := ⟨answers, carries⟩
    rw [registerBus_eq_none its added] at bus
    refine ⟨⟨declared, ?_, order⟩, ?_, ?_⟩
    · simpa [List.filter_append, windowless]
    · simpa [List.filter_append, windowless]
    · rw [List.filter_append, ← bus]
      simp [its]
  · have its : port.IsPlainSlave := ⟨answers, plain⟩
    have bankless : ¬ port.IsRegisterBus := fun carries => plain carries.2
    obtain ⟨window, declares, inserted⟩ := AddressMap.registerPort?_eq_ok answers plain placed
    obtain ⟨_, rfl⟩ := AddressMap.insert?_eq_ok inserted
    refine ⟨⟨declared ++ [window], ?_, ?_⟩, ?_, ?_⟩
    · have alone : [port].filter (·.IsPlainSlave) = [port] := by simp [its]
      rw [List.filter_append, alone]
      exact List.rel_append each (.cons declares .nil)
    · apply (AddressMap.perm_place window parts.map.windows).trans
      apply (order.cons window).trans
      exact (List.perm_append_singleton window declared).symm
    · rw [List.map_append, slaves, List.filter_append, List.map_append]
      simp [its]
    · simpa [List.filter_append, bankless]

theorem foldlM {rest : List Port} (gathers : parts.Gathers ports)
    (folded : rest.foldlM (fun parts port => parts.add config port) parts = .ok after) :
    after.Gathers (ports ++ rest) :=
  Parts.foldlM_induction (fun parts ports => parts.Gathers ports)
    (fun holds added => holds.add added) gathers folded

end Parts.Gathers

/-- The banks that an allocator has placed open the windows of their layout. -/
theorem opens_windows {bus : Port} {origin : Address} {granularity stride maxBanks : Nat}
    {start allocator : Allocator} {calls : List RegisterBank.Declaration}
    (created : Allocator.create bus origin granularity stride maxBanks = .ok start)
    (allocated : start.allocateAll calls = .ok allocator) :
    List.Forall₂ (fun bank window => bank.Opens allocator.layout bus window)
      allocator.layout.banks (allocator.layout.windows bus) := by
  have follows := Allocator.follows_of_allocateAll created allocated
  unfold Layout.windows
  rw [List.forall₂_map_right_iff, List.forall₂_same]
  intro bank member
  have seats := follows.sound.seats bank member
  exact ⟨rfl, seats.base, seats.size, rfl, rfl⟩

/-- A fabric publishes what its settings declare, and has a slot for each slave. -/
structure Publishes (config : Config) (fabric : Fabric) : Prop where
  ascending : fabric.description.windows.Pairwise fun lower upper =>
    lower.base.toNat < upper.base.toNat ∧ lower.finish ≤ upper.base.toNat
  /-- There is one window for each slave that declares one, one for each bank, and no other. -/
  windows : ∃ declared opened,
    List.Forall₂ Port.Declares (config.ports.filter (·.IsPlainSlave)) declared ∧
    List.Forall₂ (fun bank window => ∃ bus ∈ config.ports, bus.IsRegisterBus ∧
        bank.Opens fabric.description.layout bus window)
      fabric.description.layout.banks opened ∧
    fabric.description.windows.Perm (declared ++ opened)
  /-- All banks are on the same bus. -/
  bus : ∀ bus ∈ config.ports, ∀ other ∈ config.ports, bus.IsRegisterBus → other.IsRegisterBus →
    bus = other
  slots : (fabric.crossbar.slots.map (·.port)).Perm
    ((config.ports.filter (·.role = .slave)).map (·.id))
  numbered : (config.ports.map (·.id)).Nodup

theorem perm_slaves (ports : List Port) :
    (ports.filter (·.IsPlainSlave) ++ ports.filter (·.IsRegisterBus)).Perm
      (ports.filter (·.role = .slave)) := by
  have plain : ports.filter (·.IsPlainSlave) =
      (ports.filter (·.role = .slave)).filter (·.protocol ≠ .registerBus) := by
    rw [List.filter_filter]
    apply List.filter_congr
    intro port _
    rw [Bool.eq_iff_iff, decide_eq_true_eq]
    simp [Port.IsPlainSlave, and_comm]
  have carrier : ports.filter (·.IsRegisterBus) =
      (ports.filter (·.role = .slave)).filter
        fun port => !decide (port.protocol ≠ .registerBus) := by
    rw [List.filter_filter]
    apply List.filter_congr
    intro port _
    rw [Bool.eq_iff_iff, decide_eq_true_eq]
    simp [Port.IsRegisterBus, and_comm]
  rw [plain, carrier]
  exact List.filter_append_perm _ _

section

variable {config : Config} {first parts : Parts} {layout : Layout} {ports : List Port}

theorem Parts.Gathers.perm_slaves (gathers : first.Gathers ports)
    (banked : first.addBanks config = .ok (parts, layout)) :
    (parts.slaves.map (·.1)).Perm ((ports.filter (·.role = .slave)).map (·.id)) := by
  have both := (Fabric.perm_slaves ports).map (·.id)
  rw [List.map_append, ← gathers.slaves, ← gathers.bus] at both
  cases carried : first.registerBus with
  | none =>
    obtain ⟨rfl, _⟩ := addBanks_none carried banked
    simpa [carried] using both
  | some bus =>
    obtain ⟨_, _, _, _, _, _, _, _, slaves⟩ := addBanks_some carried banked
    rw [slaves]
    simpa [carried] using both

theorem Parts.Gathers.perm_windows (gathers : first.Gathers ports)
    (banked : first.addBanks config = .ok (parts, layout)) :
    ∃ declared opened,
      List.Forall₂ Port.Declares (ports.filter (·.IsPlainSlave)) declared ∧
      List.Forall₂ (fun bank window => ∃ bus ∈ ports, bus.IsRegisterBus ∧
        bank.Opens layout bus window) layout.banks opened ∧
      parts.map.windows.Perm (declared ++ opened) := by
  obtain ⟨declared, each, order⟩ := gathers.windows
  cases carried : first.registerBus with
  | none =>
    obtain ⟨rfl, banks⟩ := addBanks_none carried banked
    refine ⟨declared, [], each, ?_, ?_⟩
    · rw [banks]
      exact .nil
    · rwa [List.append_nil]
  | some bus =>
    obtain ⟨start, allocator, _, created, allocated, rfl, entered, _⟩ := addBanks_some carried banked
    have windows := AddressMap.perm_insertAll entered
    have its : bus ∈ ports.filter (·.IsRegisterBus) := by
      rw [← gathers.bus, carried]
      exact List.mem_singleton_self bus
    obtain ⟨listed, carries⟩ := List.mem_filter.mp its
    refine ⟨declared, _, each, ?_, windows.trans (order.append_right _)⟩
    apply (opens_windows created allocated).imp
    intro bank window opens
    exact ⟨bus, listed, of_decide_eq_true carries, opens⟩

end

theorem publishes_build {config : Config} {fabric : Fabric} (built : build config = .ok fabric) :
    Publishes config fabric := by
  have mapped := mapped_build built
  obtain ⟨first, parts, layout, folded, banked, rfl⟩ := build_parts built
  have gathers := Parts.Gathers.nil.foldlM folded
  rw [List.nil_append] at gathers
  have sorted := perm_sortByNumber config.ports
  obtain ⟨declared, opened, each, opens, windows⟩ := gathers.perm_windows banked
  refine ⟨mapped.ascending.bases, ?_, ?_, ?_, mapped.numbered⟩
  · obtain ⟨same, alike, order⟩ := List.perm_comp_forall₂ (sorted.filter _).symm each
    refine ⟨same, opened, alike, ?_, windows.trans (order.symm.append_right opened)⟩
    apply opens.imp
    rintro bank window ⟨bus, listed, its⟩
    exact ⟨bus, mem_sortByNumber.mp listed, its⟩
  · intro bus listed other member carries also
    have found {port : Port} (held : port ∈ config.ports) (its : port.IsRegisterBus) :
        first.registerBus = some port := by
      rw [← Option.mem_toList, gathers.bus]
      exact List.mem_filter.mpr ⟨mem_sortByNumber.mpr held, decide_eq_true its⟩
    exact Option.some.inj ((found listed carries).symm.trans (found member also))
  · have slots : ((Crossbar.create parts.map.freeze parts.masters parts.slaves
        config.tieBreak).slots.map (·.port)) = parts.slaves.map (·.1) := by
      unfold Crossbar.create
      rw [List.map_map]
      rfl
    dsimp only
    rw [slots]
    exact (gathers.perm_slaves banked).trans ((sorted.filter _).map _)

/-- What is listed on the right stands for something on the left. -/
theorem exists_of_forall₂ {α β : Type} {related : α → β → Prop} {left : List α} {right : List β}
    (each : List.Forall₂ related left right) {second : β} (member : second ∈ right) :
    ∃ first ∈ left, related first second := by
  induction each with
  | nil => cases member
  | @cons head image rest images its _ ih =>
    rcases List.mem_cons.mp member with rfl | later
    · exact ⟨head, List.mem_cons_self .., its⟩
    · obtain ⟨first, listed, holds⟩ := ih later
      exact ⟨first, List.mem_cons_of_mem _ listed, holds⟩

theorem Publishes.exists_slave {config : Config} {fabric : Fabric}
    (publishes : Publishes config fabric) {window : Window}
    (listed : window ∈ fabric.description.windows) :
    ∃ port ∈ config.ports, port.role = .slave ∧ window.owner = port.id := by
  obtain ⟨declared, opened, each, opens, order⟩ := publishes.windows
  rcases List.mem_append.mp (order.mem_iff.mp listed) with own | banked
  · obtain ⟨port, plain, declares⟩ := exists_of_forall₂ each own
    exact ⟨port, (List.mem_filter.mp plain).1, declares.answers, congrArg (·.owner) declares.whole⟩
  · obtain ⟨_, _, bus, member, carries, its⟩ := exists_of_forall₂ opens banked
    exact ⟨bus, member, carries.1, its.owner⟩

end Fabric

end BusFabric
