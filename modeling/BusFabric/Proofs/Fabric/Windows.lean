import Mathlib.Data.List.Nodup
import BusFabric.Proofs.AddressMap.Decode
import BusFabric.Proofs.Bridge.Translation
import BusFabric.Proofs.Fabric.PairBuild
import BusFabric.Proofs.RegisterBank.Placement

set_option autoImplicit false

namespace BusFabric

structure Port.Declares (port : Port) (window : Window) : Prop where
  answers : port.role = .slave
  plain : port.protocol ≠ .registerBus
  based : port.base = some window.base
  sized : port.size = some window.size
  whole : window = ⟨port.name, window.base, window.size, port.id, port.dataWidth⟩

namespace Port.Declares

variable {port : Port} {window other : Window}

theorem unique (declares : port.Declares window) (again : port.Declares other) :
    other = window := by
  have base := Option.some.inj (again.based.symm.trans declares.based)
  have size := Option.some.inj (again.sized.symm.trans declares.sized)
  rw [again.whole, declares.whole, base, size]

theorem owner (declares : port.Declares window) : window.owner = port.id := by
  rw [declares.whole]

end Port.Declares

theorem AddressMap.registerPort?_eq_ok {map after : AddressMap} {port : Port}
    (answers : port.role = .slave) (plain : port.protocol ≠ .registerBus)
    (registered : map.registerPort? port = .ok after) :
    ∃ window, port.Declares window ∧
      map.insert? window port.naturalAlignment port.addressableBytes = .ok after := by
  unfold AddressMap.registerPort? at registered
  split at registered
  · rename_i base size based sized
    refine ⟨⟨port.name, base, size, port.id, port.dataWidth⟩,
      ⟨answers, plain, based, sized, rfl⟩, ?_⟩
    exact (register?_eq_ok (Except.mapError_eq_ok.mp registered)).2
  · cases registered

/-- A window that entered a map is made of whole cells of the length it was aligned to. -/
theorem AddressMap.Admits.whole {map : AddressMap} {window : Window} {alignment span : Nat}
    (admits : map.Admits window alignment span) (cell : IsCell alignment) :
    alignment ∣ window.base.toNat ∧ alignment ∣ window.size :=
  ⟨admits.aligned,
    dvd_of_isPowerOfTwo cell.isPowerOfTwo admits.powerOfTwo admits.alignment_le⟩

namespace Fabric

open Bridge (Conversion)
open AddressMap (Ascending)

theorem mem_insertByNumber {port other : Port} {ports : List Port} :
    other ∈ insertByNumber port ports ↔ other = port ∨ other ∈ ports := by
  induction ports with
  | nil => exact List.mem_cons
  | cons next rest ih =>
    unfold insertByNumber
    split
    · exact List.mem_cons
    · rw [List.mem_cons, ih, List.mem_cons, or_left_comm]

theorem mem_sortByNumber {port : Port} {ports : List Port} :
    port ∈ sortByNumber ports ↔ port ∈ ports := by
  induction ports with
  | nil => rfl
  | cons first rest ih =>
    show port ∈ insertByNumber first (sortByNumber rest) ↔ _
    rw [mem_insertByNumber, ih, List.mem_cons]

/-- What the check of the ports asks for, whatever their order. -/
theorem checkPorts_eq_ok {seen : List PortId} {ports : List Port} :
    checkPorts seen ports = .ok () ↔
      (∀ port ∈ ports, port.validate = .ok ()) ∧ (ports.map (·.id)).Nodup ∧
        ∀ port ∈ ports, port.id ∉ seen := by
  induction ports generalizing seen with
  | nil => exact iff_of_true rfl ⟨nofun, .nil, nofun⟩
  | cons port rest ih =>
    rw [checkPorts, Except.bind_eq_ok]
    by_cases known : port.id ∈ seen
    · simp [known]
    · have fresh : (∀ other ∈ rest, other.id ∉ port.id :: seen) ↔
          port.id ∉ rest.map (·.id) ∧ ∀ other ∈ rest, other.id ∉ seen := by
        simp only [List.mem_cons, not_or, List.mem_map, not_exists, not_and, forall_and]
      simp only [known, if_false, ih, fresh, List.forall_mem_cons, List.map_cons, List.nodup_cons,
        not_false_eq_true, true_and]
      tauto

/-- What is checked before anything is put together. -/
theorem build_checks {config : Config} {fabric : Fabric} (built : build config = .ok fabric) :
    Conversion.IsBusWidth config.width ∧ (config.ports.map (·.id)).Nodup := by
  unfold build at built
  obtain ⟨_, _, rest⟩ := Except.bind_eq_ok.mp built
  obtain ⟨conversion, converts, rest⟩ := Except.bind_eq_ok.mp rest
  obtain ⟨_, checked, _⟩ := Except.bind_eq_ok.mp rest
  rw [Except.mapError_eq_ok] at converts checked
  have regular := Conversion.isRegular_of_between converts
  obtain ⟨rfl, _⟩ := Conversion.eq_of_between converts
  exact ⟨regular.source, (checkPorts_eq_ok.mp checked).2.1⟩

theorem add_cases {config : Config} {port : Port} {parts after : Parts}
    (added : parts.add config port = .ok after) :
    (∃ agent, port.role = .master ∧ masterAgent port config.width = .ok agent ∧
      after = { parts with masters := parts.masters ++ [(port.id, agent)] }) ∨
    (port.role = .slave ∧ port.protocol = .registerBus ∧
      after = { parts with registerBus := some port }) ∨
    ∃ map agent, port.role = .slave ∧ port.protocol ≠ .registerBus ∧
      parts.map.registerPort? port = .ok map ∧ slaveAgent port config = .ok agent ∧
      after = { parts with map, slaves := parts.slaves ++ [(port.id, agent)] } := by
  cases role : port.role with
  | master =>
    unfold Parts.add at added
    rw [role] at added
    obtain ⟨agent, made, whole⟩ := Except.bind_eq_ok.mp added
    exact .inl ⟨agent, rfl, Except.mapError_eq_ok.mp made, (Except.ok.inj whole).symm⟩
  | slave =>
    by_cases bus : port.protocol = .registerBus
    · unfold Parts.add at added
      rw [role] at added
      dsimp only at added
      rw [if_pos bus] at added
      split at added
      · cases added
      split at added
      · cases added
      exact .inr (.inl ⟨rfl, bus, (Except.ok.inj added).symm⟩)
    · obtain ⟨map, agent, placed, made, whole⟩ := add_slave role bus added
      exact .inr (.inr ⟨map, agent, rfl, bus, placed, made, whole⟩)

/-- Only slaves that speak the split protocol may be narrower than the fabric. -/
theorem slaveAgent_width {config : Config} {port : Port} {agent : SlaveAgent}
    (width : Conversion.IsBusWidth config.width) (plain : port.protocol ≠ .registerBus)
    (made : slaveAgent port config = .ok agent)
    (wide : port.protocol = .wideSplit → config.width ≤ port.dataWidth) :
    Conversion.IsBusWidth port.dataWidth ∧ config.width ≤ port.dataWidth := by
  unfold slaveAgent at made
  cases protocol : port.protocol with
  | simpleSync =>
    rw [protocol] at made
    dsimp only at made
    split at made
    · cases made
    · rename_i same
      rw [Decidable.not_not.mp same]
      exact ⟨width, Nat.le_refl _⟩
  | wideSplit =>
    rw [protocol] at made
    dsimp only at made
    cases converts : Conversion.between .simpleSync config.width .wideSplit port.dataWidth with
    | error error => simp [converts, Except.map] at made
    | ok conversion =>
      have regular := Conversion.isRegular_of_between converts
      obtain ⟨rfl, _⟩ := Conversion.eq_of_between converts
      exact ⟨regular.target, wide protocol⟩
  | wideSplitLite =>
    rw [protocol] at made
    dsimp only at made
    cases converts : Conversion.between .simpleSync config.width .wideSplitLite
        port.dataWidth with
    | error error => simp [converts, Except.map] at made
    | ok conversion =>
      obtain ⟨_, _, _, supported⟩ := Conversion.eq_of_between converts
      cases supported
  | registerBus => exact absurd protocol plain

theorem Parts.foldlM_induction {config : Config} (property : Parts → List Port → Prop)
    (add : ∀ {parts after : Parts} {ports : List Port} {port : Port}, property parts ports →
      parts.add config port = .ok after → property after (ports ++ [port]))
    {parts after : Parts} {ports rest : List Port} (holds : property parts ports)
    (folded : rest.foldlM (fun parts port => parts.add config port) parts = .ok after) :
    property after (ports ++ rest) := by
  induction rest generalizing parts ports with
  | nil =>
    cases folded
    rwa [List.append_nil]
  | cons port rest ih =>
    rw [List.foldlM_cons] at folded
    obtain ⟨next, first, rest⟩ := Except.bind_eq_ok.mp folded
    have whole := ih (add holds first) rest
    rwa [List.append_assoc] at whole

structure Parts.Reflects (parts : Parts) (config : Config) (ports : List Port) : Prop where
  ascending : Ascending parts.map.windows
  declared : ∀ window, window ∈ parts.map.windows ↔ ∃ port ∈ ports, port.Declares window
  admitted : ∀ port ∈ ports, ∀ window, port.Declares window →
    (∃ map : AddressMap, map.Admits window port.naturalAlignment port.addressableBytes) ∧
      ∃ agent, slaveAgent port config = .ok agent
  bus : ∀ bus, parts.registerBus = some bus → bus ∈ ports ∧ bus.protocol = .registerBus
  masters : ∀ master, master ∈ parts.masters ↔ ∃ port ∈ ports, port.role = .master ∧
    port.id = master.1 ∧ masterAgent port config.width = .ok master.2
  made : ∀ port ∈ ports, port.role = .master →
    ∃ agent, masterAgent port config.width = .ok agent

namespace Parts.Reflects

variable {config : Config} {parts after : Parts} {ports : List Port}

theorem nil : Parts.Reflects {} config [] where
  ascending := .nil
  declared := by simp
  admitted := by simp
  bus := by simp
  masters := by simp
  made := by simp

section

variable {port : Port}

theorem exists_mem_concat {property : Port → Prop} :
    (∃ other ∈ ports ++ [port], property other) ↔
      (∃ other ∈ ports, property other) ∨ property port := by
  simp [or_and_right, exists_or]

theorem forall_mem_concat {property : Port → Prop} :
    (∀ other ∈ ports ++ [port], property other) ↔
      (∀ other ∈ ports, property other) ∧ property port := by
  simp [or_imp, forall_and]

/-- A port without a window leaves the windows alone. -/
theorem windows_concat (reflects : parts.Reflects config ports)
    (windowless : ∀ window, ¬ port.Declares window) :
    (∀ window, window ∈ parts.map.windows ↔ ∃ other ∈ ports ++ [port], other.Declares window) ∧
      ∀ other ∈ ports ++ [port], ∀ window, other.Declares window →
        (∃ map : AddressMap, map.Admits window other.naturalAlignment other.addressableBytes) ∧
          ∃ agent, slaveAgent other config = .ok agent := by
  constructor
  · intro window
    rw [exists_mem_concat, or_iff_left (windowless window)]
    exact reflects.declared window
  · exact forall_mem_concat.mpr
      ⟨reflects.admitted, fun window declares => absurd declares (windowless window)⟩

theorem master {agent : MasterAgent} (reflects : parts.Reflects config ports)
    (asks : port.role = .master) (built : masterAgent port config.width = .ok agent) :
    Parts.Reflects { parts with masters := parts.masters ++ [(port.id, agent)] } config
      (ports ++ [port]) := by
  have windowless (window : Window) : ¬ port.Declares window := by
    intro declares
    rw [declares.answers] at asks
    cases asks
  obtain ⟨declared, admitted⟩ := reflects.windows_concat windowless
  refine ⟨reflects.ascending, declared, admitted, fun bus carried => ?_, fun master => ?_, ?_⟩
  · obtain ⟨listed, carries⟩ := reflects.bus bus carried
    exact ⟨List.mem_append_left _ listed, carries⟩
  · rw [List.mem_append, List.mem_singleton, reflects.masters, exists_mem_concat]
    refine or_congr_right ⟨?_, ?_⟩
    · rintro rfl
      exact ⟨asks, rfl, built⟩
    · rintro ⟨_, id, again⟩
      exact Prod.ext id.symm (Except.ok.inj (again.symm.trans built))
  · exact forall_mem_concat.mpr ⟨reflects.made, fun _ => ⟨agent, built⟩⟩

theorem masters_concat (reflects : parts.Reflects config ports) (answers : port.role = .slave) :
    (∀ master, master ∈ parts.masters ↔ ∃ other ∈ ports ++ [port], other.role = .master ∧
        other.id = master.1 ∧ masterAgent other config.width = .ok master.2) ∧
      ∀ other ∈ ports ++ [port], other.role = .master →
        ∃ agent, masterAgent other config.width = .ok agent := by
  have serves : port.role ≠ .master := by
    rw [answers]
    decide
  constructor
  · intro master
    rw [exists_mem_concat, or_iff_left fun asks => serves asks.1]
    exact reflects.masters master
  · exact forall_mem_concat.mpr ⟨reflects.made, fun asks => absurd asks serves⟩

theorem carrier (reflects : parts.Reflects config ports) (answers : port.role = .slave)
    (carries : port.protocol = .registerBus) :
    Parts.Reflects { parts with registerBus := some port } config (ports ++ [port]) := by
  obtain ⟨declared, admitted⟩ :=
    reflects.windows_concat fun _ declares => declares.plain carries
  obtain ⟨masters, made⟩ := reflects.masters_concat answers
  refine ⟨reflects.ascending, declared, admitted, fun bus carried => ?_, masters, made⟩
  cases carried
  exact ⟨List.mem_append_right _ (List.mem_singleton_self port), carries⟩

theorem slave {map : AddressMap} {agent : SlaveAgent} (reflects : parts.Reflects config ports)
    (answers : port.role = .slave) (plain : port.protocol ≠ .registerBus)
    (placed : parts.map.registerPort? port = .ok map) (built : slaveAgent port config = .ok agent) :
    Parts.Reflects { parts with map, slaves := parts.slaves ++ [(port.id, agent)] } config
      (ports ++ [port]) := by
  obtain ⟨window, declares, inserted⟩ := AddressMap.registerPort?_eq_ok answers plain placed
  obtain ⟨admits, rfl⟩ := AddressMap.insert?_eq_ok inserted
  obtain ⟨masters, made⟩ := reflects.masters_concat answers
  have own (other : Window) : port.Declares other ↔ other = window :=
    ⟨declares.unique, fun same => same ▸ declares⟩
  refine ⟨reflects.ascending.insert? inserted, fun other => ?_, ?_, fun bus carried => ?_,
    masters, made⟩
  · rw [AddressMap.mem_place, reflects.declared, exists_mem_concat, own]
    exact or_comm
  · refine forall_mem_concat.mpr ⟨reflects.admitted, fun other declared => ?_⟩
    rw [(own other).mp declared]
    exact ⟨⟨_, admits⟩, agent, built⟩
  · obtain ⟨listed, carries⟩ := reflects.bus bus carried
    exact ⟨List.mem_append_left _ listed, carries⟩

end

theorem add {port : Port} (reflects : parts.Reflects config ports)
    (added : parts.add config port = .ok after) : after.Reflects config (ports ++ [port]) := by
  rcases add_cases added with ⟨agent, asks, built, rfl⟩ | ⟨answers, carries, rfl⟩ |
    ⟨map, agent, answers, plain, placed, built, rfl⟩
  · exact reflects.master asks built
  · exact reflects.carrier answers carries
  · exact reflects.slave answers plain placed built

theorem foldlM {rest : List Port} (reflects : parts.Reflects config ports)
    (folded : rest.foldlM (fun parts port => parts.add config port) parts = .ok after) :
    after.Reflects config (ports ++ rest) :=
  Parts.foldlM_induction (fun parts ports => parts.Reflects config ports)
    (fun holds added => holds.add added) reflects folded

end Parts.Reflects

section

variable {config : Config} {parts after : Parts} {layout : RegisterBank.Layout} {bus : Port}

/-- What placing the banks on a register bus has done. -/
theorem addBanks_some (carried : parts.registerBus = some bus)
    (banked : parts.addBanks config = .ok (after, layout)) :
    ∃ start allocator registers,
      RegisterBank.Allocator.create bus config.region.origin config.region.granularity
        (config.width / 8) config.region.maxBanks = .ok start ∧
      start.allocateAll config.banks = .ok allocator ∧ layout = allocator.layout ∧
      parts.map.registerBanks bus layout = (after.map, .ok ()) ∧
      after.masters = parts.masters ∧
      after.slaves = parts.slaves ++ [(bus.id, registerAgent config registers)] := by
  unfold Parts.addBanks at banked
  rw [carried] at banked
  obtain ⟨start, created, rest⟩ := Except.bind_eq_ok.mp banked
  obtain ⟨allocator, allocated, rest⟩ := Except.bind_eq_ok.mp rest
  obtain ⟨_, registered, whole⟩ := Except.bind_eq_ok.mp rest
  rw [Except.mapError_eq_ok] at created registered
  cases regular : Device.Registers.ofLayout? allocator.layout with
  | none =>
    rw [regular] at whole
    cases whole
  | some registers =>
    rw [regular] at whole
    cases whole
    exact ⟨start, allocator, registers, created, allocated, rfl, Prod.ext rfl registered, rfl, rfl⟩

theorem addBanks_none (free : parts.registerBus = none)
    (banked : parts.addBanks config = .ok (after, layout)) : after = parts ∧ layout.banks = [] := by
  unfold Parts.addBanks at banked
  rw [free] at banked
  dsimp only at banked
  split at banked
  · cases banked
    exact ⟨rfl, rfl⟩
  · cases banked

/-- Placing the banks adds their windows, aligned to the words of the fabric. -/
theorem addBanks_cases (banked : parts.addBanks config = .ok (after, layout)) :
    after.masters = parts.masters ∧
      (after.map = parts.map ∨
        ∃ bus windows, parts.registerBus = some bus ∧ (∀ window ∈ windows, window.owner = bus.id) ∧
          parts.map.insertAll (config.width / 8) (UInt64.size - 1) windows =
            (after.map, .ok ())) := by
  cases carried : parts.registerBus with
  | none =>
    obtain ⟨rfl, _⟩ := addBanks_none carried banked
    exact ⟨rfl, .inl rfl⟩
  | some bus =>
    obtain ⟨start, allocator, _, created, allocated, rfl, entered, masters, _⟩ :=
      addBanks_some carried banked
    have follows := RegisterBank.Allocator.follows_of_allocateAll created allocated
    have stride : allocator.layout.stride = config.width / 8 :=
      (follows.fixed created).2.2.2.2
    refine ⟨masters, .inr ⟨bus, allocator.layout.windows bus, rfl, ?_, ?_⟩⟩
    · intro window member
      obtain ⟨bank, _, rfl⟩ := List.mem_map.mp member
      rfl
    · rw [← stride]
      exact entered

end

structure Mapped (config : Config) (fabric : Fabric) : Prop where
  width : Conversion.IsBusWidth config.width
  ascending : Ascending fabric.map.windows
  declared : ∀ port ∈ config.ports, ∀ window, port.Declares window → window ∈ fabric.map.windows
  admitted : ∀ port ∈ config.ports, ∀ window, port.Declares window →
    (∃ map : AddressMap, map.Admits window port.naturalAlignment port.addressableBytes) ∧
      ∃ agent, slaveAgent port config = .ok agent
  /-- A window that no port declares is that of a bank. -/
  origin : ∀ window ∈ fabric.map.windows, (∃ port ∈ config.ports, port.Declares window) ∨
    ∃ bus ∈ config.ports, bus.protocol = .registerBus ∧ window.owner = bus.id ∧
      config.width / 8 ∣ window.base.toNat ∧ config.width / 8 ∣ window.size
  numbered : (config.ports.map (·.id)).Nodup
  lanes : ∀ lane ∈ fabric.crossbar.lanes, ∃ port ∈ config.ports,
    port.id = lane.port ∧ masterAgent port config.width = .ok lane.agent
  masters : ∀ port ∈ config.ports, port.role = .master → ∃ lane ∈ fabric.crossbar.lanes,
    lane.port = port.id ∧ masterAgent port config.width = .ok lane.agent

/-- The lanes of a new crossbar are its masters in their order. -/
theorem lanes_create (map : AddressMap) (masters : List (PortId × MasterAgent))
    (slaves : List (PortId × SlaveAgent)) (tieBreak : TieBreak) :
    (Crossbar.create map masters slaves tieBreak).lanes.map
      (fun lane => (lane.port, lane.agent)) = masters := by
  apply List.ext_getElem?
  intro place
  simp [Crossbar.create, Function.comp_def]

theorem mapped_build {config : Config} {fabric : Fabric} (built : build config = .ok fabric) :
    Mapped config fabric := by
  obtain ⟨width, numbered⟩ := build_checks built
  obtain ⟨first, parts, layout, folded, banked, rfl⟩ := build_parts built
  have reflects := Parts.Reflects.nil.foldlM folded
  rw [List.nil_append] at reflects
  obtain ⟨same, banks⟩ := addBanks_cases banked
  have order := lanes_create parts.map.freeze parts.masters parts.slaves config.tieBreak
  have lanes : ∀ lane ∈ (Crossbar.create parts.map.freeze parts.masters parts.slaves
      config.tieBreak).lanes, ∃ port ∈ config.ports,
        port.id = lane.port ∧ masterAgent port config.width = .ok lane.agent := by
    intro lane member
    have listed : (lane.port, lane.agent) ∈ first.masters := by
      rw [← same, ← order]
      exact List.mem_map_of_mem member
    obtain ⟨port, sorted, _, id, made⟩ := (reflects.masters _).mp listed
    exact ⟨port, mem_sortByNumber.mp sorted, id, made⟩
  have masters : ∀ port ∈ config.ports, port.role = .master →
      ∃ lane ∈ (Crossbar.create parts.map.freeze parts.masters parts.slaves config.tieBreak).lanes,
        lane.port = port.id ∧ masterAgent port config.width = .ok lane.agent := by
    intro port member asks
    have sorted := mem_sortByNumber.mpr member
    obtain ⟨agent, made⟩ := reflects.made port sorted asks
    have listed := (reflects.masters (port.id, agent)).mpr ⟨port, sorted, asks, rfl, made⟩
    rw [← same, ← order] at listed
    obtain ⟨lane, held, pair⟩ := List.mem_map.mp listed
    obtain ⟨id, alike⟩ := Prod.mk.inj pair
    exact ⟨lane, held, id, alike ▸ made⟩
  have admitted : ∀ port ∈ config.ports, ∀ window, port.Declares window →
      (∃ map : AddressMap, map.Admits window port.naturalAlignment port.addressableBytes) ∧
        ∃ agent, slaveAgent port config = .ok agent :=
    fun port member => reflects.admitted port (mem_sortByNumber.mpr member)
  have origin {window : Window} (member : window ∈ first.map.windows) :
      ∃ port ∈ config.ports, port.Declares window := by
    obtain ⟨port, sorted, declares⟩ := (reflects.declared window).mp member
    exact ⟨port, mem_sortByNumber.mp sorted, declares⟩
  have declared {port : Port} (member : port ∈ config.ports) {window : Window}
      (declares : port.Declares window) : window ∈ first.map.windows :=
    (reflects.declared window).mpr ⟨port, mem_sortByNumber.mpr member, declares⟩
  rcases banks with kept | ⟨bus, windows, carried, owned, inserted⟩
  · refine ⟨width, ?_, ?_, admitted, ?_, numbered, lanes, masters⟩
    · show Ascending parts.map.windows
      rw [kept]
      exact reflects.ascending
    · intro port member window declares
      show window ∈ parts.map.windows
      rw [kept]
      exact declared member declares
    · intro window member
      replace member : window ∈ parts.map.windows := member
      rw [kept] at member
      exact .inl (origin member)
  · obtain ⟨ascending, members, admits⟩ := AddressMap.insertAll_eq_ok reflects.ascending inserted
    refine ⟨width, ascending, ?_, admitted, ?_, numbered, lanes, masters⟩
    · intro port member window declares
      exact (members window).mpr (.inl (declared member declares))
    · intro window member
      rcases (members window).mp member with old | new
      · exact .inl (origin old)
      · obtain ⟨listed, carries⟩ := reflects.bus bus carried
        obtain ⟨earlier, rules⟩ := admits window new
        exact .inr ⟨bus, mem_sortByNumber.mp listed, carries, owned window new,
          rules.whole width.isCell⟩

namespace Mapped

variable {config : Config} {fabric : Fabric} {port : Port} {window : Window}

theorem only (mapped : Mapped config fabric) (listed : port ∈ config.ports)
    (declares : port.Declares window) : ∀ other ∈ fabric.map.windows,
      other.owner = window.owner → other = window := by
  intro other member same
  rw [declares.owner] at same
  rcases mapped.origin other member with ⟨owner, held, declared⟩ | ⟨bus, held, carries, owned, _⟩
  · have here := List.inj_on_of_nodup_map mapped.numbered held listed
      (declared.owner.symm.trans same)
    rw [here] at declared
    exact declares.unique declared
  · have here := List.inj_on_of_nodup_map mapped.numbered held listed (owned.symm.trans same)
    exact absurd (here ▸ carries) declares.plain

/-- A master that speaks a split protocol is found with the bridge that was built for it. -/
theorem splitMaster? (mapped : Mapped config fabric) (listed : port ∈ config.ports)
    (asks : port.role = .master) {script : Split.Master} {link : Split.Link} {bridge : Bridge.Inbound}
    (made : masterAgent port config.width = .ok (.split script link bridge)) :
    fabric.splitMaster? port.id = some (script, bridge) := by
  obtain ⟨lane, member, id, same⟩ := mapped.masters port listed asks
  have agent : lane.agent = .split script link bridge := Except.ok.inj (same.symm.trans made)
  cases found : fabric.splitMaster? port.id with
  | none =>
    unfold Fabric.splitMaster? at found
    have never := List.findSome?_eq_none_iff.mp found lane member
    simp [agent, id] at never
  | some pair =>
    unfold Fabric.splitMaster? at found
    obtain ⟨other, held, shown⟩ := List.exists_of_findSome?_eq_some found
    obtain ⟨owner, declared, number, built⟩ := mapped.lanes other held
    split at shown
    · rename_i script' link' bridge' split
      split at shown
      · rename_i named
        have here := List.inj_on_of_nodup_map mapped.numbered declared listed
          (number.trans named)
        rw [here, made, split] at built
        cases built
        exact shown.symm
      · cases shown
    · cases shown

/-- A slave that is as wide as the fabric or wider has a window of whole fabric words. -/
theorem whole_of_wide (mapped : Mapped config fabric) (listed : port ∈ config.ports)
    (declares : port.Declares window)
    (wide : port.protocol = .wideSplit → config.width ≤ port.dataWidth) :
    config.width / 8 ∣ window.base.toNat ∧ config.width / 8 ∣ window.size := by
  obtain ⟨⟨map, admits⟩, agent, made⟩ := mapped.admitted port listed window declares
  obtain ⟨regular, le⟩ := slaveAgent_width mapped.width declares.plain made wide
  have alignment : port.naturalAlignment = port.dataWidth / 8 :=
    Nat.max_eq_left regular.isCell.positive
  have whole := admits.whole (alignment ▸ regular.isCell)
  have divides : config.width / 8 ∣ port.naturalAlignment := by
    rw [alignment]
    exact mapped.width.isCell.dvd regular.isCell (Nat.div_le_div_right le)
  exact ⟨Nat.dvd_trans divides whole.1, Nat.dvd_trans divides whole.2⟩

end Mapped

end Fabric

end BusFabric
