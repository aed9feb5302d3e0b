import BusFabric.Fabric.Build
import BusFabric.Proofs.Fabric.Settled

set_option autoImplicit false

namespace BusFabric.Fabric

open Bridge (Conversion)

/-- One split-transaction master and one slave with a window. -/
structure IsPair (config : Config) (master slave : Port) : Prop where
  ports : config.ports = [master, slave] ∨ config.ports = [slave, master]
  asks : master.role = .master
  speaks : master.protocol = .wideSplit
  answers : slave.role = .slave
  listens : slave.protocol = .simpleSync ∨ slave.protocol = .wideSplit

/-- A split-transaction master is built with a bridge. -/
theorem masterAgent_split {port : Port} {width : Nat} {agent : MasterAgent}
    (split : port.protocol.isSplit = true) (made : masterAgent port width = .ok agent) :
    ∃ conversion, Conversion.between port.protocol port.dataWidth .simpleSync width =
        .ok conversion ∧
      agent = .split { busBytes := port.wordBytes } {}
        { port := port.id, conversion, origin := port.base.getD 0 } := by
  have bridged : masterAgent port width =
      (Conversion.between port.protocol port.dataWidth .simpleSync width).map fun conversion =>
        .split { busBytes := port.wordBytes } {}
          { port := port.id, conversion, origin := port.base.getD 0 } := by
    unfold masterAgent
    cases protocol : port.protocol with
    | wideSplit | wideSplitLite => rfl
    | simpleSync | registerBus =>
      rw [protocol] at split
      cases split
  rw [bridged] at made
  cases converts : Conversion.between port.protocol port.dataWidth .simpleSync width with
  | error error => simp [converts, Except.map] at made
  | ok conversion =>
    rw [converts] at made
    exact ⟨conversion, rfl, (Except.ok.inj made).symm⟩

theorem add_master {config : Config} {port : Port} {parts after : Parts}
    (asks : port.role = .master) (speaks : port.protocol = .wideSplit)
    (added : parts.add config port = .ok after) :
    ∃ conversion, Conversion.between .wideSplit port.dataWidth .simpleSync config.width =
        .ok conversion ∧
      after = { parts with masters := parts.masters ++ [(port.id,
        .split { busBytes := port.wordBytes } {}
          { port := port.id, conversion, origin := port.base.getD 0 })] } := by
  unfold Parts.add at added
  rw [asks] at added
  obtain ⟨agent, made, whole⟩ := Except.bind_eq_ok.mp added
  obtain ⟨conversion, converts, rfl⟩ :=
    masterAgent_split (by rw [speaks]; rfl) (Except.mapError_eq_ok.mp made)
  rw [speaks] at converts
  exact ⟨conversion, converts, (Except.ok.inj whole).symm⟩

theorem add_slave {config : Config} {port : Port} {parts after : Parts}
    (answers : port.role = .slave) (plain : port.protocol ≠ .registerBus)
    (added : parts.add config port = .ok after) :
    ∃ map agent, parts.map.registerPort? port = .ok map ∧
      slaveAgent port config = .ok agent ∧
      after = { parts with map, slaves := parts.slaves ++ [(port.id, agent)] } := by
  unfold Parts.add at added
  rw [answers] at added
  dsimp only at added
  rw [if_neg plain] at added
  obtain ⟨map, placed, rest⟩ := Except.bind_eq_ok.mp added
  obtain ⟨agent, made, whole⟩ := Except.bind_eq_ok.mp rest
  exact ⟨map, agent, placed, Except.mapError_eq_ok.mp made, (Except.ok.inj whole).symm⟩

theorem foldlM_pair {config : Config} {first second : Port} {parts after : Parts}
    (folded : [first, second].foldlM (fun parts port => parts.add config port) parts =
      .ok after) :
    ∃ middle, parts.add config first = .ok middle ∧ middle.add config second = .ok after := by
  simp only [List.foldlM_cons, List.foldlM_nil] at folded
  obtain ⟨middle, one, rest⟩ := Except.bind_eq_ok.mp folded
  obtain ⟨last, two, done⟩ := Except.bind_eq_ok.mp rest
  cases done
  exact ⟨middle, one, two⟩

theorem sortByNumber_pair (first second : Port) :
    sortByNumber [first, second] = [first, second] ∨
      sortByNumber [first, second] = [second, first] := by
  show insertByNumber first [second] = _ ∨ insertByNumber first [second] = _
  unfold insertByNumber
  split
  · exact .inl rfl
  · exact .inr rfl

theorem build_pair {config : Config} {master slave : Port} {fabric : Fabric}
    (pair : IsPair config master slave) (built : build config = .ok fabric) :
    ∃ conversion map agent,
      Conversion.between .wideSplit master.dataWidth .simpleSync config.width = .ok conversion ∧
      ({} : AddressMap).registerPort? slave = .ok map ∧
      slaveAgent slave config = .ok agent ∧
      fabric.faults = #[] ∧
      fabric.crossbar = .create map.freeze
        [(master.id, .split { busBytes := master.wordBytes } {}
          { port := master.id, conversion, origin := master.base.getD 0 })]
        [(slave.id, agent)] config.tieBreak := by
  obtain ⟨first, parts, layout, folded, banked, rfl⟩ := build_parts built
  have plain : slave.protocol ≠ .registerBus := by
    rcases pair.listens with simple | split
    · rw [simple]
      decide
    · rw [split]
      decide
  have sorted : sortByNumber config.ports = [master, slave] ∨
      sortByNumber config.ports = [slave, master] := by
    rcases pair.ports with ports | ports
    · rw [ports]
      exact sortByNumber_pair master slave
    · rw [ports]
      exact (sortByNumber_pair slave master).symm
  have whole : ∃ conversion map agent,
      Conversion.between .wideSplit master.dataWidth .simpleSync config.width = .ok conversion ∧
      ({} : AddressMap).registerPort? slave = .ok map ∧
      slaveAgent slave config = .ok agent ∧
      first =
        { map
          masters := [(master.id, .split { busBytes := master.wordBytes } {}
            { port := master.id, conversion, origin := master.base.getD 0 })]
          slaves := [(slave.id, agent)] } := by
    rcases sorted with order | order
    · rw [order] at folded
      obtain ⟨middle, one, two⟩ := foldlM_pair folded
      obtain ⟨conversion, converts, rfl⟩ := add_master pair.asks pair.speaks one
      obtain ⟨map, agent, placed, made, rfl⟩ := add_slave pair.answers plain two
      exact ⟨conversion, map, agent, converts, placed, made, rfl⟩
    · rw [order] at folded
      obtain ⟨middle, one, two⟩ := foldlM_pair folded
      obtain ⟨map, agent, placed, made, rfl⟩ := add_slave pair.answers plain one
      obtain ⟨conversion, converts, rfl⟩ := add_master pair.asks pair.speaks two
      exact ⟨conversion, map, agent, converts, placed, made, rfl⟩
  obtain ⟨conversion, map, agent, converts, placed, made, rfl⟩ := whole
  unfold Parts.addBanks at banked
  dsimp only at banked
  split at banked
  · cases banked
    exact ⟨conversion, map, agent, converts, placed, made, rfl, rfl⟩
  · cases banked

theorem register_alone {slave : Port} {map : AddressMap}
    (placed : ({} : AddressMap).registerPort? slave = .ok map) :
    ∃ base size, slave.base = some base ∧ slave.size = some size ∧
      slave.naturalAlignment ∣ base.toNat ∧
      map = { windows := [⟨slave.name, base, size, slave.id, slave.dataWidth⟩] } := by
  unfold AddressMap.registerPort? at placed
  split at placed
  · rename_i base size based sized
    refine ⟨base, size, based, sized, ?_⟩
    unfold AddressMap.register? AddressMap.insert? at placed
    simp only [AddressMap.overlapping?, List.reverse_nil, List.find?_nil] at placed
    repeat' split at placed
    all_goals cases placed
    rename_i aligned
    exact ⟨Nat.dvd_of_mod_eq_zero (Decidable.not_not.mp aligned), rfl⟩
  · cases placed

/-- In the map of a single window, what is decoded lies in the window. -/
theorem decode_alone {window : Window} {frozen : Bool} {address : Address} {owner : PortId}
    (decoded : (AddressMap.mk [window] frozen).decode address = some owner) :
    window.owner = owner ∧ (address - window.base).toNat < window.size := by
  unfold AddressMap.decode AddressMap.windowAt? at decoded
  simp only [List.reverse_singleton, Option.map_eq_some_iff, Option.filter_eq_some_iff] at decoded
  obtain ⟨found, ⟨sought, contains⟩, owned⟩ := decoded
  have low := List.find?_some sought
  obtain rfl := List.mem_singleton.mp (List.mem_of_find?_eq_some sought)
  refine ⟨owned, ?_⟩
  unfold Window.contains at contains
  have narrow := address.isLt
  simp only [Bool.and_eq_true, decide_eq_true_eq] at low contains
  rw [BitVec.toNat_sub]
  omega

theorem split_of_pristine {agent : MasterAgent} {busBytes : Nat} {link : Split.Link}
    {port : PortId} {conversion : Conversion} {origin : Address}
    (same : agent.pristine = .split { busBytes } link { port, conversion, origin }) :
    ∃ completions preferRead,
      agent = .split { busBytes, completions } link { port, conversion, origin, preferRead } := by
  cases agent with
  | simple script => cases same
  | split script link bridge =>
    obtain ⟨_, _, _, completions⟩ := script
    obtain ⟨_, _, _, _, _, _, _, preferRead, _⟩ := bridge
    unfold MasterAgent.pristine at same
    cases same
    exact ⟨completions, preferRead, rfl⟩

theorem idles_of_pristine {agent : SlaveAgent} {port : PortId} {conversion : Conversion}
    {windowBase : Address} {name : String} {latency : Nat}
    (same : agent.pristine =
      .split { port, conversion, windowBase } {}
        { name, busBytes := conversion.splitBytes, latency }) :
    ∃ bytes, Idles conversion windowBase bytes agent := by
  cases agent with
  | device endpoint => cases same
  | split bridge link ram =>
    obtain ⟨_, _, _, _, _, _⟩ := bridge
    obtain ⟨_, _, _, memory, _, _, _, _⟩ := ram
    unfold SlaveAgent.pristine at same
    cases same
    exact ⟨memory.readByte, .intro rfl rfl rfl rfl ⟨rfl, rfl, rfl⟩ rfl rfl⟩

theorem sits_of_pristine {agent : SlaveAgent} {name : String} {size wordBytes latency : Nat}
    {base : Address}
    (same : agent.pristine = .device { device := .sram { name, size, wordBytes }, base, latency }) :
    ∃ bytes, Sits size wordBytes base bytes agent := by
  cases agent with
  | split bridge link ram => cases same
  | device endpoint =>
    obtain ⟨device, _, _, _, _⟩ := endpoint
    cases device with
    | registers file => cases same
    | sram sram =>
      obtain ⟨_, _, _, memory⟩ := sram
      unfold SlaveAgent.pristine emptied at same
      cases same
      exact ⟨memory.readByte, .intro rfl rfl rfl rfl rfl⟩

/-- A store of the words in a window, which stays the agent that was built. -/
structure WindowStore (simpleBytes : Nat) (base : Address) (size : Nat) (agent : SlaveAgent)
    (isServed : Address → Prop) (place : Address → Address)
    (rests : (Address → Byte) → SlaveAgent → Prop) : Prop where
  store : Store simpleBytes isServed place rests
  apart : KeepsApart simpleBytes isServed place
  inWindow : ∀ word : Address, simpleBytes ∣ word.toNat → (word - base).toNat < size →
    isServed word
  rigid : ∀ bytes (after : SlaveAgent), rests bytes after → after.pristine = agent
  stands : ∀ after : SlaveAgent, after.pristine = agent → ∃ bytes, rests bytes after

theorem sram_windowStore {simpleBytes : Nat} {base : Address} (cell : IsCell simpleBytes)
    (narrow : simpleBytes ≤ 16) (whole : simpleBytes ∣ base.toNat) (name : String)
    (size latency : Nat) :
    ∃ isServed place rests, WindowStore simpleBytes base size
      (.device { device := .sram { name, size, wordBytes := simpleBytes }, base, latency })
      isServed place rests := by
  have store := sram_store size simpleBytes base narrow
  refine ⟨_, _, _, store.settles Sits.pristine _, sram_keepsApart size base cell, ?_,
    fun _ _ resting => resting.2, ?_⟩
  · intro word along inside
    exact ⟨inside, Address.alignDown_of_dvd cell (Address.dvd_sub cell along whole)⟩
  · intro after same
    obtain ⟨bytes, sits⟩ := sits_of_pristine same
    exact ⟨bytes, sits, same⟩

theorem split_windowStore {conversion : Conversion} {base : Address}
    (regular : conversion.IsRegular) (outward : conversion.direction = .simpleToSplit)
    (whole : conversion.targetWidth / 8 ∣ base.toNat) (port : PortId) (name : String)
    (size latency : Nat) :
    ∃ isServed place rests, WindowStore conversion.simpleBytes base size
      (.split { port, conversion, windowBase := base } {}
        { name, busBytes := conversion.splitBytes, latency })
      isServed place rests := by
  have store := split_store regular outward base
  refine ⟨_, _, _, store.settles Idles.pristine _, split_keepsApart regular outward base, ?_,
    fun _ _ resting => resting.2, ?_⟩
  · intro word along _
    have source := Conversion.sourceBytes_outward outward
    rw [← source] at along ⊢
    exact Conversion.word_room regular along whole
  · intro after same
    obtain ⟨bytes, idles⟩ := idles_of_pristine same
    exact ⟨bytes, idles, same⟩

theorem slave_store {config : Config} {slave : Port} {agent : SlaveAgent} {base : Address}
    {size : Nat} (listens : slave.protocol = .simpleSync ∨ slave.protocol = .wideSplit)
    (made : slaveAgent slave config = .ok agent) (based : slave.base = some base)
    (sized : slave.size = some size) (aligned : slave.naturalAlignment ∣ base.toNat)
    (regular : Conversion.IsBusWidth config.width) :
    ∃ isServed place rests,
      WindowStore (config.width / 8) base size agent isServed place rests := by
  unfold slaveAgent at made
  rw [based, sized] at made
  unfold Port.naturalAlignment Port.wordBytes at aligned
  rcases listens with simple | split
  · rw [simple] at made
    dsimp only at made
    split at made
    · cases made
    · rename_i same
      have width : slave.dataWidth = config.width := Decidable.not_not.mp same
      rw [width, Nat.max_eq_left regular.isCell.positive] at aligned
      unfold Port.wordBytes at made
      rw [width] at made
      cases made
      exact sram_windowStore regular.isCell regular.le aligned slave.name size config.deviceLatency
  · rw [split] at made
    dsimp only at made
    cases converts : Conversion.between .simpleSync config.width .wideSplit slave.dataWidth with
    | error error => simp [converts, Except.map] at made
    | ok conversion =>
      rw [converts] at made
      cases made
      have regular := Conversion.isRegular_of_between converts
      obtain ⟨rfl, _⟩ := Conversion.eq_of_between converts
      rw [Nat.max_eq_left regular.target.isCell.positive] at aligned
      exact split_windowStore regular rfl aligned slave.id slave.name size config.ramLatency

end BusFabric.Fabric
