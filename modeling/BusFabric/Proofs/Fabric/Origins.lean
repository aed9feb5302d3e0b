import BusFabric.Proofs.Bridge.InboundWords
import BusFabric.Proofs.Fabric.RoundTrip
import BusFabric.Proofs.Fabric.Windows

set_option autoImplicit false

namespace BusFabric.Bridge

open Split (AddressBeat Op WriteBeat)

def Access.Writes (access : Access) (address : Address) (byte : Byte) : Prop :=
  ∃ lane, access.request.select.selects lane = true ∧
    access.request.address + BitVec.ofNat 64 lane = address ∧
    access.request.data.lane lane = byte

/-- Blocks of one length that begin at multiples of it have nothing in common, unless they are the
same. -/
theorem eq_of_blocks_meet {bytes first second index other : Nat} (one : bytes ∣ first)
    (two : bytes ∣ second) (inside : index < bytes) (within : other < bytes)
    (meet : first + index = second + other) : first = second := by
  obtain ⟨place, rfl⟩ := one
  obtain ⟨rival, rfl⟩ := two
  have positive : 0 < bytes := by omega
  have quotient := congrArg (· / bytes) meet
  simp only [Nat.mul_add_div positive, Nat.div_eq_of_lt inside, Nat.div_eq_of_lt within,
    Nat.add_zero] at quotient
  rw [quotient]

namespace Inbound

variable {bridge : Inbound} {burst : AddressBeat} {beat lane : Nat}

/-- The bridge reads or writes the lane of the split bus in a data beat. -/
def UsesLane (bridge : Inbound) (burst : AddressBeat) (beat lane : Nat) : Prop :=
  ∃ word ∈ bridge.planBeat burst beat, ∃ pair ∈ word.lanes, pair.split = lane

/-- The lane of the split bus on which the bridge looks for the first byte of a data beat. -/
def firstLane (bridge : Inbound) (burst : AddressBeat) (beat : Nat) : Nat :=
  ((burst.beatAddress beat - bridge.origin).alignDown burst.beatBytes).toNat %
    bridge.conversion.splitBytes

/-- The writes of a data beat put each of its bytes where its address is translated to, and write
nothing else. -/
def WritesWhole (bridge : Inbound) (burst : AddressBeat) (beat : Nat) (datum : Data)
    (written : WriteBeat) : Prop :=
  ∀ (address : Address) (byte : Byte),
    (∃ access ∈ (bridge.planBeat burst beat).map (·.write written), access.Writes address byte) ↔
      ∃ index < burst.beatBytes,
        address = bridge.conversion.translate ((burst.beatAddress beat).alignDown burst.beatBytes +
          BitVec.ofNat 64 index - bridge.origin) ∧ byte = datum.lane index

/-- Lanes of a beat begin at a multiple of its length, on either side of the bridge. -/
theorem lanes_aligned (regular : bridge.conversion.IsRegular)
    (size : burst.size.toNat ≤ bridge.conversion.splitBytes.log2) (beat : Nat) :
    burst.beatBytes ∣ bridge.firstLane burst beat ∧
      burst.beatBytes ∣ burst.beatLane beat bridge.conversion.splitBytes := by
  obtain ⟨cell, narrow⟩ := beatBytes_cell regular size
  have whole := cell.dvd regular.splitBytes narrow
  exact ⟨(Nat.dvd_mod_iff whole).mpr (Address.dvd_alignDown _ cell),
    (Nat.dvd_mod_iff whole).mpr (Address.dvd_alignDown _ cell)⟩

theorem selects_writeBeat (regular : bridge.conversion.IsRegular)
    (size : burst.size.toNat ≤ bridge.conversion.splitBytes.log2) (count : Nat) (datum : Data) :
    (Op.writeBeat burst bridge.conversion.splitBytes count beat datum).strobe.selects lane = true ↔
      ∃ index < burst.beatBytes,
        burst.beatLane beat bridge.conversion.splitBytes + index = lane := by
  obtain ⟨cell, narrow⟩ := beatBytes_cell regular size
  unfold Op.writeBeat
  dsimp only
  constructor
  · intro selected
    exact (Strobe.selects_full_shiftLeft_iff (Strobe.lt_of_selects selected)).mp selected
  · rintro ⟨index, inside, rfl⟩
    have wide := regular.splitBytes_le
    have below : burst.beatLane beat bridge.conversion.splitBytes < bridge.conversion.splitBytes :=
      Nat.mod_lt _ regular.splitBytes.positive
    have last := add_le_of_dvd_of_lt (lanes_aligned regular size beat).2
      (cell.dvd regular.splitBytes narrow) below
    have fits : burst.beatLane beat bridge.conversion.splitBytes + index < 16 := by omega
    exact (Strobe.selects_full_shiftLeft_iff fits).mpr ⟨index, inside, rfl⟩

section

variable (regular : bridge.conversion.IsRegular)
  (inward : bridge.conversion.direction = .splitToSimple)
  (size : burst.size.toNat ≤ bridge.conversion.splitBytes.log2)

include regular inward size

theorem usesLane_iff :
    bridge.UsesLane burst beat lane ↔
      ∃ index < burst.beatBytes, bridge.firstLane burst beat + index = lane := by
  have fits := Span.of_fits regular inward bridge.origin size beat
  unfold UsesLane
  rw [planBeat_eq rfl rfl fits]
  constructor
  · rintro ⟨_, listed, pair, used, rfl⟩
    obtain ⟨word, _, rfl⟩ := List.mem_map.mp listed
    obtain ⟨index, inside, _, rfl⟩ := fits.mem_lanes.mp used
    exact ⟨index, inside, (fits.splitLane_eq inside).symm⟩
  · rintro ⟨index, inside, rfl⟩
    exact ⟨_, List.mem_map_of_mem (Span.word_mem inside), _,
      fits.mem_lanes.mpr ⟨index, inside, rfl, rfl⟩, fits.splitLane_eq inside⟩

/-- The lanes that the master fills are those that the bridge uses, or none of them is. -/
theorem lanes_eq_or_apart (count : Nat) (datum : Data) :
    (bridge.firstLane burst beat = burst.beatLane beat bridge.conversion.splitBytes ∧
      ∀ lane, (Op.writeBeat burst bridge.conversion.splitBytes count beat datum).strobe.selects
        lane = true ↔ bridge.UsesLane burst beat lane) ∨
    (bridge.firstLane burst beat ≠ burst.beatLane beat bridge.conversion.splitBytes ∧
      ∀ lane, bridge.UsesLane burst beat lane →
        (Op.writeBeat burst bridge.conversion.splitBytes count beat datum).strobe.selects
          lane = false) := by
  obtain ⟨one, two⟩ := lanes_aligned regular size beat
  by_cases same : bridge.firstLane burst beat = burst.beatLane beat bridge.conversion.splitBytes
  · refine .inl ⟨same, fun lane => ?_⟩
    rw [selects_writeBeat regular size, usesLane_iff regular inward size, same]
  · refine .inr ⟨same, fun lane used => ?_⟩
    obtain ⟨index, inside, place⟩ := (usesLane_iff regular inward size).mp used
    rw [Bool.eq_false_iff]
    intro selected
    obtain ⟨other, within, rival⟩ := (selects_writeBeat regular size count datum).mp selected
    exact same (eq_of_blocks_meet one two inside within (place.trans rival.symm))

end

theorem writes_nothing {written : WriteBeat}
    (apart : ∀ lane, bridge.UsesLane burst beat lane → written.strobe.selects lane = false) :
    ∀ access ∈ (bridge.planBeat burst beat).map (·.write written), access.request.select = 0 := by
  intro access member
  obtain ⟨word, listed, rfl⟩ := List.mem_map.mp member
  have none : word.lanes.filter (fun pair => written.strobe.selects pair.split) = [] := by
    rw [List.filter_eq_nil_iff]
    intro pair used
    rw [apart pair.split ⟨word, listed, pair, used, rfl⟩]
    decide
  unfold WordLanes.write
  dsimp only
  rw [none]
  rfl

end Inbound

end BusFabric.Bridge

namespace BusFabric.Fabric

open Bridge (Access Conversion Inbound Span)
open Split (AddressBeat Op WriteBeat)

theorem location_self (span : Span) (fits : span.Fits) (index : Nat) :
    location (fun word => word) span index = span.address index :=
  Address.alignDown_add_offset (span.address index) fits.simple

theorem writes_iff_hits {access : Access} {simpleBytes : Nat}
    (inWord : access.request.InWord simpleBytes) {address : Address} {byte : Byte} :
    access.Writes address byte ↔ Hits simpleBytes (fun word => word) address access ∧
      carried (fun word => word) address access = byte := by
  have size : UInt64.size = 18446744073709551616 := rfl
  constructor
  · rintro ⟨lane, selected, rfl, rfl⟩
    have small := Strobe.lt_of_selects selected
    have offset : (access.request.address + BitVec.ofNat 64 lane - access.request.address).toNat =
        lane := (Address.add_ofNat_eq_iff (by omega)).mp rfl
    unfold Hits carried
    rw [offset]
    exact ⟨⟨inWord.narrow lane selected, selected⟩, rfl⟩
  · rintro ⟨⟨_, selected⟩, same⟩
    refine ⟨_, selected, ?_, same⟩
    exact (Address.add_ofNat_eq_iff (BitVec.isLt _)).mpr rfl

/-- A byte of a beat is translated with the beat, if the origin lies between two words. -/
theorem translate_byte {bridge : Inbound} {burst : AddressBeat}
    (regular : bridge.conversion.IsRegular)
    (inward : bridge.conversion.direction = .splitToSimple)
    (size : burst.size.toNat ≤ bridge.conversion.splitBytes.log2)
    (based : bridge.conversion.splitBytes ∣ bridge.origin.toNat) (beat : Nat) {index : Nat}
    (inside : index < burst.beatBytes) :
    bridge.conversion.translate ((burst.beatAddress beat).alignDown burst.beatBytes +
        BitVec.ofNat 64 index - bridge.origin) =
      (Span.of bridge.conversion bridge.origin burst beat).address index := by
  obtain ⟨cell, narrow⟩ := Bridge.beatBytes_cell regular size
  have whole := Nat.dvd_trans (cell.dvd regular.splitBytes narrow) based
  have fits := Span.of_fits regular inward bridge.origin size beat
  have start : (burst.beatAddress beat).alignDown burst.beatBytes + BitVec.ofNat 64 index -
      bridge.origin = (Span.of bridge.conversion bridge.origin burst beat).start +
        BitVec.ofNat 64 index := by
    unfold Span.of
    dsimp only
    rw [Address.alignDown_sub cell _ whole, BitVec.sub_eq_add_neg, BitVec.sub_eq_add_neg,
      BitVec.add_assoc, BitVec.add_comm (BitVec.ofNat 64 index), BitVec.add_assoc]
  have room : (Span.of bridge.conversion bridge.origin burst beat).start.toNat %
      bridge.conversion.sourceBytes + index < bridge.conversion.sourceBytes := by
    have last := fits.inside
    rw [Conversion.sourceBytes_inward inward]
    exact Nat.lt_of_lt_of_le (Nat.add_lt_add_left inside _) last
  rw [start]
  exact (Conversion.translate_add regular room).2

section

variable {bridge : Inbound} {burst : AddressBeat} {beat : Nat} {datum : Data} {written : WriteBeat}
  (fits : (Span.of bridge.conversion bridge.origin burst beat).Fits)
  (carries : Carries bridge.conversion bridge.origin burst beat datum written)

include fits carries

theorem byte_of_hits {word address : Address}
    (hits : Hits bridge.conversion.simpleBytes (fun word => word) address
      (((Span.of bridge.conversion bridge.origin burst beat).lanesOf word).write written)) :
    ∃ index < burst.beatBytes,
      address = (Span.of bridge.conversion bridge.origin burst beat).address index ∧
      carried (fun word => word) address
        (((Span.of bridge.conversion bridge.origin burst beat).lanesOf word).write written) =
          datum.lane index := by
  obtain ⟨index, inside, place, holds⟩ := hits_write fits hits
  exact ⟨index, inside, place.symm.trans (location_self _ fits index),
    holds.trans (carries.lanes index inside)⟩

theorem writes_iff (regular : bridge.conversion.IsRegular) (address : Address) (byte : Byte) :
    (∃ access ∈ (bridge.planBeat burst beat).map (·.write written), access.Writes address byte) ↔
      ∃ index < burst.beatBytes,
        address = (Span.of bridge.conversion bridge.origin burst beat).address index ∧
        byte = datum.lane index := by
  have planned := Inbound.planBeat_eq rfl rfl fits
  have inWord := Inbound.planBeat_inWord regular.simpleBytes burst beat
  rw [planned] at inWord ⊢
  constructor
  · rintro ⟨_, member, writes⟩
    obtain ⟨lanes, listed, rfl⟩ := List.mem_map.mp member
    obtain ⟨hits, rfl⟩ := (writes_iff_hits ((inWord lanes listed).write written)).mp writes
    obtain ⟨word, _, rfl⟩ := List.mem_map.mp listed
    exact byte_of_hits fits carries hits
  · rintro ⟨index, inside, rfl, rfl⟩
    have within : index < (Span.of bridge.conversion bridge.origin burst beat).bytes := inside
    have listed := Span.word_mem within
    have hits : Hits bridge.conversion.simpleBytes (fun word => word) _ _ :=
      hits_location fits within (carries.enabled index inside)
    rw [location_self _ fits] at hits
    refine ⟨_, List.mem_map_of_mem (List.mem_map_of_mem listed),
      (writes_iff_hits ((inWord _ (List.mem_map_of_mem listed)).write written)).mpr ⟨hits, ?_⟩⟩
    obtain ⟨other, inside', place, holds⟩ := byte_of_hits fits carries hits
    have same : index = other := by
      have numbers := congrArg BitVec.toNat place
      rw [fits.toNat_address within, fits.toNat_address inside'] at numbers
      omega
    rw [holds, same]

end

/-- Counted from an origin between two words of the bus, a beat is written byte by byte. -/
theorem writesWhole_of_aligned {bridge : Inbound} {burst : AddressBeat}
    (regular : bridge.conversion.IsRegular)
    (inward : bridge.conversion.direction = .splitToSimple)
    (size : burst.size.toNat ≤ bridge.conversion.splitBytes.log2)
    (based : bridge.conversion.splitBytes ∣ bridge.origin.toNat) (beat count : Nat)
    (datum : Data) :
    bridge.WritesWhole burst beat datum
      (Op.writeBeat burst bridge.conversion.splitBytes count beat datum) := by
  intro address byte
  rw [writes_iff (Span.of_fits regular inward bridge.origin size beat)
    (carries_writeBeat regular inward size based beat count datum) regular]
  -- The bytes of the beat are translated one by one.
  refine exists_congr fun index => and_congr_right fun inside => and_congr_left' ?_
  rw [translate_byte regular inward size based beat inside]

structure PlayedBeat (port : Port) where
  id : BitVec 32
  address : Address
  size : BitVec 8
  mode : Split.BurstMode
  data : List Data
  burst : AddressBeat
  beats : List WriteBeat
  /-- Which of the beats it is. -/
  index : Nat
  datum : Data
  written : WriteBeat
  narrow : 1 <<< size.toNat ≤ port.wordBytes
  length : 1 ≤ data.length ∧ data.length ≤ Split.maxBeats
  wraps : mode = .wrap → data.length ∈ [2, 4, 8, 16]
  op : Op.writeBurst id address size mode data port.wordBytes = .write burst beats
  carried : data[index]? = some datum
  played : beats[index]? = some written

namespace PlayedBeat

variable {port : Port}

/-- The master fills the lanes that the bridge reads. -/
def Agrees (beat : PlayedBeat port) (bridge : Inbound) : Prop :=
  ∀ lane, beat.written.strobe.selects lane = true ↔ bridge.UsesLane beat.burst beat.index lane

theorem eq_writeBeat (beat : PlayedBeat port) :
    beat.burst.size = beat.size ∧ beat.written =
      Op.writeBeat beat.burst port.wordBytes beat.data.length beat.index beat.datum := by
  obtain ⟨id, address, size, mode, data, burst, beats, index, datum, written, _, length, _, op,
    carried, played⟩ := beat
  rw [writeBurst_eq id address size mode length.2] at op
  cases op
  rw [List.getElem?_mapIdx, carried] at played
  exact ⟨rfl, (Option.some.inj played).symm⟩

def atByte (port : Port) (holds : 1 ≤ port.wordBytes) (address : Address) : PlayedBeat port where
  id := 0
  address := address
  size := 0
  mode := .incr
  data := [0]
  burst := _
  beats := _
  index := 0
  datum := 0
  written := _
  narrow := holds
  length := by decide
  wraps := nofun
  op := rfl
  carried := rfl
  played := rfl

section

variable {config : Config} {script : Split.Master} {bridge : Inbound}

theorem size_le (awaits : AwaitsPush config port script bridge) (beat : PlayedBeat port) :
    beat.burst.size.toNat ≤ bridge.conversion.splitBytes.log2 := by
  rw [beat.eq_writeBeat.1]
  exact awaits.size_le beat.narrow

/-- The master and the bridge agree on a beat where it has the same first lane for both. Otherwise
nothing of it is written. -/
theorem agrees_iff (awaits : AwaitsPush config port script bridge) (beat : PlayedBeat port) :
    (beat.Agrees bridge ↔ bridge.firstLane beat.burst beat.index =
        beat.burst.beatLane beat.index bridge.conversion.splitBytes) ∧
      (beat.Agrees bridge ∨
        ∀ access ∈ (bridge.planBeat beat.burst beat.index).map (·.write beat.written),
          access.request.select = 0) := by
  have size := beat.size_le awaits
  have written := beat.eq_writeBeat.2
  rw [← awaits.splitBytes] at written
  unfold Agrees
  rw [written]
  rcases Inbound.lanes_eq_or_apart awaits.regular awaits.inward size beat.data.length beat.datum
    with ⟨same, alike⟩ | ⟨other, apart⟩
  · exact ⟨⟨fun _ => same, fun _ => alike⟩, .inl alike⟩
  · refine ⟨⟨fun agrees => ?_, fun same => absurd same other⟩, .inr (Inbound.writes_nothing apart)⟩
    -- The bridge uses a lane at least.
    have used : bridge.UsesLane beat.burst beat.index (bridge.firstLane beat.burst beat.index) :=
      (Inbound.usesLane_iff awaits.regular awaits.inward size).mpr
        ⟨0, (Bridge.beatBytes_cell awaits.regular size).1.positive, rfl⟩
    have enabled := (agrees _).mpr used
    rw [apart _ used] at enabled
    cases enabled

theorem agrees_of_aligned (awaits : AwaitsPush config port script bridge)
    (based : bridge.conversion.splitBytes ∣ bridge.origin.toNat) (beat : PlayedBeat port) :
    beat.Agrees bridge := by
  have size := beat.size_le awaits
  have inside := (Bridge.beatBytes_cell awaits.regular size).1.positive
  have fits := Span.of_fits awaits.regular awaits.inward bridge.origin size beat.index
  have lane := splitLane_eq_beatLane awaits.regular awaits.inward size based beat.index inside
  rw [fits.splitLane_eq inside] at lane
  exact (beat.agrees_iff awaits).1.mpr lane

theorem aligned_of_agrees (awaits : AwaitsPush config port script bridge)
    (holds : 1 ≤ port.wordBytes) (agrees : (atByte port holds bridge.origin).Agrees bridge) :
    bridge.conversion.splitBytes ∣ bridge.origin.toNat := by
  have same := ((atByte port holds bridge.origin).agrees_iff awaits).1.mp agrees
  have byte : IsCell 1 := ⟨0, by decide, rfl⟩
  have whole (address : Address) : address.alignDown 1 = address :=
    Address.alignDown_of_dvd byte (Nat.one_dvd _)
  have relative : bridge.firstLane (atByte port holds bridge.origin).burst 0 = 0 := by
    show ((bridge.origin - bridge.origin).alignDown 1).toNat % _ = 0
    rw [whole, BitVec.sub_self]
    exact Nat.zero_mod _
  have absolute : (atByte port holds bridge.origin).burst.beatLane 0
      bridge.conversion.splitBytes = bridge.origin.toNat % bridge.conversion.splitBytes := by
    show (bridge.origin.alignDown 1).toNat % _ = _
    rw [whole]
  exact Nat.dvd_of_mod_eq_zero (absolute.symm.trans (same.symm.trans relative))

end

end PlayedBeat

/-- Behind each master that speaks the split protocol stands a bridge. Every data beat that the
master plays meets the lanes that the bridge reads just when the origin of the port is a multiple of
its bus word; otherwise some beat meets none of them, and nothing of it is written. With such an
origin the writes of a beat are its bytes, each at its translated address. -/
theorem beats_meet_their_lanes {config : Config} {fabric : Fabric} {port : Port}
    (built : build config = .ok fabric) (listed : port ∈ config.ports)
    (asks : port.role = .master) (speaks : port.protocol = .wideSplit) :
    ∃ script bridge, fabric.splitMaster? port.id = some (script, bridge) ∧
      ((∀ beat : PlayedBeat port, beat.Agrees bridge) ↔
        port.wordBytes ∣ (port.base.getD 0).toNat) ∧
      ∀ beat : PlayedBeat port,
        (beat.Agrees bridge ∨
          ∀ access ∈ (bridge.planBeat beat.burst beat.index).map (·.write beat.written),
            access.request.select = 0) ∧
        (port.wordBytes ∣ (port.base.getD 0).toNat →
          bridge.WritesWhole beat.burst beat.index beat.datum beat.written) := by
  have mapped := mapped_build built
  obtain ⟨_, _, _, made⟩ := mapped.masters port listed asks
  obtain ⟨conversion, converts, agent⟩ := masterAgent_split (by rw [speaks]; rfl) made
  rw [agent] at made
  rw [speaks] at converts
  have awaits : AwaitsPush config port { busBytes := port.wordBytes }
      { port := port.id, conversion, origin := port.base.getD 0 } :=
    ⟨converts, rfl, ⟨rfl, rfl, rfl⟩, rfl, rfl, rfl, rfl⟩
  refine ⟨_, _, mapped.splitMaster? listed asks made, ?_⟩
  rw [← awaits.splitBytes]
  have holds : 1 ≤ port.wordBytes := awaits.splitBytes ▸ awaits.regular.splitBytes.positive
  refine ⟨⟨fun agree => ?_, PlayedBeat.agrees_of_aligned awaits⟩, fun beat => ⟨?_, fun based => ?_⟩⟩
  · exact PlayedBeat.aligned_of_agrees awaits holds (agree _)
  · exact (beat.agrees_iff awaits).2
  · have written := beat.eq_writeBeat.2
    rw [← awaits.splitBytes] at written
    rw [written]
    exact writesWhole_of_aligned awaits.regular awaits.inward (beat.size_le awaits) based _ _ _

def wideMaster (base : Address) : Port :=
  { id := ⟨0⟩, name := "core", protocol := .wideSplit, role := .master, dataWidth := 64,
    addressWidth := 32, base := some base }

/-- The master on a fabric of 32 bits, with one memory. -/
def wideConfig (base : Address) : Config where
  width := 32
  ports :=
    [wideMaster base,
     { id := ⟨1⟩, name := "ram", protocol := .wideSplit, role := .slave, dataWidth := 32,
       addressWidth := 32, base := some 0, size := some 0x1000 }]

/-- With an origin of one bus word, what the master writes is written. -/
theorem beats_behind_a_word_are_written :
    ∃ fabric script bridge, build (wideConfig 8) = .ok fabric ∧
      fabric.splitMaster? ⟨0⟩ = some (script, bridge) ∧
      ∀ beat : PlayedBeat (wideMaster 8), beat.Agrees bridge ∧
        bridge.WritesWhole beat.burst beat.index beat.datum beat.written := by
  have built : build (wideConfig 8) = .ok _ := rfl
  have listed : wideMaster 8 ∈ (wideConfig 8).ports := List.mem_cons_self ..
  have based : (wideMaster 8).wordBytes ∣ ((wideMaster 8).base.getD 0).toNat := by decide
  obtain ⟨script, bridge, found, agree, whole⟩ := beats_meet_their_lanes built listed rfl rfl
  exact ⟨_, script, bridge, built, found,
    fun beat => ⟨agree.mpr based beat, (whole beat).2 based⟩⟩

/-- With an origin of half a bus word, four bytes at the origin go out on the upper lanes, the
bridge looks at the lower ones, and the access that it makes selects no byte. -/
theorem beat_behind_half_a_word_is_dropped :
    ∃ fabric script bridge, build (wideConfig 4) = .ok fabric ∧
      fabric.splitMaster? ⟨0⟩ = some (script, bridge) ∧
      ∃ beat : PlayedBeat (wideMaster 4), beat.address = 4 ∧ beat.data = [0x11223344] ∧
        ¬ beat.Agrees bridge ∧
        ((bridge.planBeat beat.burst beat.index).map (·.write beat.written)).map
          (·.request.select) = [0] := by
  refine ⟨_, _, _, rfl, rfl, ⟨0, 4, 2, .incr, [0x11223344], _, _, 0, 0x11223344, _, by decide,
    by decide, nofun, rfl, rfl, rfl⟩, rfl, rfl, fun agrees => ?_, rfl⟩
  have used := (agrees 4).mp rfl
  unfold Inbound.UsesLane at used
  revert used
  decide

end BusFabric.Fabric
