import BusFabric.Proofs.Fabric.PairBuild
import BusFabric.Proofs.Fabric.Readback

set_option autoImplicit false

namespace BusFabric.Fabric

open Bridge (Access Conversion Inbound Span)
open Bridge.Inbound (Accepts PlansRead PlansWrite plansRead plansWrite)
open Crossbar (Lane)
open Split (AddressBeat BurstMode Master Op WriteBeat)

section

variable {simpleBytes : Nat} {isServed : Address → Prop} {place : Address → Address}
  {rests : (Address → Byte) → SlaveAgent → Prop} {port : PortId} {faults : Array ProtocolFault}
  {frame : Crossbar MasterAgent SlaveAgent} {lane : Lane MasterAgent}
  {bytes : Address → Byte} {fabric : Fabric} {script : Master} {bridge : Inbound}
  {split : Split.Link} {link : Simple.Link}

theorem Between.splitMaster?
    (between : Between rests frame port faults (heldLane lane (.split script split bridge) link)
      bytes fabric) :
    fabric.splitMaster? lane.port = some (script, bridge) := by
  obtain ⟨⟨slot, crossbar, _⟩, _, _⟩ := between
  unfold Fabric.splitMaster?
  rw [crossbar]
  simp [heldLane]

/-- A push onto the master's script changes nothing else. -/
theorem Between.push
    (between : Between rests frame port faults (heldLane lane (.split script split bridge) link)
      bytes fabric) (op : Op) :
    ∃ after, fabric.pushSplit lane.port op = .ok after ∧ after.cycle = fabric.cycle ∧
      after.fixtures = fabric.fixtures ∧
      Between rests frame port faults (heldLane lane (.split (script.push op) split bridge) link)
        bytes after := by
  have master := between.splitMaster?
  obtain ⟨⟨slot, crossbar, side⟩, noted, _⟩ := between
  unfold pushSplit
  rw [master]
  refine ⟨_, rfl, rfl, rfl, ⟨slot, ?_, side⟩, noted, rfl⟩
  unfold modifyMaster
  rw [crossbar]
  simp [Crossbar.pair, heldLane]

/-- Two pushes onto an empty script. -/
theorem Between.push_both
    (between : Between rests frame port faults (heldLane lane (.split script split bridge) link)
      bytes fabric) (empty : script.queue = []) (first second : Op) :
    ∃ middle ready, fabric.pushSplit lane.port first = .ok middle ∧
      middle.pushSplit lane.port second = .ok ready ∧ ready.cycle = fabric.cycle ∧
      ready.fixtures = fabric.fixtures ∧
      Between rests frame port faults
        (heldLane lane (.split { script with queue := [first, second] } split bridge) link)
        bytes ready := by
  obtain ⟨middle, pushed, cycle, fixed, between⟩ := between.push first
  obtain ⟨ready, pushed', cycle', fixed', between⟩ := between.push second
  have queue : (script.push first).push second = { script with queue := [first, second] } := by
    unfold Master.push
    rw [empty]
    rfl
  rw [queue] at between
  exact ⟨middle, ready, pushed, pushed', cycle'.trans cycle, fixed'.trans fixed, between⟩

theorem Between.isIdle (store : Store simpleBytes isServed place rests) (clear : bridge.IsClear)
    (done : script.isDone = true)
    (between : Between rests frame port faults
      (heldLane lane (.split script {} bridge.resting) .idle) bytes fabric) :
    fabric.isIdle = true := by
  obtain ⟨⟨slot, crossbar, _, phase, free, resting⟩, _, _⟩ := between
  have settled := store.settled resting
  unfold Fabric.isIdle
  rw [crossbar]
  simp [Crossbar.isIdle, heldLane, MasterAgent.isSettled, done, Inbound.isIdle, Inbound.resting,
    clear.write, clear.read, phase, free, settled]

/-- Two states of a fabric between requests differ in what traffic leaves behind. -/
theorem Between.pristine_eq {first : SlaveAgent} {agent agent' : MasterAgent} {final : Fabric}
    {bytes' : Address → Byte} (rigid : ∀ bytes agent, rests bytes agent → agent.pristine = first)
    (before : Between rests frame port faults (heldLane lane agent link) bytes fabric)
    (after : Between rests frame port faults (heldLane lane agent' link) bytes' final)
    (same : agent'.pristine = agent.pristine) (fixed : final.fixtures = fabric.fixtures) :
    final.pristine = fabric.pristine := by
  obtain ⟨⟨slot, crossbar, named, phase, free, resting⟩, _, _⟩ := before
  obtain ⟨⟨slot', crossbar', named', phase', free', resting'⟩, _, _⟩ := after
  unfold fixtures at fixed
  simp only [Prod.mk.injEq] at fixed
  obtain ⟨width, layout, platform, records⟩ := fixed
  unfold Fabric.pristine
  rw [crossbar, crossbar', width, layout, platform, records]
  simp [Crossbar.pair, heldLane, same, named, named', phase, phase', free, free',
    rigid _ _ resting, rigid _ _ resting']

variable {burst : AddressBeat} {data : List Data}

def dataBeat (burst : AddressBeat) (busBytes : Nat) (data : List Data) (beat : Nat) : WriteBeat :=
  Op.writeBeat burst busBytes data.length beat (data.getD beat 0)

theorem getElem_dataBeat (burst : AddressBeat) (busBytes : Nat) (data : List Data) (beat : Nat)
    (inside : beat < (data.mapIdx (Op.writeBeat burst busBytes data.length)).length) :
    (data.mapIdx (Op.writeBeat burst busBytes data.length))[beat] =
      dataBeat burst busBytes data beat := by
  rw [List.length_mapIdx] at inside
  unfold dataBeat
  rw [List.getElem_mapIdx, List.getD_eq_getElem?_getD, List.getElem?_eq_getElem inside,
    Option.getD_some]

def writeAccesses (conversion : Conversion) (origin : Address) (burst : AddressBeat)
    (data : Nat → WriteBeat) (beat : Nat) : List Access :=
  spanAccesses (Span.of conversion origin burst beat) (·.write (data beat))

def readAccesses (conversion : Conversion) (origin : Address) (burst : AddressBeat) (beat : Nat) :
    List Access :=
  spanAccesses (Span.of conversion origin burst beat) (·.read)

/-- What the reads of a burst gather, once its writes are stored, is the data. -/
theorem data_readback {conversion : Conversion} {origin : Address} (regular : conversion.IsRegular)
    (inward : conversion.direction = .splitToSimple)
    (size : burst.size.toNat ≤ conversion.splitBytes.log2)
    (legal : burst.mode = .incr ∨ burst.mode = .wrap ∧ burst.beats ∈ [2, 4, 8, 16])
    (based : conversion.splitBytes ∣ origin.toNat)
    (apart : KeepsApart conversion.simpleBytes isServed place)
    (served : ∀ beat < burst.beats, ∀ word ∈ (Span.of conversion origin burst beat).words,
      isServed word) (whole : data.length = burst.beats) (bytes : Address → Byte) :
    ((List.range burst.beats).map fun beat =>
      Master.datum burst conversion.splitBytes beat
        (readOut conversion.simpleBytes place
          (storedAll conversion.simpleBytes place bytes ((List.range burst.beats).flatMap
            (writeAccesses conversion origin burst (dataBeat burst conversion.splitBytes data))))
          (readAccesses conversion origin burst beat))) =
      data.map (·.truncate burst.beatBytes) := by
  apply List.ext_getElem
  · simp [whole]
  · intro beat listed inside
    rw [List.length_map] at listed inside
    rw [List.length_range] at listed
    have carries : ∀ beat < burst.beats,
        Carries conversion origin burst beat (data.getD beat 0)
          (dataBeat burst conversion.splitBytes data beat) :=
      fun beat _ => carries_writeBeat regular inward size based beat data.length _
    have datum := datum_readback regular inward size legal based apart served carries bytes listed
    rw [List.getElem_map, List.getElem_map, List.getElem_range]
    refine datum.trans ?_
    rw [List.getD_eq_getElem?_getD, List.getElem?_eq_getElem inside, Option.getD_some]

theorem Between.round_trip
    (between : Between rests frame port faults
      (heldLane lane (.split script {} bridge.resting) .idle) bytes fabric)
    (store : Store bridge.conversion.simpleBytes isServed place rests)
    (apart : KeepsApart bridge.conversion.simpleBytes isServed place)
    (regular : bridge.conversion.IsRegular)
    (inward : bridge.conversion.direction = .splitToSimple)
    (full : bridge.conversion.source = .wideSplit)
    (based : bridge.conversion.splitBytes ∣ bridge.origin.toNat)
    (size : burst.size.toNat ≤ bridge.conversion.splitBytes.log2)
    (legal : burst.mode = .incr ∨ burst.mode = .wrap ∧ burst.beats ∈ [2, 4, 8, 16])
    (reached : ∀ beat < burst.beats,
      ∀ word ∈ (Span.of bridge.conversion bridge.origin burst beat).words,
        isServed word ∧ frame.map.decode word = some port)
    (whole : data.length = burst.beats) (id : BitVec 32) (clear : bridge.IsClear)
    (bus : script.busBytes = bridge.conversion.splitBytes) (free : script.current = none)
    (next : script.queue =
      [.write burst (data.mapIdx (Op.writeBeat burst script.busBytes data.length)),
        .read { burst with id }]) :
    Eventually (fun later => ¬ later.HasEnded ∧ ∃ written read after,
      Between rests frame port faults
        (heldLane lane (.split
          { script with
            queue := []
            current := none
            completions := (script.completions.push (.write burst.id .okay written)).push
              (.read id (data.map (·.truncate burst.beatBytes)) .okay read) }
          {} { bridge with preferRead := false }.resting) .idle)
        after later.tick) fabric := by
  have fits := Span.of_fits regular inward bridge.origin size
  have accepts := Bridge.Inbound.accepts_of_legal full size legal
  have clear' := clear.prefer true
  have length : (data.mapIdx (Op.writeBeat burst script.busBytes data.length)).length =
      burst.beats := by
    rw [List.length_mapIdx, whole]
  have plans : ∀ (beat : Nat)
      (inside : beat < (data.mapIdx (Op.writeBeat burst script.busBytes data.length)).length),
      PlansWrite bridge.conversion bridge.origin burst beat
        (data.mapIdx (Op.writeBeat burst script.busBytes data.length))[beat]
        (writeAccesses bridge.conversion bridge.origin burst
          (dataBeat burst script.busBytes data) beat) := by
    intro beat inside
    rw [getElem_dataBeat]
    apply plansWrite (fits beat)
    show decide (beat + 1 = data.length) = _
    rw [whole]
  have writes := between.write_burst store clear accepts length plans
    (fun beat => spanAccesses_ne_nil (fits beat) _)
    (fun beat => write_spanAccesses _ (fun _ => rfl))
    (fun beat inside => reaches_spanAccesses (fun _ => rfl) (reached beat (length ▸ inside)))
    free next
  rw [length] at writes
  refine writes.bind ?_
  rintro later ⟨written, between⟩
  have planned : ∀ beat < burst.beats,
      PlansRead bridge.conversion bridge.origin { burst with id } beat
        (readAccesses bridge.conversion bridge.origin burst beat) :=
    fun beat _ => plansRead (fits beat)
  have accepts : Accepts bridge.conversion { burst with id } :=
    Bridge.Inbound.accepts_of_legal full size legal
  have reads := between.read_burst store clear' accepts planned
    (fun beat => spanAccesses_ne_nil (fits beat) _)
    (fun beat => write_spanAccesses _ (fun _ => rfl))
    (fun beat inside => reaches_spanAccesses (fun _ => rfl) (reached beat inside)) rfl rfl
  refine reads.bind ?_
  rintro last ⟨plays, read, between⟩
  have returned := data_readback regular inward size legal based apart
    (fun beat inside word mem => (reached beat inside word mem).1) whole bytes
  rw [← bus] at returned
  rw [← returned]
  exact .now ⟨plays, written, read, _, between⟩

end

section

variable {config : Config} {master slave : Port} {start fabric : Fabric}

/-- The master's side of a pair between two runs. -/
structure AwaitsPush (config : Config) (master : Port) (script : Master) (bridge : Inbound) :
    Prop where
  converts : Conversion.between .wideSplit master.dataWidth .simpleSync config.width =
    .ok bridge.conversion
  origin : bridge.origin = master.base.getD 0
  clear : bridge.IsClear
  resting : bridge.resting = bridge
  busBytes : script.busBytes = master.wordBytes
  queue : script.queue = []
  current : script.current = none

namespace AwaitsPush

variable {script : Master} {bridge : Inbound}

theorem regular (awaits : AwaitsPush config master script bridge) :
    bridge.conversion.IsRegular :=
  Conversion.isRegular_of_between awaits.converts

theorem inward (awaits : AwaitsPush config master script bridge) :
    bridge.conversion.direction = .splitToSimple := by
  rw [(Conversion.eq_of_between awaits.converts).1]
  rfl

theorem full (awaits : AwaitsPush config master script bridge) :
    bridge.conversion.source = .wideSplit := by
  rw [(Conversion.eq_of_between awaits.converts).1]

theorem splitBytes (awaits : AwaitsPush config master script bridge) :
    bridge.conversion.splitBytes = master.wordBytes := by
  rw [(Conversion.eq_of_between awaits.converts).1]
  rfl

theorem size_le (awaits : AwaitsPush config master script bridge) {size : BitVec 8}
    (narrow : 1 <<< size.toNat ≤ master.wordBytes) :
    size.toNat ≤ bridge.conversion.splitBytes.log2 := by
  rw [← awaits.splitBytes] at narrow
  exact awaits.regular.size_le narrow

theorem turned (awaits : AwaitsPush config master script bridge) :
    ({ bridge with preferRead := false } : Inbound).resting =
      { bridge with preferRead := false } :=
  congrArg (fun resting : Inbound => { resting with preferRead := false }) awaits.resting

theorem played (awaits : AwaitsPush config master script bridge) :
    ({ script with queue := [], current := none } : Master) = script := by
  rw [← awaits.queue, ← awaits.current]

end AwaitsPush

/-- After finished traffic a pair is between two requests, and its slave is a store of the words
that are decoded to it. -/
theorem between_of_pristine (pair : IsPair config master slave) (built : build config = .ok start)
    (settled : fabric.pristine = start) :
    ∃ script bridge lane isServed place rests bytes,
      AwaitsPush config master script bridge ∧
      Store bridge.conversion.simpleBytes isServed place rests ∧
      KeepsApart bridge.conversion.simpleBytes isServed place ∧
      (∀ word : Address, bridge.conversion.simpleBytes ∣ word.toNat →
        fabric.map.decode word = some slave.id → isServed word) ∧
      (∃ first, ∀ bytes agent, rests bytes agent → agent.pristine = first) ∧
      lane.port = master.id ∧
      Between rests fabric.crossbar slave.id fabric.faults
        (heldLane lane (.split script {} bridge) .idle) bytes fabric := by
  obtain ⟨conversion, map, agent, converts, placed, made, _, crossbar⟩ := build_pair pair built
  obtain ⟨base, size, based, sized, aligned, rfl⟩ := register_alone placed
  have regular := (Conversion.isRegular_of_between converts).target
  rw [(Conversion.eq_of_between converts).1] at regular
  obtain ⟨isServed, place, rests, window⟩ :=
    slave_store pair.listens made based sized aligned regular
  have simpleBytes : conversion.simpleBytes = config.width / 8 := by
    rw [(Conversion.eq_of_between converts).1]
    rfl
  rw [← simpleBytes] at window
  rw [← settled] at crossbar
  have maps := congrArg Crossbar.map crossbar
  obtain ⟨lane, laneAlone, laneSame⟩ :=
    List.map_eq_singleton_iff.mp (congrArg Crossbar.lanes crossbar)
  obtain ⟨slot, slotAlone, slotSame⟩ :=
    List.map_eq_singleton_iff.mp (congrArg Crossbar.slots crossbar)
  have owned : ∀ word : Address, conversion.simpleBytes ∣ word.toNat →
      fabric.map.decode word = some slave.id → isServed word := by
    intro word along decoded
    unfold Fabric.map at decoded
    rw [show fabric.crossbar.map = _ from maps] at decoded
    exact window.inWindow word along (decode_alone decoded).2
  obtain ⟨completions, preferRead, played⟩ :=
    split_of_pristine (congrArg Lane.agent laneSame)
  obtain ⟨bytes, resting⟩ := window.stands slot.agent (congrArg Crossbar.Slot.agent slotSame)
  have unserved : lane.isServed = false := congrArg Lane.isServed laneSame
  have free : lane.link = .idle := congrArg Lane.link laneSame
  have whole : fabric.crossbar = Crossbar.pair fabric.crossbar
      (heldLane lane (.split { busBytes := master.wordBytes, completions } {}
        { port := master.id, conversion, origin := master.base.getD 0, preferRead }) .idle)
      slot := by
    unfold Crossbar.pair heldLane
    rw [← played, ← unserved, ← free, ← laneAlone, ← slotAlone]
  have port : lane.port = master.id := congrArg Lane.port laneSame
  have slavePort : slot.port = slave.id := congrArg Crossbar.Slot.port slotSame
  have phase : slot.phase = .idle := congrArg Crossbar.Slot.phase slotSame
  have link : slot.link = .idle := congrArg Crossbar.Slot.link slotSame
  have awaits : AwaitsPush config master { busBytes := master.wordBytes, completions }
      { port := master.id, conversion, origin := master.base.getD 0, preferRead } :=
    ⟨converts, rfl, ⟨rfl, rfl, rfl⟩, rfl, rfl, rfl, rfl⟩
  exact ⟨_, _, lane, isServed, place, rests, bytes, awaits, window.store, window.apart,
    owned, ⟨agent, window.rigid⟩, port, ⟨slot, whole, slavePort, phase, link, resting⟩, rfl, rfl⟩

def carrierOf (id : BitVec 32) (address : Address) (size : BitVec 8) (mode : BurstMode)
    (data : List Data) : AddressBeat :=
  { AddressBeat.incr id address size data.length with mode }

theorem writeBurst_eq (id : BitVec 32) (address : Address) (size : BitVec 8) (mode : BurstMode)
    {data : List Data} (length : data.length ≤ Split.maxBeats) (busBytes : Nat) :
    Op.writeBurst id address size mode data busBytes =
      .write (carrierOf id address size mode data)
        (data.mapIdx (Op.writeBeat (carrierOf id address size mode data) busBytes
          data.length)) := by
  unfold Op.writeBurst
  rw [List.take_of_length_le length]
  rfl

theorem words_served {isServed : Address → Prop} {map : AddressMap} {bridge : Inbound}
    {burst : AddressBeat} {beat : Nat}
    (fits : (Span.of bridge.conversion bridge.origin burst beat).Fits)
    (owned : ∀ word : Address, bridge.conversion.simpleBytes ∣ word.toNat →
      map.decode word = some slave.id → isServed word)
    (reached : ∀ word ∈ bridge.planBeat burst beat, map.decode word.address = some slave.id) :
    ∀ word ∈ (Span.of bridge.conversion bridge.origin burst beat).words,
      isServed word ∧ map.decode word = some slave.id := by
  intro word listed
  have decoded : map.decode word = some slave.id := by
    apply reached ((Span.of bridge.conversion bridge.origin burst beat).lanesOf word)
    rw [Inbound.planBeat_eq rfl rfl fits]
    exact List.mem_map_of_mem listed
  have along : bridge.conversion.simpleBytes ∣ word.toNat := by
    obtain ⟨index, _, rfl⟩ := Span.mem_words.mp listed
    exact Address.dvd_alignDown _ fits.simple
  exact ⟨owned word along decoded, decoded⟩

/-- After whatever finished traffic, a write burst and a read burst over the same addresses return
the data that was written, each datum cut to the size of a beat. The run of both ends idle and
without a fault, and more traffic may follow. A limit of cycles must leave room for both; a limit of
time above zero is never exceeded, as the clock of `Fabric.run` stands still. -/
theorem burst_reads_back {script : Master} {bridge : Inbound} {size : BitVec 8} {mode : BurstMode}
    {data : List Data} (pair : IsPair config master slave) (built : build config = .ok start)
    (settled : fabric.pristine = start)
    (played : fabric.splitMaster? master.id = some (script, bridge))
    (based : master.wordBytes ∣ (master.base.getD 0).toNat)
    (narrow : 1 <<< size.toNat ≤ master.wordBytes)
    (length : 1 ≤ data.length ∧ data.length ≤ Split.maxBeats)
    (legal : mode = .incr ∨ mode = .wrap ∧ data.length ∈ [2, 4, 8, 16])
    (writeId readId : BitVec 32) (address : Address)
    (reached : ∀ beat < data.length,
      ∀ word ∈ bridge.planBeat (carrierOf writeId address size mode data) beat,
        fabric.map.decode word.address = some slave.id) :
    ∃ middle ready final cycles written read,
      fabric.pushSplit master.id
        (.writeBurst writeId address size mode data master.wordBytes) = .ok middle ∧
      middle.pushSplit master.id (.readBurst readId address size mode data.length) = .ok ready ∧
      (∀ limits : Limits, limits.milliseconds ≠ some 0 →
        fabric.cycle + cycles ≤ limits.cycles.getD UInt64.size →
          ready.run limits = (final, .idle)) ∧
      final.faults = fabric.faults ∧
      final.splitMaster? master.id = some
        ({ script with
            completions := (script.completions.push (.write writeId .okay written)).push
              (.read readId (data.map (·.truncate (1 <<< size.toNat))) .okay read) },
          { bridge with preferRead := false }) ∧
      final.pristine = start := by
  obtain ⟨script', bridge', lane, isServed, place, rests, bytes, awaits, store, apart, owned,
    ⟨first, rigid⟩, port, between⟩ := between_of_pristine pair built settled
  have master? := between.splitMaster?
  rw [port, played, Option.some.injEq, Prod.mk.injEq] at master?
  obtain ⟨rfl, rfl⟩ := master?
  have sized : (carrierOf writeId address size mode data).size.toNat ≤
      bridge.conversion.splitBytes.log2 := awaits.size_le narrow
  have beats : (carrierOf writeId address size mode data).beats = data.length :=
    AddressBeat.beats_incr writeId address size length.1 length.2
  have beatBytes : (carrierOf writeId address size mode data).beatBytes = 1 <<< size.toNat :=
    AddressBeat.beatBytes_eq (Nat.le_trans sized awaits.regular.splitWidth.log2_eq.2)
  have origin : bridge.conversion.splitBytes ∣ bridge.origin.toNat := by
    rw [awaits.splitBytes, awaits.origin]
    exact based
  have fits := Span.of_fits awaits.regular awaits.inward bridge.origin sized
  -- both operations are pushed
  obtain ⟨middle, ready, pushed, pushed', sameCycle, fixed, loaded⟩ :=
    between.push_both awaits.queue
      (Op.writeBurst writeId address size mode data master.wordBytes)
      (Op.readBurst readId address size mode data.length)
  rw [port] at pushed pushed'
  rw [← awaits.resting, writeBurst_eq writeId address size mode length.2, ← awaits.busBytes]
    at loaded
  -- both are carried out
  obtain ⟨count, plays, written, read, after, done⟩ := loaded.round_trip store apart
    awaits.regular awaits.inward awaits.full origin sized (by rw [beats]; exact legal)
    (fun beat inside => words_served (fits beat) owned (reached beat (beats ▸ inside)))
    beats.symm readId awaits.clear (awaits.busBytes.trans awaits.splitBytes.symm)
    awaits.current rfl
  have clear := awaits.clear.prefer false
  rw [← ticks_succ] at done
  have idle := done.isIdle store clear rfl
  rw [awaits.turned] at done
  have final := done.splitMaster?
  rw [port, beatBytes] at final
  have record := congrArg (fun ended : Master => { ended with
    completions := (script.completions.push (.write writeId .okay written)).push
      (.read readId (data.map (Data.truncate · (1 <<< size.toNat))) .okay read) }) awaits.played
  refine ⟨middle, ready, ready.ticks (count + 1), count + 1, written, read, pushed, pushed', ?_,
    done.faults, ?_, ?_⟩
  · intro limits timed room
    rw [← sameCycle] at room
    exact run_idle plays idle timed room
  · rw [← record]
    exact final
  · rw [← settled]
    have kept := (fixtures_ticks ready (count + 1)).trans fixed
    refine between.pristine_eq rigid done ?_ kept
    unfold MasterAgent.pristine
    dsimp only
    rw [← awaits.played]

/-- A 128-bit master and a 64-bit memory, over a bus of 32 bits. -/
def narrowingConfig : Config where
  ports :=
    [{ id := ⟨2⟩, name := "ram", protocol := .wideSplit, role := .slave, dataWidth := 64,
       addressWidth := 32, base := some 0x1000, size := some 0x1000 },
     { id := ⟨1⟩, name := "dma", protocol := .wideSplit, role := .master, dataWidth := 128,
       addressWidth := 32 }]

/-- The fabric after some traffic: its clock has moved on and its memories hold a byte. -/
def used (fabric : Fabric) : Fabric :=
  { fabric with
    cycle := 40
    crossbar := { fabric.crossbar with
      slots := fabric.crossbar.slots.map fun slot => { slot with
        agent := match slot.agent with
          | .split bridge link ram =>
            .split { bridge with nextId := 3 } link
              { ram with memory := ram.memory.writeByte 4 0xAB }
          | .device endpoint => .device endpoint } } }

/-- Four words that wrap inside a word of the master, from an address that is not aligned. -/
theorem wrapped_burst_reads_back :
    ∃ start script bridge, build narrowingConfig = .ok start ∧ start.used.pristine = start ∧
      (start.used.ram? ⟨2⟩).map (fun ram => ram.memory.readByte 4) = some 0xAB ∧
      start.used.splitMaster? ⟨1⟩ = some (script, bridge) ∧
      (∀ beat < 4,
        ∀ word ∈ bridge.planBeat (carrierOf 7 0x406 2 .wrap [0x1122334455, 2, 3, 4]) beat,
          start.used.map.decode word.address = some ⟨2⟩) ∧
      ∃ middle ready final cycles written read,
        start.used.pushSplit ⟨1⟩ (.writeBurst 7 0x406 2 .wrap [0x1122334455, 2, 3, 4] 16) =
          .ok middle ∧
        middle.pushSplit ⟨1⟩ (.readBurst 8 0x406 2 .wrap 4) = .ok ready ∧
        (∀ limits : Limits, limits.milliseconds ≠ some 0 →
          start.used.cycle + cycles ≤ limits.cycles.getD UInt64.size →
            ready.run limits = (final, .idle)) ∧
        final.faults = start.used.faults ∧
        final.splitMaster? ⟨1⟩ = some
          ({ script with
              completions := (script.completions.push (.write 7 .okay written)).push
                (.read 8 [0x22334455, 2, 3, 4] .okay read) },
            { bridge with preferRead := false }) ∧
        final.pristine = start := by
  have built : build narrowingConfig = .ok _ := rfl
  have pair : IsPair narrowingConfig
      { id := ⟨1⟩, name := "dma", protocol := .wideSplit, role := .master, dataWidth := 128,
        addressWidth := 32 }
      { id := ⟨2⟩, name := "ram", protocol := .wideSplit, role := .slave, dataWidth := 64,
        addressWidth := 32, base := some 0x1000, size := some 0x1000 } :=
    ⟨.inr rfl, rfl, rfl, rfl, .inr rfl⟩
  have reached : ∀ beat < 4, ∀ word ∈ Inbound.planBeat
      { port := ⟨1⟩, conversion := ⟨.wideSplit, 128, .simpleSync, 32⟩, origin := 0 }
      (carrierOf 7 0x406 2 .wrap [0x1122334455, 2, 3, 4]) beat,
        (AddressMap.mk [⟨"ram", 0x1000, 0x1000, ⟨2⟩, 64⟩] true).decode word.address =
          some ⟨2⟩ := by
    decide +kernel
  have byte : (({} : Memory).writeByte 4 0xAB).readByte 4 = 0xAB := by
    rw [Memory.readByte_writeByte]
    rfl
  exact ⟨_, _, _, built, rfl, congrArg some byte, rfl, reached,
    burst_reads_back pair built rfl rfl (by decide) (by decide) (by decide)
      (.inr ⟨rfl, by decide⟩) 7 8 0x406 reached⟩

end

end BusFabric.Fabric
