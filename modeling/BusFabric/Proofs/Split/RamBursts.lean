import BusFabric.Proofs.Memory.History
import BusFabric.Proofs.Split.RamReads
import BusFabric.Proofs.Split.RamWrites

set_option autoImplicit false

namespace BusFabric.Split.Ram

variable {site : Site} {log : Log} {memory : Memory} {busBytes latency : Nat}

/-- The memory and its link between the two halves of a cycle. -/
def Site.written (site : Site) : Ram × Link :=
  site.ram.tickWrite site.link

theorem Log.act_tick (log : Log) (site : Site) :
    log.act site .tick =
      { cycles := log.cycles + 1
        writes := log.writes.observe site.link site.written.2
        reads := log.reads.observe log.cycles site.written.1.memory site.written.2
          site.tick.link } := by
  have reads := tickWrite_keepsReads site.ram site.link
  have writes := tickRead_keepsWrites site.written.1 site.written.2
  unfold Log.act WriteLog.observe ReadLog.observe
  have ramMemory : site.tick.ram.memory = site.written.1.memory := writes.memory
  have writeAddress : site.tick.link.writeAddress = site.written.2.writeAddress :=
    writes.writeAddress
  have writeData : site.tick.link.writeData = site.written.2.writeData := writes.writeData
  have writeResponse : site.tick.link.writeResponse = site.written.2.writeResponse :=
    writes.writeResponse
  have readAddress : site.written.2.readAddress = site.link.readAddress := reads.readAddress
  have readData : site.written.2.readData = site.link.readData := reads.readData
  rw [ramMemory, writeAddress, writeData, writeResponse, readAddress, readData]

/-- A log fits a memory and its link. -/
structure Log.Sound (log : Log) (memory : Memory) (busBytes latency : Nat) (site : Site) :
    Prop where
  busBytes : site.ram.busBytes = busBytes
  latency : site.ram.latency = latency
  writes : log.writes.Sound memory site.ram
  reads : log.reads.Sound site.ram
  responses : log.writes.received ++ site.link.writeResponse.beat.toList = log.writes.responses
  beats : log.reads.received ++ site.link.readData.beat.toList = log.reads.deliveries.map (·.beat)

theorem WriteLog.Sound.congr {log : WriteLog} {before after : Ram} (sound : log.Sound memory before)
    (busBytes : after.busBytes = before.busBytes) (same : after.memory = before.memory)
    (write : after.write = before.write) (owed : after.owed = before.owed) :
    log.Sound memory after :=
  ⟨write ▸ sound.underway, same.trans (busBytes ▸ sound.memory), owed ▸ sound.responses⟩

theorem ReadLog.Sound.congr {log : ReadLog} {before after : Ram} (sound : log.Sound before)
    (busBytes : after.busBytes = before.busBytes) (latency : after.latency = before.latency)
    (read : after.read = before.read) (waited : after.waited = before.waited) : log.Sound after :=
  ⟨read ▸ sound.underway, waited ▸ latency ▸ sound.waited, busBytes ▸ sound.deliveries⟩

theorem Log.Sound.tick (sound : log.Sound memory busBytes latency site) :
    (log.act site .tick).Sound memory busBytes latency site.tick := by
  have frame := tickWrite_keepsReads site.ram site.link
  have frame' := tickRead_keepsWrites site.written.1 site.written.2
  rw [log.act_tick]
  constructor
  case busBytes => exact (frame'.busBytes.trans frame.busBytes).trans sound.busBytes
  case latency => exact (frame'.latency.trans frame.latency).trans sound.latency
  case writes =>
    exact sound.writes.tickWrite.congr frame'.busBytes frame'.memory frame'.write frame'.owed
  case reads =>
    exact (sound.reads.congr frame.busBytes frame.latency frame.read frame.waited).tickRead
  case responses =>
    have sends := Channel.driven?_of_sender (site.ram.tickWrite_writeResponse site.link)
    have same : site.tick.link.writeResponse = site.written.2.writeResponse :=
      frame'.writeResponse
    show log.writes.received ++ site.tick.link.writeResponse.beat.toList = log.writes.responses ++
      (site.link.writeResponse.driven? site.written.2.writeResponse).toList
    rw [same, ← sound.responses, List.append_assoc]
    exact congrArg (log.writes.received ++ ·) sends.symm
  case beats =>
    have sends := Channel.driven?_of_sender (site.written.1.tickRead_readData site.written.2)
    have same : site.written.2.readData = site.link.readData := frame.readData
    rw [same] at sends
    show log.reads.received ++ site.tick.link.readData.beat.toList =
      (log.reads.deliveries ++ (site.written.2.readData.driven? site.tick.link.readData).toList.map
        (Delivery.mk log.cycles · site.written.1.memory)).map Delivery.beat
    rw [List.map_append, ← sound.beats, List.map_map, same, List.append_assoc]
    refine congrArg (log.reads.received ++ ·) (sends.symm.trans ?_)
    exact congrArg (site.link.readData.beat.toList ++ ·) (List.map_id _).symm

/-- What the master does keeps the log in step, too. -/
theorem Log.Sound.act (sound : log.Sound memory busBytes latency site) (move : Move) :
    (log.act site move).Sound memory busBytes latency (site.act move) := by
  cases move with
  | tick => exact sound.tick
  | sendWriteAddress | sendWriteData | sendReadAddress =>
    exact ⟨sound.busBytes, sound.latency, sound.writes, sound.reads, sound.responses, sound.beats⟩
  | takeWriteResponse =>
    have writes := sound.writes
    refine ⟨sound.busBytes, sound.latency, ⟨writes.underway, writes.memory, writes.responses⟩,
      sound.reads, ?_, sound.beats⟩
    exact (List.append_nil _).trans sound.responses
  | takeReadData =>
    have reads := sound.reads
    refine ⟨sound.busBytes, sound.latency, sound.writes,
      ⟨reads.underway, reads.waited, reads.deliveries⟩, sound.responses, ?_⟩
    exact (List.append_nil _).trans sound.beats

theorem Log.Sound.play (sound : log.Sound memory busBytes latency site) (moves : List Move) :
    (site.play log moves).2.Sound memory busBytes latency (site.play log moves).1 := by
  induction moves generalizing site log with
  | nil => exact sound
  | cons move moves ih => exact ih (sound.act move)

theorem Log.Sound.fresh (name : String) (busBytes latency : Nat) (memory : Memory) :
    Log.Sound {} memory busBytes latency (Site.fresh name busBytes latency memory) where
  busBytes := rfl
  latency := rfl
  writes := ⟨.rests [], rfl, rfl⟩
  reads := ⟨.rests [], Nat.zero_le _, nofun⟩
  responses := rfl
  beats := rfl

theorem Log.Sound.writes_accounts (sound : log.Sound memory busBytes latency site) :
    log.writes.Accounts memory busBytes site where
  memory := sound.busBytes ▸ sound.writes.memory
  within := sound.writes.underway.length_le
  single := sound.writes.underway.length_le_completed
  responses := sound.writes.responses
  received := sound.responses

theorem Log.Sound.reads_accounts (sound : log.Sound memory busBytes latency site) :
    log.reads.Accounts busBytes site where
  deliveries := sound.busBytes ▸ sound.reads.deliveries
  single := sound.reads.underway.length_le_completed
  received := sound.beats

/-- Of a log it can be seen whether the memory has a response that it cannot drive. -/
theorem WriteLog.Sound.free {log : WriteLog} (sound : log.Sound memory site.ram)
    (unblocked : log.IsUnblocked site) :
    site.ram.owed = none ∨ site.link.writeResponse.beat = none := by
  rcases unblocked with ready | all
  · exact .inr (Option.isNone_iff_eq_none.mp ready)
  · have due := congrArg List.length sound.responses
    rw [List.length_append, List.length_map, all] at due
    exact .inl (Option.toList_eq_nil_iff.mp (List.length_eq_zero_iff.mp (by omega)))

theorem Log.Sound.proceeds (sound : log.Sound memory busBytes latency site) :
    log.Proceeds site where
  writeAddress := by
    intro unblocked all
    have rests := sound.writes.underway.eq_none_of_length all
    have taken : site.written.2.writeAddress = site.link.writeAddress.clear :=
      tickWrite_writeAddress (sound.writes.free unblocked) rests
    rw [log.act_tick]
    unfold WriteLog.observe
    dsimp only
    rw [taken, Channel.taken?_clear]
  writeData := by
    intro unblocked some_
    have goes : site.ram.write ≠ none ∨ site.link.writeAddress.isValid := by
      refine some_.imp_left fun left => ?_
      obtain ⟨progress, works⟩ := sound.writes.underway.exists_of_lt left
      rw [works]
      exact Option.some_ne_none progress
    have taken : site.written.2.writeData = site.link.writeData.clear :=
      tickWrite_writeData (sound.writes.free unblocked) goes
    rw [log.act_tick]
    unfold WriteLog.observe
    dsimp only
    rw [taken, Channel.taken?_clear]
  readAddress := by
    intro all
    have frame := tickWrite_keepsReads site.ram site.link
    have rests : site.written.1.read = none :=
      frame.read.trans (sound.reads.underway.eq_none_of_length all)
    have taken : site.tick.link.readAddress = site.written.2.readAddress.clear :=
      tickRead_readAddress rests
    have same : site.written.2.readAddress = site.link.readAddress := frame.readAddress
    rw [log.act_tick]
    unfold ReadLog.observe
    dsimp only
    rw [taken, Channel.taken?_clear, same]

structure Log.Grows (before after : Log) : Prop where
  responses : before.writes.responses <+: after.writes.responses
  bursts : before.reads.bursts <+: after.reads.bursts
  deliveries : before.reads.deliveries <+: after.reads.deliveries

theorem Log.Grows.trans {first second third : Log} (before : first.Grows second)
    (after : second.Grows third) : first.Grows third :=
  ⟨before.responses.trans after.responses, before.bursts.trans after.bursts,
    before.deliveries.trans after.deliveries⟩

theorem Log.grows_act (log : Log) (site : Site) (move : Move) : log.Grows (log.act site move) := by
  cases move with
  | tick => exact ⟨List.prefix_append _ _, List.prefix_append _ _, List.prefix_append _ _⟩
  | _ => exact ⟨List.prefix_refl _, List.prefix_refl _, List.prefix_refl _⟩

theorem Log.grows_play (log : Log) (site : Site) (moves : List Move) :
    log.Grows (site.play log moves).2 := by
  induction moves generalizing site log with
  | nil => exact ⟨List.prefix_refl _, List.prefix_refl _, List.prefix_refl _⟩
  | cons move moves ih => exact (log.grows_act site move).trans (ih _ _)

theorem Site.cyclesWith_tick (site : Site) (finds : Link → Bool) (moves : List Move) :
    site.cyclesWith finds (.tick :: moves) =
      (if finds site.link then 1 else 0) + site.tick.cyclesWith finds moves := by
  rw [cyclesWith]
  simp only [true_and]
  rfl

theorem Site.cyclesWith_of_ne (site : Site) (finds : Link → Bool) {move : Move}
    (other : move ≠ .tick) (moves : List Move) :
    site.cyclesWith finds (move :: moves) = (site.act move).cyclesWith finds moves := by
  rw [cyclesWith, if_neg (fun both => other both.1), Nat.zero_add]

/-- No response that is due is forgotten, and a cycle that finds the channel free drives it. -/
theorem Log.responses_tick (log : Log) (site : Site) :
    log.writes.responses ++ site.ram.owed.toList <+:
        (log.act site .tick).writes.responses ++ site.tick.ram.owed.toList ∧
      (site.link.writeResponse.isReady →
        log.writes.responses ++ site.ram.owed.toList <+:
          (log.act site .tick).writes.responses) := by
  have frame : site.tick.ram.owed = site.written.1.owed :=
    (tickRead_keepsWrites site.written.1 site.written.2).owed
  rw [log.act_tick, frame]
  exact log.writes.responses_prefix site.ram site.link

theorem Log.answered_play {count : Nat}
    (due : count ≤ (log.writes.responses ++ site.ram.owed.toList).length) {moves : List Move}
    (free : 1 ≤ site.cyclesWith (·.writeResponse.isReady) moves) :
    count ≤ (site.play log moves).2.writes.responses.length := by
  induction moves generalizing site log with
  | nil => exact absurd free (Nat.not_succ_le_zero 0)
  | cons move moves ih =>
    cases move with
    | tick =>
      obtain ⟨kept, driven⟩ := log.responses_tick site
      rw [site.cyclesWith_tick] at free
      cases ready : site.link.writeResponse.isReady with
      | true =>
        have later := ((log.act site .tick).grows_play site.tick moves).responses
        exact Nat.le_trans due ((driven ready).trans later).length_le
      | false =>
        rw [ready, if_neg Bool.false_ne_true, Nat.zero_add] at free
        exact ih (Nat.le_trans due kept.length_le) free
    | _ =>
      rw [site.cyclesWith_of_ne _ (by simp)] at free
      exact ih due free

theorem Log.Sound.gains (sound : log.Sound memory busBytes latency site)
    (unfinished : log.reads.deliveries.length < (spots log.reads.bursts).length) :
    log.reads.score site.ram + (if site.link.readData.isReady then 1 else 0) ≤
      (log.act site .tick).reads.score site.tick.ram := by
  have frame := tickWrite_keepsReads site.ram site.link
  have same : log.reads.score site.written.1 = log.reads.score site.ram := by
    unfold ReadLog.score
    rw [show site.written.1.latency = site.ram.latency from frame.latency,
      show site.written.1.waited = site.ram.waited from frame.waited]
  have data : site.written.2.readData = site.link.readData := frame.readData
  rw [log.act_tick, ← same, ← data]
  exact (sound.reads.congr frame.busBytes frame.latency frame.read frame.waited).gains unfinished

/-- The read beats that are due are driven within as many cycles that find their channel free as
they take, each with its wait. -/
theorem Log.Sound.delivered_play {count : Nat} (sound : log.Sound memory busBytes latency site)
    (within : count ≤ (spots log.reads.bursts).length) {moves : List Move}
    (enough : count * (latency + 1) ≤
      log.reads.score site.ram + site.cyclesWith (·.readData.isReady) moves) :
    count ≤ (site.play log moves).2.reads.deliveries.length := by
  -- by the moves: as long as beats are missing, the score grows with the cycles that are used up
  induction moves generalizing site log with
  | nil =>
    have bound := sound.reads.waited
    unfold ReadLog.score Site.cyclesWith at enough
    rw [sound.latency] at bound enough
    have below : count * (latency + 1) <
        (log.reads.deliveries.length + 1) * (latency + 1) := by
      rw [Nat.add_mul]
      omega
    exact Nat.le_of_lt_succ (Nat.lt_of_mul_lt_mul_right below)
  | cons move moves ih =>
    by_cases done : count ≤ log.reads.deliveries.length
    · exact Nat.le_trans done (log.grows_play site (move :: moves)).deliveries.length_le
    · have more := (log.grows_act site move).bursts
      have within' : count ≤ (spots (log.act site move).reads.bursts).length := by
        obtain ⟨rest, same⟩ := more
        rw [← same, spots_append, List.length_append]
        exact Nat.le_trans within (Nat.le_add_right _ _)
      refine ih (sound.act move) within' ?_
      by_cases ticks : move = .tick
      · subst ticks
        have gains := sound.gains (by omega)
        rw [site.cyclesWith_tick, ← Nat.add_assoc] at enough
        exact Nat.le_trans enough (Nat.add_le_add_right gains _)
      · rw [site.cyclesWith_of_ne _ ticks] at enough
        cases move with
        | tick => exact absurd rfl ticks
        | _ => exact enough

/-- Two memories with their logs agree on the reads, but for the data. -/
structure Alike (first second : Site × Log) : Prop where
  channels : ReadAlike (first.1.ram, first.1.link) (second.1.ram, second.1.link)
  cycles : first.2.cycles = second.2.cycles
  marks : first.2.reads.deliveries.map (·.mark) = second.2.reads.deliveries.map (·.mark)

/-- The master does not disturb the reads through a write channel. -/
theorem Alike.act_write {first second : Site × Log} (alike : Alike first second) {move : Move}
    (write : move.isWrite = true) : Alike (first.1.act move, first.2.act first.1 move) second := by
  cases move with
  | sendWriteAddress | sendWriteData | takeWriteResponse =>
    exact ⟨⟨alike.channels.latency, alike.channels.read, alike.channels.waited,
      alike.channels.readAddress, alike.channels.readData⟩, alike.cycles, alike.marks⟩
  | _ => cases write

theorem Alike.tick {first second : Site × Log} (alike : Alike first second) :
    Alike (first.1.tick, first.2.act first.1 .tick)
      (second.1.tick, second.2.act second.1 .tick) := by
  have frame := tickWrite_keepsReads first.1.ram first.1.link
  have frame' := tickWrite_keepsReads second.1.ram second.1.link
  have channels := alike.channels
  have written : ReadAlike first.1.written second.1.written :=
    ⟨frame.latency.trans (channels.latency.trans frame'.latency.symm),
      frame.read.trans (channels.read.trans frame'.read.symm),
      frame.waited.trans (channels.waited.trans frame'.waited.symm),
      frame.readAddress.trans (channels.readAddress.trans frame'.readAddress.symm),
      (congrArg Channel.isReady frame.readData).trans
        (channels.readData.trans (congrArg Channel.isReady frame'.readData).symm)⟩
  obtain ⟨ticked, driven⟩ := written.tickRead
  refine ⟨ticked, congrArg (· + 1) alike.cycles, ?_⟩
  rw [first.2.act_tick, second.2.act_tick, ReadLog.marks_observe, ReadLog.marks_observe,
    alike.marks, alike.cycles]
  have seen : drivenMark? first.1.written.2 first.1.tick.link =
      drivenMark? second.1.written.2 second.1.tick.link := driven
  rw [seen]

theorem Alike.act_read {first second : Site × Log} (alike : Alike first second) {move : Move}
    (read : move.isWrite = false) :
    Alike (first.1.act move, first.2.act first.1 move)
      (second.1.act move, second.2.act second.1 move) := by
  cases move with
  | tick => exact alike.tick
  | sendReadAddress burst =>
    refine ⟨⟨alike.channels.latency, alike.channels.read, alike.channels.waited, ?_,
      alike.channels.readData⟩, alike.cycles, alike.marks⟩
    exact congrArg (fun channel => (channel.send? burst).getD channel) alike.channels.readAddress
  | takeReadData =>
    exact ⟨⟨alike.channels.latency, alike.channels.read, alike.channels.waited,
      alike.channels.readAddress, rfl⟩, alike.cycles, alike.marks⟩
  | _ => cases read

theorem Alike.play {first second : Site × Log} (alike : Alike first second) (moves : List Move) :
    Alike (first.1.play first.2 moves) (second.1.play second.2 (moves.filter (!·.isWrite))) := by
  induction moves generalizing first second with
  | nil => exact alike
  | cons move moves ih =>
    cases write : move.isWrite with
    | true =>
      rw [List.filter_cons_of_neg (by rw [write]; decide)]
      exact ih (alike.act_write write)
    | false =>
      rw [List.filter_cons_of_pos (by rw [write]; decide)]
      exact ih (alike.act_read write)

theorem Alike.fresh (name : String) (busBytes latency : Nat) (memory other : Memory) :
    Alike (Site.fresh name busBytes latency memory, {}) (Site.fresh name busBytes latency other, {})
    where
  channels := ⟨rfl, rfl, rfl, rfl, rfl⟩
  cycles := rfl
  marks := rfl

theorem Log.Sound.finishes (sound : log.Sound memory busBytes latency site) :
    log.Finishes latency site where
  writes := by
    intro later free
    refine Log.answered_play (Nat.le_of_eq ?_) free
    rw [sound.writes.responses, List.length_map]
  reads := by
    intro later enough
    refine sound.delivered_play (Nat.le_refl _) ?_
    have within := sound.reads.underway.length_le
    obtain ⟨left, all⟩ := Nat.exists_eq_add_of_le within
    rw [all, Nat.add_sub_cancel_left] at enough
    rw [all, Nat.add_mul]
    unfold ReadLog.score
    rw [sound.latency]
    omega

/-- The writes that data make of a memory, each at the place of its beat. -/
def stores (busBytes : Nat) (bursts : List AddressBeat) (data : List WriteBeat) :
    List Memory.Call :=
  ((spots bursts).zip data).map fun (spot, beat) =>
    .writeWord (spot.word busBytes) beat.data beat.strobe busBytes

theorem filled_eq_foldl (memory : Memory) (busBytes : Nat) (bursts : List AddressBeat)
    (data : List WriteBeat) :
    filled memory busBytes bursts data =
      (stores busBytes bursts data).foldl Memory.afterCall memory := by
  unfold filled stores
  rw [List.foldl_map]
  rfl

/-- A word of the bus has no more lanes than a strobe has bits, and ends inside the address space.
-/
theorem fits_of_mem_stores (positive : 0 < busBytes) (narrow : busBytes ≤ 16)
    {bursts : List AddressBeat} {data : List WriteBeat} {call : Memory.Call}
    (member : call ∈ stores busBytes bursts data) : call.Fits := by
  obtain ⟨⟨spot, beat⟩, _, rfl⟩ := List.mem_map.mp member
  have size : UInt64.size = 2 ^ 64 := rfl
  exact ⟨narrow, Address.alignDown_add_le _ positive (by omega)⟩

theorem readByte_filled (positive : 0 < busBytes) (narrow : busBytes ≤ 16) (memory : Memory)
    (bursts : List AddressBeat) (data : List WriteBeat) (address : Address) :
    (filled memory busBytes bursts data).readByte address =
      (Memory.latest? (stores busBytes bursts data) address).getD (memory.readByte address) := by
  rw [filled_eq_foldl]
  exact Memory.readByte_foldl_afterCall (fun _ => fits_of_mem_stores positive narrow) memory address

/-- A memory serves every burst, whatever its master does. It holds what was written to it, and so
each of its bytes is the one that the latest data brought for the byte's address. Each write burst
whose data it has is answered once and in order, and each read burst that it took yields its beats
in order, as the memory stands when they are driven. It goes on with what waits, and all that is due
is driven in the end. When the read beats are driven, and all about them but their data, is the same
without any write. The bus has a byte at least, and no more lanes than a strobe has bits. -/
theorem bursts_are_served (name : String) {busBytes : Nat} (positive : 0 < busBytes)
    (narrow : busBytes ≤ 16) (latency : Nat) (memory : Memory) (moves : List Move) :
    let (site, log) := (Site.fresh name busBytes latency memory).play {} moves
    log.writes.Accounts memory busBytes site ∧
      (∀ address, site.ram.memory.readByte address =
        (Memory.latest? (stores busBytes log.writes.bursts log.writes.data) address).getD
          (memory.readByte address)) ∧
      log.reads.Accounts busBytes site ∧
      log.Proceeds site ∧ log.Finishes latency site ∧
      ∀ (other : Memory) (moves' : List Move),
        moves'.filter (!·.isWrite) = moves.filter (!·.isWrite) →
        ((Site.fresh name busBytes latency other).play {} moves').2.reads.deliveries.map (·.mark) =
          log.reads.deliveries.map (·.mark) := by
  have sound := (Log.Sound.fresh name busBytes latency memory).play moves
  have writes := sound.writes_accounts
  refine ⟨writes, fun address => ?_, sound.reads_accounts, sound.proceeds, sound.finishes,
    fun other moves' same => ?_⟩
  · rw [writes.memory]
    exact readByte_filled positive narrow memory _ _ address
  -- both runs are like the one without any write
  have first := (Alike.fresh name busBytes latency other memory).play moves'
  have second := (Alike.fresh name busBytes latency memory memory).play moves
  rw [same] at first
  exact first.marks.trans second.marks.symm

/-- Two bursts of data and one that is read, with a read beat and a response that the master leaves
in their channels for a while. -/
def sampleMoves : List Move :=
  [.sendWriteAddress (.incr 4 0x100 3 2), .sendReadAddress (.incr 5 0x100 3 2),
    .sendWriteData ⟨0x1111, 0xff, false⟩, .tick, .sendWriteData ⟨0x2222, 0x03, true⟩, .tick,
    .sendWriteAddress (.single 6 0x108 3), .sendWriteData ⟨0x3333, 0xff, true⟩, .tick, .tick,
    .takeReadData, .tick, .takeWriteResponse, .tick]

/-- The second beat of the read waits for the first to be taken, and then finds what another burst
stored meanwhile. The response of that burst waits for the one before it. -/
theorem held_beat_finds_later_data :
    let (site, log) := (Site.fresh "ram" 8 1 {}).play {} sampleMoves
    0 < 8 ∧ 8 ≤ 16 ∧ site.ram.memory.readByte 0x100 = 0x11 ∧
      site.ram.memory.readByte 0x109 = 0x33 ∧
      log.writes.responses ++ site.ram.owed.toList = [⟨4, .okay⟩, ⟨6, .okay⟩] ∧
      log.reads.deliveries.map (·.mark) = [(1, 5, false), (4, 5, true)] ∧
      log.reads.deliveries.map (·.beat.data) = [0x1111, 0x3333] := by
  obtain ⟨writes, bytes, _⟩ :=
    bursts_are_served "ram" (by decide : 0 < 8) (by decide : 8 ≤ 16) 1 {} sampleMoves
  refine ⟨by decide, by decide, ?_, ?_, ?_, by decide, by decide⟩
  · exact bytes 0x100
  · exact bytes 0x109
  · exact writes.responses

end BusFabric.Split.Ram
