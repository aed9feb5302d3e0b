import BusFabric.Proofs.Bridge.OutboundPlan
import BusFabric.Proofs.Fabric.Service

set_option autoImplicit false

namespace BusFabric

open Simple (Request Response)
open Split (AddressBeat Progress Ram ReadBeat WriteBeat WriteResponse)

namespace Bridge.Outbound.Junction

variable {bridge : Outbound} {carrier : Carrier} {request : Request}

/-- Without a request that waits, nothing happens. -/
theorem tick_rest (running : bridge.isHalted = false) (idle : bridge.active = none)
    {link : Simple.Link} (settled : link.awaiting? = none) (cycle : Nat) :
    Junction.tick ⟨bridge, link, {}⟩ cycle = (⟨bridge, link, {}⟩, none) := by
  unfold tick step unexpected? accept
  simp [running, idle, settled, Split.Channel.isValid]

/-- A write is taken up: its address and its first beat are sent. -/
theorem tick_write_begin (running : bridge.isHalted = false) (idle : bridge.active = none)
    (write : (bridge.plan request).write = true)
    (fresh : (bridge.plan request).addressSent = false) {beat : WriteBeat}
    {beats : List WriteBeat} (left : (bridge.plan request).beats = beat :: beats) (cycle : Nat) :
    Junction.tick ⟨bridge, .waiting request, {}⟩ cycle =
      (⟨{ bridge with
          active := some { bridge.plan request with addressSent := true, beats }
          nextId := bridge.nextId + 1 },
        .waiting request,
        { writeAddress := ⟨some (bridge.plan request).burst⟩, writeData := ⟨some beat⟩ }⟩,
        none) := by
  unfold tick step unexpected? accept Carrier.sendAddress advanceWrite Carrier.sendBeat
  simp [running, idle, write, fresh, left, Simple.Link.awaiting?, Split.Channel.isValid, keep]

theorem tick_write_next (running : bridge.isHalted = false) (active : bridge.active = some carrier)
    (write : carrier.write = true) (sent : carrier.addressSent = true) {beat : WriteBeat}
    {beats : List WriteBeat} (left : carrier.beats = beat :: beats) (cycle : Nat) :
    Junction.tick ⟨bridge, .waiting request, {}⟩ cycle =
      (⟨{ bridge with active := some { carrier with beats } }, .waiting request,
        { writeData := ⟨some beat⟩ }⟩, none) := by
  unfold tick step unexpected? accept Carrier.sendAddress advanceWrite Carrier.sendBeat
  simp [running, active, write, sent, left, Split.Channel.isValid, keep]

theorem tick_write_end (running : bridge.isHalted = false) (active : bridge.active = some carrier)
    (write : carrier.write = true) (sent : carrier.addressSent = true)
    (left : carrier.beats = []) (response : WriteResponse) (cycle : Nat) :
    Junction.tick ⟨bridge, .waiting request, { writeResponse := ⟨some response⟩ }⟩ cycle =
      (⟨{ bridge with active := none },
        .answered request ⟨0, !response.status.isOkay⟩, {}⟩, none) := by
  unfold tick step unexpected? accept Carrier.sendAddress advanceWrite Carrier.sendBeat
  simp [running, active, write, sent, left, Split.Channel.isValid, finish, Split.Channel.clear,
    Simple.Link.acknowledge, Simple.Link.acknowledge?]

/-- A read is taken up: its address is sent. -/
theorem tick_read_begin (running : bridge.isHalted = false) (idle : bridge.active = none)
    (read : (bridge.plan request).write = false)
    (fresh : (bridge.plan request).addressSent = false) (cycle : Nat) :
    Junction.tick ⟨bridge, .waiting request, {}⟩ cycle =
      (⟨{ bridge with
          active := some { bridge.plan request with addressSent := true }
          nextId := bridge.nextId + 1 },
        .waiting request, { readAddress := ⟨some (bridge.plan request).burst⟩ }⟩, none) := by
  unfold tick step unexpected? accept Carrier.sendAddress advanceRead
  simp [running, idle, read, fresh, Simple.Link.awaiting?, Split.Channel.isValid, keep]

theorem tick_read_wait (running : bridge.isHalted = false) (active : bridge.active = some carrier)
    (read : carrier.write = false) (sent : carrier.addressSent = true) (cycle : Nat) :
    Junction.tick ⟨bridge, .waiting request, {}⟩ cycle =
      (⟨bridge, .waiting request, {}⟩, none) := by
  obtain ⟨port, conversion, windowBase, nextId, _, _⟩ := bridge
  dsimp only at running active
  subst running active
  unfold tick step unexpected? accept Carrier.sendAddress advanceRead
  simp [read, sent, Split.Channel.isValid, keep]

theorem tick_read_next (running : bridge.isHalted = false) (active : bridge.active = some carrier)
    (read : carrier.write = false) (sent : carrier.addressSent = true) {beat : ReadBeat}
    (more : carrier.received + 1 < carrier.burst.beats) (unmarked : beat.last = false)
    (cycle : Nat) :
    Junction.tick ⟨bridge, .waiting request, { readData := ⟨some beat⟩ }⟩ cycle =
      (⟨{ bridge with
          active := some { carrier with
            received := carrier.received + 1
            status := carrier.status.merge beat.status
            data := carrier.gather beat } },
        .waiting request, {}⟩, none) := by
  have fewer : ¬ carrier.burst.beats < carrier.received + 1 := by omega
  have other : carrier.received + 1 ≠ carrier.burst.beats := by omega
  unfold tick step unexpected? accept Carrier.sendAddress advanceRead
  simp [running, active, read, sent, Split.Channel.isValid, keep, Split.Channel.clear, fewer,
    other, unmarked]

theorem tick_read_end (running : bridge.isHalted = false) (active : bridge.active = some carrier)
    (read : carrier.write = false) (sent : carrier.addressSent = true) {beat : ReadBeat}
    (last : carrier.received + 1 = carrier.burst.beats) (marked : beat.last = true)
    (cycle : Nat) :
    Junction.tick ⟨bridge, .waiting request, { readData := ⟨some beat⟩ }⟩ cycle =
      (⟨{ bridge with active := none },
        .answered request
          ⟨carrier.gather beat, !(carrier.status.merge beat.status).isOkay⟩, {}⟩, none) := by
  unfold tick step unexpected? accept Carrier.sendAddress advanceRead
  simp [running, active, read, sent, Split.Channel.isValid, finish, Split.Channel.clear, last,
    marked, Simple.Link.acknowledge, Simple.Link.acknowledge?]

end Bridge.Outbound.Junction

namespace Split.Ram

variable {ram : Ram} {burst : AddressBeat}

def stored (ram : Ram) (progress : Progress) (beat : WriteBeat) : Ram :=
  { ram with
    memory := ram.memory.writeWord (ram.wordAddress progress) beat.data beat.strobe ram.busBytes
    write := if progress.beat + 1 = progress.burst.beats then none
      else some { progress with beat := progress.beat + 1 }
    waited := 0 }

def storedLink (progress : Progress) : Link :=
  if progress.beat + 1 = progress.burst.beats then
    { writeResponse := ⟨some ⟨progress.burst.id, .okay⟩⟩ }
  else {}

structure IsAtRest (ram : Ram) : Prop where
  write : ram.write = none
  owed : ram.owed = none
  read : ram.read = none

theorem tick_rest (rest : ram.IsAtRest) : ram.tick {} = ({ ram with waited := 0 }, {}) := by
  unfold tick tickWrite respond acceptWrite storeBeat tickRead acceptRead driveBeat
  simp [rest.write, rest.owed, rest.read, Channel.settle, Channel.clear]

/-- The first data beat of a write comes with its address. -/
theorem tick_write_begin (rest : ram.IsAtRest) (beat : WriteBeat) :
    ram.tick { writeAddress := ⟨some burst⟩, writeData := ⟨some beat⟩ } =
      (ram.stored { burst } beat, storedLink { burst }) := by
  unfold tick tickWrite respond acceptWrite storeBeat tickRead acceptRead driveBeat stored
    storedLink
  by_cases last : 0 + 1 = burst.beats
  · simp [rest.write, rest.owed, rest.read, Channel.settle, Channel.clear, ← last, respond,
      wordAddress]
  · simp [rest.write, rest.owed, rest.read, Channel.settle, Channel.clear, last, wordAddress]

theorem tick_write_next {progress : Progress} (write : ram.write = some progress)
    (owed : ram.owed = none) (read : ram.read = none) (beat : WriteBeat) :
    ram.tick { writeData := ⟨some beat⟩ } = (ram.stored progress beat, storedLink progress) := by
  unfold tick tickWrite respond acceptWrite storeBeat tickRead acceptRead driveBeat stored
    storedLink
  by_cases last : progress.beat + 1 = progress.burst.beats
  · simp [write, owed, read, Channel.settle, Channel.clear, last, respond, wordAddress]
  · simp [write, owed, read, Channel.settle, Channel.clear, last, wordAddress]

def driven (ram : Ram) (progress : Progress) (waited : Nat) : Ram × Link :=
  if waited < ram.latency then
    ({ ram with read := some progress, waited := waited + 1 }, {})
  else
    ({ ram with
        read := if progress.beat + 1 = progress.burst.beats then none
          else some { progress with beat := progress.beat + 1 }
        waited := 0 },
      { readData := ⟨some (ram.readBeat progress)⟩ })

theorem tick_read_begin (rest : ram.IsAtRest) :
    ram.tick { readAddress := ⟨some burst⟩ } = ram.driven { burst } 0 := by
  unfold tick tickWrite respond acceptWrite storeBeat tickRead acceptRead driveBeat driven
  by_cases wait : 0 < ram.latency
  · simp [rest.write, rest.owed, rest.read, Channel.settle, Channel.clear, wait]
  · simp [rest.write, rest.owed, rest.read, Channel.settle, Channel.clear, wait, readBeat,
      wordAddress]

theorem tick_read_next {progress : Progress} (write : ram.write = none) (owed : ram.owed = none)
    (read : ram.read = some progress) :
    ram.tick {} = ram.driven progress ram.waited := by
  obtain ⟨name, busBytes, latency, memory, _, _, _, waited⟩ := ram
  dsimp only at write owed read
  subst write owed read
  unfold tick tickWrite respond acceptWrite storeBeat tickRead acceptRead driveBeat driven
  by_cases wait : waited < latency
  · simp [Channel.settle, Channel.clear, wait]
  · simp [Channel.settle, Channel.clear, wait, readBeat, wordAddress]

end Split.Ram

namespace Fabric

open Bridge (Carrier Conversion Outbound)
open Bridge.Outbound (Reach beatCount beatStart burstLanes carrierBurst covered gatheredWord
  overlaid writeBeat)
open Crossbar (Slot)

inductive Idles (conversion : Conversion) (windowBase : Address) (bytes : Address → Byte) :
    SlaveAgent → Prop where
  | intro {bridge : Outbound} {ram : Ram} (converts : bridge.conversion = conversion)
      (base : bridge.windowBase = windowBase) (running : bridge.isHalted = false)
      (idle : bridge.active = none) (rest : ram.IsAtRest)
      (width : ram.busBytes = conversion.splitBytes) (holds : ram.memory.readByte = bytes) :
      Idles conversion windowBase bytes (.split bridge {} ram)

/-- What a memory that holds `bytes` answers to a request for the word at `start`. -/
def reply (simpleBytes : Nat) (start : Address) (request : Request) (bytes : Address → Byte) :
    Response :=
  if request.write then .ok 0 else .ok (gatheredWord simpleBytes start bytes)

/-- What a memory holds after a request for the word at `start`. -/
def updated (simpleBytes : Nat) (start : Address) (request : Request) (bytes : Address → Byte) :
    Address → Byte :=
  if request.write then overlaid simpleBytes start request bytes else bytes

variable {bridge : Outbound} {split : Split.Link} {ram : Ram} {slot : Slot SlaveAgent}
  {request : Request} {start : Address} {id : BitVec 32} {bytes : Address → Byte}

theorem tickSlot_split (agent : slot.agent = .split bridge split ram) {link : Simple.Link}
    (held : slot.link = link) {next : Outbound.Junction} {ticked : Ram × Split.Link}
    (moves : ∀ cycle, Outbound.Junction.tick ⟨bridge, link, split⟩ cycle = (next, none))
    (stores : ram.tick next.split = ticked) :
    ∃ following : Slot SlaveAgent, following.agent = .split next.bridge ticked.2 ticked.1 ∧
      following.link = next.simple ∧ ∀ cycle, tickSlot cycle slot = (following, none) := by
  refine ⟨{ slot with agent := .split next.bridge ticked.2 ticked.1, link := next.simple },
    rfl, rfl, ?_⟩
  intro cycle
  unfold tickSlot
  rw [agent, held]
  dsimp only
  rw [moves, stores]

/-- A slave at rest stays at rest until a request waits for it. -/
theorem Idles.rests {conversion : Conversion} {windowBase : Address}
    (idles : Idles conversion windowBase bytes slot.agent)
    (settled : slot.link.awaiting? = none) :
    ∃ following : Slot SlaveAgent, following.link = slot.link ∧
      Idles conversion windowBase bytes following.agent ∧
      ∀ cycle, tickSlot cycle slot = (following, none) := by
  generalize held : slot.agent = agent at idles
  obtain ⟨converts, base, running, idle, rest, width, holds⟩ := idles
  obtain ⟨following, goes, link, ticks⟩ := tickSlot_split held rfl
    (Outbound.Junction.tick_rest running idle settled) (Ram.tick_rest rest)
  refine ⟨following, link, ?_, ticks⟩
  rw [goes]
  exact .intro converts base running idle ⟨rest.write, rest.owed, rest.read⟩ width holds

def beatsOf (conversion : Conversion) (request : Request) (start : Address) : List WriteBeat :=
  (List.range (beatCount start conversion.simpleBytes conversion.splitBytes)).map
    (writeBeat request
      (burstLanes conversion.splitBytes conversion.simpleBytes
        (start.toNat % conversion.splitBytes))
      (beatCount start conversion.simpleBytes conversion.splitBytes))

def writeCarrier (conversion : Conversion) (request : Request) (start : Address)
    (id : BitVec 32) (sent : Nat) : Carrier where
  write := true
  burst := carrierBurst id start conversion.simpleBytes conversion.splitBytes
  addressSent := true
  beats := (beatsOf conversion request start).drop sent
  lanes := burstLanes conversion.splitBytes conversion.simpleBytes
    (start.toNat % conversion.splitBytes)

structure Writing (conversion : Conversion) (request : Request) (start : Address)
    (id : BitVec 32) (old : Address → Byte) (sent : Nat) (bridge : Outbound) (split : Split.Link)
    (ram : Ram) : Prop where
  converts : bridge.conversion = conversion
  running : bridge.isHalted = false
  active : bridge.active = some (writeCarrier conversion request start id sent)
  channels : split =
    if sent = beatCount start conversion.simpleBytes conversion.splitBytes then
      { writeResponse := ⟨some ⟨id, .okay⟩⟩ }
    else {}
  progress : ram.write =
    if sent = beatCount start conversion.simpleBytes conversion.splitBytes then none
    else some ⟨carrierBurst id start conversion.simpleBytes conversion.splitBytes, sent⟩
  owed : ram.owed = none
  read : ram.read = none
  width : ram.busBytes = conversion.splitBytes
  holds : ram.memory.readByte =
    overlaid (covered start conversion.simpleBytes conversion.splitBytes sent) start request old

section

variable {conversion : Conversion}

/-- Storing the beat that was just sent goes one beat further. -/
theorem Writing.of_stored (reach : Reach start conversion.simpleBytes conversion.splitBytes)
    {sent : Nat} (more : sent < beatCount start conversion.simpleBytes conversion.splitBytes)
    (converts : bridge.conversion = conversion) (running : bridge.isHalted = false)
    (active : bridge.active = some (writeCarrier conversion request start id (sent + 1)))
    (owed : ram.owed = none) (read : ram.read = none)
    (width : ram.busBytes = conversion.splitBytes)
    (holds : ram.memory.readByte =
      overlaid (covered start conversion.simpleBytes conversion.splitBytes sent) start request
        bytes) :
    Writing conversion request start id bytes (sent + 1) bridge
      (Ram.storedLink ⟨carrierBurst id start conversion.simpleBytes conversion.splitBytes, sent⟩)
      (ram.stored ⟨carrierBurst id start conversion.simpleBytes conversion.splitBytes, sent⟩
        (writeBeat request
          (burstLanes conversion.splitBytes conversion.simpleBytes
            (start.toNat % conversion.splitBytes))
          (beatCount start conversion.simpleBytes conversion.splitBytes) sent)) where
  converts := converts
  running := running
  active := active
  channels := by
    unfold Ram.storedLink
    dsimp only
    rw [reach.beats_carrierBurst]
    rfl
  progress := by
    unfold Ram.stored
    dsimp only
    rw [reach.beats_carrierBurst]
  owed := owed
  read := read
  width := width
  holds := by
    have place : ram.wordAddress
        ⟨carrierBurst id start conversion.simpleBytes conversion.splitBytes, sent⟩ =
        beatStart start conversion.splitBytes sent := by
      unfold Ram.wordAddress
      dsimp only
      rw [reach.beatAddress_carrierBurst, width, reach.alignDown_beatStart more]
    unfold Ram.stored
    dsimp only
    rw [place, width]
    exact reach.store_beat request _ holds

theorem beatsOf_drop {sent : Nat}
    (more : sent < beatCount start conversion.simpleBytes conversion.splitBytes) :
    (beatsOf conversion request start).drop sent =
      writeBeat request
        (burstLanes conversion.splitBytes conversion.simpleBytes
          (start.toNat % conversion.splitBytes))
        (beatCount start conversion.simpleBytes conversion.splitBytes) sent ::
        (beatsOf conversion request start).drop (sent + 1) := by
  unfold beatsOf
  rw [List.drop_eq_getElem_cons (by simpa using more)]
  simp

theorem beatsOf_drop_all : (beatsOf conversion request start).drop
    (beatCount start conversion.simpleBytes conversion.splitBytes) = [] := by
  unfold beatsOf
  apply List.drop_eq_nil_of_le
  simp

/-- A write under way is carried through. -/
theorem Writing.serves (reach : Reach start conversion.simpleBytes conversion.splitBytes)
    {sent : Nat} (le : sent ≤ beatCount start conversion.simpleBytes conversion.splitBytes)
    (writing : Writing conversion request start id bytes sent bridge split ram)
    (agent : slot.agent = .split bridge split ram) (waits : slot.link = .waiting request) :
    ∃ count after, Serves request (.ok 0) slot count after ∧
      Idles conversion bridge.windowBase
        (overlaid conversion.simpleBytes start request bytes) after.agent := by
  induction left : beatCount start conversion.simpleBytes conversion.splitBytes - sent
    generalizing sent bridge split ram slot with
  | zero =>
    have all : sent = beatCount start conversion.simpleBytes conversion.splitBytes := by omega
    have channels := writing.channels
    have progress := writing.progress
    have holds := writing.holds
    have none_ : (writeCarrier conversion request start id sent).beats = [] := by
      rw [all]
      exact beatsOf_drop_all
    rw [if_pos all] at channels progress
    rw [all, reach.covered_beatCount] at holds
    subst channels
    obtain ⟨after, rests, answered, ticks⟩ := tickSlot_split agent waits
      (Outbound.Junction.tick_write_end writing.running writing.active rfl rfl none_ ⟨id, .okay⟩)
      (Ram.tick_rest ⟨progress, writing.owed, writing.read⟩)
    refine ⟨0, after, .answers waits ticks answered, ?_⟩
    rw [rests]
    exact .intro writing.converts rfl writing.running rfl
      ⟨progress, writing.owed, writing.read⟩ writing.width holds
  | succ left ih =>
    have more : sent < beatCount start conversion.simpleBytes conversion.splitBytes := by omega
    have channels := writing.channels
    have progress := writing.progress
    rw [if_neg (by omega)] at channels progress
    subst channels
    obtain ⟨following, goes, held, ticks⟩ := tickSlot_split agent waits
      (Outbound.Junction.tick_write_next writing.running writing.active rfl rfl
        (beatsOf_drop more))
      (Ram.tick_write_next progress writing.owed writing.read _)
    have next : Writing conversion request start id bytes (sent + 1)
        { bridge with active := some (writeCarrier conversion request start id (sent + 1)) } _ _ :=
      Writing.of_stored reach more writing.converts writing.running rfl writing.owed
        writing.read writing.width writing.holds
    obtain ⟨count, after, serves, idles⟩ := ih (by omega) next goes held (by omega)
    exact ⟨count + 1, after, .waits waits ticks serves, idles⟩

/-- A bridge's read after `got` beats. -/
def readCarrier (conversion : Conversion) (start : Address) (id : BitVec 32)
    (bytes : Address → Byte) (got : Nat) : Carrier where
  write := false
  burst := carrierBurst id start conversion.simpleBytes conversion.splitBytes
  addressSent := true
  lanes := burstLanes conversion.splitBytes conversion.simpleBytes
    (start.toNat % conversion.splitBytes)
  received := got
  data := gatheredWord (covered start conversion.simpleBytes conversion.splitBytes got) start bytes

/-- A memory that is asked for a read burst and for nothing else. -/
structure Reading (conversion : Conversion) (bytes : Address → Byte) (ram : Ram) : Prop where
  write : ram.write = none
  owed : ram.owed = none
  width : ram.busBytes = conversion.splitBytes
  holds : ram.memory.readByte = bytes

theorem readBeat_data (reach : Reach start conversion.simpleBytes conversion.splitBytes)
    (reading : Reading conversion bytes ram) (id : BitVec 32) {got : Nat}
    (more : got < beatCount start conversion.simpleBytes conversion.splitBytes) :
    (ram.readBeat ⟨carrierBurst id start conversion.simpleBytes conversion.splitBytes, got⟩).data =
      ram.memory.readWord (beatStart start conversion.splitBytes got) conversion.splitBytes := by
  unfold Ram.readBeat Ram.wordAddress
  dsimp only
  rw [reach.beatAddress_carrierBurst, reading.width, reach.alignDown_beatStart more]

theorem readCarrier_gather (reach : Reach start conversion.simpleBytes conversion.splitBytes)
    (reading : Reading conversion bytes ram) (id : BitVec 32) {got : Nat}
    (more : got < beatCount start conversion.simpleBytes conversion.splitBytes) :
    (readCarrier conversion start id bytes got).gather
        (ram.readBeat
          ⟨carrierBurst id start conversion.simpleBytes conversion.splitBytes, got⟩) =
      gatheredWord (covered start conversion.simpleBytes conversion.splitBytes (got + 1)) start
        bytes := by
  have data := readBeat_data reach reading id more
  rw [← reading.holds]
  exact reach.gather_beat rfl data rfl

/-- A read under way is carried through: the memory has `got` beats behind it and has let the next
one wait for `waited` cycles. -/
theorem Reading.serves (reach : Reach start conversion.simpleBytes conversion.splitBytes)
    {got waited : Nat} (more : got < beatCount start conversion.simpleBytes conversion.splitBytes)
    (converts : bridge.conversion = conversion) (running : bridge.isHalted = false)
    (active : bridge.active = some (readCarrier conversion start id bytes got))
    (reading : Reading conversion bytes ram) {driven : Ram × Split.Link}
    (drives : driven =
      ram.driven ⟨carrierBurst id start conversion.simpleBytes conversion.splitBytes, got⟩ waited)
    (agent : slot.agent = .split bridge driven.2 driven.1)
    (waits : slot.link = .waiting request) :
    ∃ count after,
      Serves request (.ok (gatheredWord conversion.simpleBytes start bytes)) slot count after ∧
      Idles conversion bridge.windowBase bytes after.agent := by
  induction left : (beatCount start conversion.simpleBytes conversion.splitBytes - got) *
      (ram.latency + 1) + (ram.latency - waited) using Nat.strongRecOn
    generalizing got waited bridge ram driven slot with
  | ind measure ih =>
    have beats := reach.beats_carrierBurst id
    unfold Ram.driven at drives
    by_cases wait : waited < ram.latency
    · -- the memory lets the beat wait
      rw [if_pos wait] at drives
      subst drives
      obtain ⟨following, goes, held, ticks⟩ := tickSlot_split agent waits
        (Outbound.Junction.tick_read_wait running active rfl rfl)
        (Ram.tick_read_next reading.write reading.owed rfl)
      have fewer : (beatCount start conversion.simpleBytes conversion.splitBytes - got) *
          (ram.latency + 1) + (ram.latency - (waited + 1)) < measure := by omega
      obtain ⟨count, after, serves, idles⟩ := ih _ fewer more converts running active
        ⟨reading.write, reading.owed, reading.width, reading.holds⟩ rfl goes held rfl
      exact ⟨count + 1, after, .waits waits ticks serves, idles⟩
    · rw [if_neg wait] at drives
      have gathers := readCarrier_gather reach reading id more
      by_cases last : got + 1 = beatCount start conversion.simpleBytes conversion.splitBytes
      · -- the last beat is there
        dsimp only at drives
        rw [beats, if_pos last] at drives
        subst drives
        obtain ⟨after, rests, answered, ticks⟩ := tickSlot_split agent waits
          (Outbound.Junction.tick_read_end running active rfl rfl (last.trans beats.symm)
            (by unfold Ram.readBeat; dsimp only; rw [beats]; exact decide_eq_true last))
          (Ram.tick_rest ⟨reading.write, reading.owed, rfl⟩)
        rw [gathers, last, reach.covered_beatCount] at answered
        refine ⟨0, after, .answers waits ticks answered, ?_⟩
        rw [rests]
        exact .intro converts rfl running rfl ⟨reading.write, reading.owed, rfl⟩ reading.width
          reading.holds
      · dsimp only at drives
        rw [beats, if_neg last] at drives
        subst drives
        obtain ⟨following, goes, held, ticks⟩ := tickSlot_split agent waits
          (Outbound.Junction.tick_read_next running active rfl rfl
            (show got + 1 < (carrierBurst id start conversion.simpleBytes
              conversion.splitBytes).beats by omega)
            (by unfold Ram.readBeat; dsimp only; rw [beats]; exact decide_eq_false last))
          (Ram.tick_read_next reading.write reading.owed rfl)
        have next : { readCarrier conversion start id bytes got with
            received := got + 1
            status := Split.Status.okay.merge .okay
            data := (readCarrier conversion start id bytes got).gather (ram.readBeat
              ⟨carrierBurst id start conversion.simpleBytes conversion.splitBytes, got⟩) } =
            readCarrier conversion start id bytes (got + 1) := by
          rw [gathers]
          rfl
        have fewer : (beatCount start conversion.simpleBytes conversion.splitBytes - (got + 1)) *
            (ram.latency + 1) + (ram.latency - 0) < measure := by
          have step : beatCount start conversion.simpleBytes conversion.splitBytes - got =
              beatCount start conversion.simpleBytes conversion.splitBytes - (got + 1) + 1 := by
            omega
          rw [step, Nat.add_mul, Nat.one_mul] at left
          omega
        obtain ⟨count, after, serves, idles⟩ := ih _ fewer (by omega) (by exact converts)
          (by exact running) (by exact congrArg some next)
          ⟨reading.write, reading.owed, reading.width, reading.holds⟩ rfl goes held rfl
        exact ⟨count + 1, after, .waits waits ticks serves, idles⟩

/-- A slave at rest carries out a request, whatever the latency of its memory. -/
theorem Idles.serves {windowBase : Address}
    (idles : Idles conversion windowBase bytes slot.agent) (waits : slot.link = .waiting request)
    (reach : Reach (conversion.translate (request.address - windowBase)) conversion.simpleBytes
      conversion.splitBytes) :
    ∃ count after,
      Serves request
        (reply conversion.simpleBytes (conversion.translate (request.address - windowBase)) request
          bytes) slot count after ∧
      Idles conversion windowBase
        (updated conversion.simpleBytes (conversion.translate (request.address - windowBase))
          request bytes) after.agent := by
  generalize held : slot.agent = agent at idles
  obtain @⟨bridge, ram, converts, base, running, idle, rest, width, holds⟩ := idles
  subst converts base
  have plan := Outbound.plan_eq bridge request reach
  have some_ : 0 < beatCount (bridge.wordStart request) bridge.conversion.simpleBytes
    bridge.conversion.splitBytes := Nat.succ_pos _
  have burst : (bridge.plan request).burst = carrierBurst bridge.nextId
      (bridge.wordStart request) bridge.conversion.simpleBytes bridge.conversion.splitBytes := by
    rw [plan]
  unfold reply updated
  cases write : request.write with
  | true =>
    have writes : (bridge.plan request).write = true := by rw [plan, write]
    have beats : (bridge.plan request).beats =
        beatsOf bridge.conversion request (bridge.wordStart request) := by
      rw [plan, write]
      rfl
    have first : (bridge.plan request).beats =
        writeBeat request
          (burstLanes bridge.conversion.splitBytes bridge.conversion.simpleBytes
            ((bridge.wordStart request).toNat % bridge.conversion.splitBytes))
          (beatCount (bridge.wordStart request) bridge.conversion.simpleBytes
            bridge.conversion.splitBytes) 0 ::
          (beatsOf bridge.conversion request (bridge.wordStart request)).drop 1 :=
      beats.trans (beatsOf_drop some_)
    have started : { bridge.plan request with
        addressSent := true
        beats := (beatsOf bridge.conversion request (bridge.wordStart request)).drop 1 } =
        writeCarrier bridge.conversion request (bridge.wordStart request) bridge.nextId 1 := by
      rw [plan, write]
      rfl
    obtain ⟨following, goes, link, ticks⟩ := tickSlot_split held waits
      (Outbound.Junction.tick_write_begin running idle writes (by rw [plan]) first)
      (Ram.tick_write_begin rest _)
    rw [burst] at goes
    have writing : Writing bridge.conversion request (bridge.wordStart request) bridge.nextId
        bytes 1 { bridge with
          active := some { bridge.plan request with
            addressSent := true
            beats := (beatsOf bridge.conversion request (bridge.wordStart request)).drop 1 }
          nextId := bridge.nextId + 1 } _ _ :=
      Writing.of_stored reach some_ rfl running (congrArg some started) rest.owed rest.read width
        (by rw [Bridge.Outbound.covered_zero, holds, Bridge.Outbound.overlaid_zero])
    obtain ⟨count, after, serves, idles⟩ := writing.serves reach some_ goes link
    exact ⟨count + 1, after, .waits waits ticks serves, idles⟩
  | false =>
    have reads : (bridge.plan request).write = false := by rw [plan, write]
    obtain ⟨following, goes, link, ticks⟩ := tickSlot_split held waits
      (Outbound.Junction.tick_read_begin running idle reads (by rw [plan]))
      (Ram.tick_read_begin rest)
    have started : { bridge.plan request with addressSent := true } =
        readCarrier bridge.conversion (bridge.wordStart request) bridge.nextId bytes 0 := by
      have blank : gatheredWord 0 (bridge.wordStart request) bytes = 0 := by
        apply Data.ext_lanes
        intro lane low
        unfold gatheredWord
        rw [Data.lane_ofLanes _ low, Data.lane_zero, if_neg (Nat.not_lt_zero lane)]
      unfold readCarrier
      rw [plan, write, Bridge.Outbound.covered_zero, blank]
      rfl
    rw [burst] at goes
    obtain ⟨count, after, serves, idles⟩ := Reading.serves reach some_ (by rfl) (by exact running)
      (by exact congrArg some started) ⟨rest.write, rest.owed, width, holds⟩ rfl goes link
    exact ⟨count + 1, after, .waits waits ticks serves, idles⟩

end

end Fabric

end BusFabric
