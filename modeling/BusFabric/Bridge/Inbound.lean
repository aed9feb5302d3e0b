import BusFabric.Bridge.Access
import BusFabric.Bridge.Conversion
import BusFabric.Fault

set_option autoImplicit false

namespace BusFabric.Bridge

open Split (AddressBeat BurstMode ReadBeat Status WriteBeat WriteResponse)

structure Transfer where
  burst : AddressBeat
  write : Bool
  /-- Data beats finished so far. -/
  beat : Nat := 0
  /-- Accesses of the present beat that are still to be issued. -/
  pending : List Access := []
  /-- The read beat as far as it is assembled. -/
  data : Data := 0
  beatStatus : Status := .okay
  burstStatus : Status := .okay
  deriving DecidableEq

/-- The bridge of a split-transaction master into the simple fabric. One burst is handled at a time
and one simple request is in flight at a time, so responses leave in the order in which addresses
were accepted. Malformed traffic halts the bridge for good. -/
structure Inbound where
  port : PortId
  conversion : Conversion
  /-- Subtracted from the master's addresses. -/
  origin : Address
  active : Option Transfer := none
  /-- The access that waits for its acknowledge. -/
  inflight : Option Access := none
  /-- A write response that found its channel occupied. -/
  owedWrite : Option WriteResponse := none
  /-- A read beat that found its channel occupied. -/
  owedRead : Option ReadBeat := none
  /-- Which of two waiting addresses goes first. -/
  preferRead : Bool := false
  isHalted : Bool := false
  deriving DecidableEq

namespace Inbound

/-- The master's port is limited to single beats, and last-beat marks are not looked at. -/
def isLite (bridge : Inbound) : Bool :=
  bridge.conversion.source = .wideSplitLite

/-- No burst is accepted, no access is in flight and no response is owed. -/
def isIdle (bridge : Inbound) : Bool :=
  bridge.active.isNone && bridge.inflight.isNone && bridge.owedWrite.isNone &&
    bridge.owedRead.isNone

def violation? (bridge : Inbound) (burst : AddressBeat) : Option FaultKind :=
  let busBytes := bridge.conversion.splitBytes
  if bridge.isLite ∧ burst.beats > 1 then some (.burstOnLitePort burst.beats)
  else if burst.size.toNat > busBytes.log2 then some (.oversizedBeat burst.beatBytes busBytes)
  else if burst.mode = .wrap ∧ burst.beats ∉ [2, 4, 8, 16] then some (.badWrapLength burst.beats)
  else none

/-- The simple-bus words that data beat `beat` of a burst touches. The beat's address is counted
from the origin and brought to a beat boundary, which fixes its lanes as well as its words. -/
def planBeat (bridge : Inbound) (burst : AddressBeat) (beat : Nat) : List WordLanes :=
  let bytes := burst.beatBytes
  let start := (burst.beatAddress beat - bridge.origin).alignDown bytes
  let firstLane := start.toNat % bridge.conversion.splitBytes
  let first := bridge.conversion.translate start
  groupByWord bridge.conversion.simpleBytes
    ((List.range bytes).map fun index => (first + BitVec.ofNat 64 index, firstLane + index))

/-- Enters a finished beat: the last beat of a write is answered, every read beat is handed on. -/
def finishBeat (bridge : Inbound) (transfer : Transfer) : Inbound :=
  let beat := transfer.beat + 1
  let done : Bool := beat = transfer.burst.beats
  let burstStatus := transfer.burstStatus.merge transfer.beatStatus
  let active := if done then none else
    some { transfer with beat, burstStatus, beatStatus := .okay, data := 0 }
  if transfer.write then
    { bridge with
      active
      owedWrite :=
        if done then some ⟨transfer.burst.id, burstStatus⟩ else bridge.owedWrite }
  else
    { bridge with
      active
      owedRead := some ⟨transfer.burst.id, transfer.data, transfer.beatStatus, done⟩ }

/-- Enters the acknowledge of the access in flight. -/
def absorb (bridge : Inbound) (response : Simple.Response) : Inbound :=
  match bridge.inflight, bridge.active with
  | some access, some transfer =>
    let bridge := { bridge with inflight := none }
    let beatStatus :=
      if response.error then transfer.beatStatus.merge .slaveError else transfer.beatStatus
    let data := if transfer.write then transfer.data else access.gather response.data transfer.data
    let transfer := { transfer with beatStatus, data }
    if transfer.pending.isEmpty then bridge.finishBeat transfer
    else { bridge with active := some transfer }
  | _, _ => { bridge with inflight := none }

/-- The accesses of the next beat of a write, once its data beat is there. Its last-beat mark has
to agree with the burst's length, except on a lite port. -/
def nextWrite (bridge : Inbound) (transfer : Transfer) (beat : WriteBeat) :
    Except FaultKind (List Access) :=
  let beats := transfer.burst.beats
  let final : Bool := transfer.beat + 1 = beats
  if !bridge.isLite && beat.last && !final then .error (.earlyLast transfer.beat beats)
  else if !bridge.isLite && !beat.last && final then .error (.missingLast transfer.beat)
  else .ok ((bridge.planBeat transfer.burst transfer.beat).map (·.write beat))

def nextRead (bridge : Inbound) (transfer : Transfer) : List Access :=
  (bridge.planBeat transfer.burst transfer.beat).map (·.read)

structure Junction where
  bridge : Inbound
  split : Split.Link
  simple : Simple.Link
  deriving DecidableEq

namespace Junction

def flush (junction : Junction) : Junction :=
  let (writeResponse, owedWrite) :=
    junction.split.writeResponse.settle junction.bridge.owedWrite
  let (readData, owedRead) := junction.split.readData.settle junction.bridge.owedRead
  { junction with
    bridge := { junction.bridge with owedWrite, owedRead }
    split := { junction.split with writeResponse, readData } }

/-- Takes the acknowledge that is there and drives what it made due. -/
def collect (junction : Junction) : Junction :=
  match junction.simple.response? with
  | none => junction
  | some response =>
    flush { junction with
      bridge := junction.bridge.absorb response
      simple := junction.simple.completed }

/-- Gives up the burst under way, for good. -/
def halt (junction : Junction) : Junction :=
  { junction with bridge := { junction.bridge with isHalted := true, active := none } }

/-- Takes an address that waits, and says what is wrong with its burst. -/
def acceptAddress (junction : Junction) : Junction × Option FaultKind :=
  let split := junction.split
  let takesRead :=
    if split.writeAddress.isValid && split.readAddress.isValid then junction.bridge.preferRead
    else split.readAddress.isValid
  let channel := if takesRead then split.readAddress else split.writeAddress
  match channel.beat with
  | none => (junction, none)
  | some burst =>
    let split :=
      if takesRead then { split with readAddress := split.readAddress.clear }
      else { split with writeAddress := split.writeAddress.clear }
    let bridge := { junction.bridge with preferRead := !takesRead }
    match bridge.violation? burst with
    | some kind => (halt { junction with bridge, split }, some kind)
    | none =>
      let bridge := { bridge with active := some { burst, write := !takesRead } }
      ({ junction with bridge, split }, none)

/-- Plans the next beat of the burst under way, if its accesses are all done. A write consumes its
data beat here; a read waits until its last beat is handed on. -/
def prepare (junction : Junction) : Except FaultKind (Junction) :=
  match junction.bridge.active with
  | some transfer =>
    if !transfer.pending.isEmpty then .ok junction
    else if transfer.write then
      match junction.split.writeData.beat with
      | none => .ok junction
      | some beat =>
        (junction.bridge.nextWrite transfer beat).map fun pending =>
          { junction with
            bridge := { junction.bridge with active := some { transfer with pending } }
            split := { junction.split with writeData := junction.split.writeData.clear } }
    else if junction.bridge.owedRead.isSome then .ok junction
    else
      let pending := junction.bridge.nextRead transfer
      .ok { junction with
        bridge := { junction.bridge with active := some { transfer with pending } } }
  | none => .ok junction

/-- Issues the first access that is pending, unless the simple link is taken. -/
def issue (junction : Junction) : Junction :=
  match junction.bridge.active with
  | none => junction
  | some transfer =>
    match transfer.pending with
    | [] => junction
    | access :: pending =>
      match junction.simple.issue? access.request with
      | none => junction
      | some simple =>
        { junction with
          bridge := { junction.bridge with
            active := some { transfer with pending }, inflight := some access }
          simple }

/-- Prepares and issues the next access. -/
def advance (junction : Junction) : Junction × Option FaultKind :=
  match junction.prepare with
  | .ok junction => (junction.issue, none)
  | .error kind => (junction.halt, some kind)

/-- What a halted bridge does: it takes the acknowledge that it still waits for. -/
def drain (junction : Junction) : Junction :=
  match junction.simple.response? with
  | none => junction
  | some _ =>
    { junction with
      bridge := { junction.bridge with inflight := none }
      simple := junction.simple.completed }

def step (junction : Junction) : Junction × Option FaultKind :=
  let junction := junction.flush.collect
  let bridge := junction.bridge
  let (junction, fault) :=
    if bridge.active.isNone && bridge.owedWrite.isNone && bridge.owedRead.isNone then
      junction.acceptAddress
    else (junction, none)
  if fault.isSome || junction.bridge.inflight.isSome then (junction, fault)
  else junction.advance

def tick (junction : Junction) (cycle : Nat) :
    Junction × Option ProtocolFault :=
  if junction.bridge.isHalted then (junction.drain, none)
  else
    let (junction, kind) := junction.step
    (junction, kind.map fun kind => ⟨junction.bridge.port, cycle, kind⟩)

end Junction

end Inbound

end BusFabric.Bridge
