import BusFabric.Bridge.Conversion
import BusFabric.Fault
import BusFabric.Simple.Link
import BusFabric.Split.Link

set_option autoImplicit false

namespace BusFabric.Bridge

open Split (AddressBeat ReadBeat Status WriteBeat)

/-- A byte's place in a burst and in the simple-bus word. -/
structure BurstLane where
  beat : Nat
  split : Nat
  simple : Nat
  deriving DecidableEq

structure Carrier where
  write : Bool
  burst : AddressBeat
  addressSent : Bool := false
  /-- Write data beats that are still to be sent. -/
  beats : List WriteBeat := []
  /-- Where each byte of the simple-bus word lies. -/
  lanes : List BurstLane
  /-- Read beats received so far. -/
  received : Nat := 0
  /-- The simple-bus word as far as it is read. -/
  data : Data := 0
  status : Status := .okay
  deriving DecidableEq

/-- The bridge of the simple fabric onto a split-transaction slave. A response that answers nothing,
or read data whose last-beat mark is wrong, halts it; a halted bridge refuses every request, so that
no master is left waiting. -/
structure Outbound where
  port : PortId
  conversion : Conversion
  /-- The address at which the fabric decodes the slave. -/
  windowBase : Address
  /-- The identifier of the next burst. -/
  nextId : BitVec 32 := 0
  active : Option Carrier := none
  isHalted : Bool := false
  deriving DecidableEq

namespace Outbound

def isIdle (bridge : Outbound) : Bool :=
  bridge.active.isNone

/-- Where each byte of a simple-bus word of `simpleBytes` bytes lies in a burst of `splitBytes`-wide
beats, if the word starts `skipped` bytes into the first beat. -/
def burstLanes (splitBytes simpleBytes skipped : Nat) : List BurstLane :=
  (List.range simpleBytes).map fun index =>
    ⟨(skipped + index) / splitBytes, (skipped + index) % splitBytes, index⟩

/-- Write data beat `beat` of `beats` for a request: the selected bytes that lie in it. -/
def writeBeat (request : Simple.Request) (lanes : List BurstLane) (beats beat : Nat) : WriteBeat :=
  let present := lanes.filter fun lane => lane.beat = beat && request.select.selects lane.simple
  { data := present.foldl
      (fun data lane => Data.setLane data lane.split (request.data.lane lane.simple)) 0
    strobe := present.foldl (fun strobe lane => strobe.select lane.split) 0
    last := beat + 1 = beats }

/-- The burst that carries out a request: incrementing beats of full width over the bytes that its
word translates to. -/
def plan (bridge : Outbound) (request : Simple.Request) : Carrier :=
  let splitBytes := bridge.conversion.splitBytes
  let simpleBytes := bridge.conversion.simpleBytes
  let start := bridge.conversion.translate (request.address - bridge.windowBase)
  let first := start.alignDown splitBytes
  let last := (start + BitVec.ofNat 64 (simpleBytes - 1)).alignDown splitBytes
  let beats := (last - first).toNat / splitBytes + 1
  let lanes := burstLanes splitBytes simpleBytes (start - first).toNat
  { write := request.write
    burst := .incr bridge.nextId first (BitVec.ofNat 8 splitBytes.log2) beats
    beats :=
      if request.write then (List.range beats).map (writeBeat request lanes beats) else []
    lanes }

/-- The response, if any, that answers nothing: write responses may come once the whole burst is
sent, read data once its address is. -/
def unexpected? (bridge : Outbound) (split : Split.Link) : Option FaultKind :=
  let (expectsWrite, expectsRead) :=
    match bridge.active with
    | some carrier =>
      if carrier.write then (carrier.addressSent && carrier.beats.isEmpty, false)
      else (false, carrier.addressSent)
    | none => (false, false)
  if split.writeResponse.isValid && !expectsWrite then some .unexpectedWriteResponse
  else if split.readData.isValid && !expectsRead then some .unexpectedReadData
  else none

end Outbound

namespace Carrier

/-- Drives the address, unless it was sent before or its channel is occupied. -/
def sendAddress (carrier : Carrier) (split : Split.Link) : Carrier × Split.Link :=
  if carrier.addressSent then (carrier, split)
  else if carrier.write then
    match split.writeAddress.send? carrier.burst with
    | some writeAddress => ({ carrier with addressSent := true }, { split with writeAddress })
    | none => (carrier, split)
  else
    match split.readAddress.send? carrier.burst with
    | some readAddress => ({ carrier with addressSent := true }, { split with readAddress })
    | none => (carrier, split)

/-- Drives the next write data beat, unless none is left or the channel is occupied. -/
def sendBeat (carrier : Carrier) (split : Split.Link) : Carrier × Split.Link :=
  match carrier.beats with
  | [] => (carrier, split)
  | beat :: beats =>
    match split.writeData.send? beat with
    | some writeData => ({ carrier with beats }, { split with writeData })
    | none => (carrier, split)

/-- Moves the bytes of a read beat to their lanes of the simple-bus word. -/
def gather (carrier : Carrier) (beat : ReadBeat) : Data :=
  (carrier.lanes.filter (·.beat = carrier.received)).foldl
    (fun data lane => data.setLane lane.simple (beat.data.lane lane.split)) carrier.data

end Carrier

namespace Outbound

structure Junction where
  bridge : Outbound
  simple : Simple.Link
  split : Split.Link
  deriving DecidableEq

namespace Junction

/-- Halts the bridge for good and refuses the request that waits. -/
def halt (junction : Junction) : Junction :=
  { junction with
    bridge := { junction.bridge with isHalted := true, active := none }
    simple := junction.simple.acknowledge .refused }

/-- Takes up the request that waits, if none is under way. -/
def accept (junction : Junction) : Junction :=
  match junction.bridge.active, junction.simple.awaiting? with
  | none, some request =>
    { junction with
      bridge := { junction.bridge with
        active := some (junction.bridge.plan request)
        nextId := junction.bridge.nextId + 1 } }
  | _, _ => junction

/-- Ends the request under way with an acknowledge. -/
def finish (junction : Junction) (response : Simple.Response) : Junction :=
  { junction with
    bridge := { junction.bridge with active := none }
    simple := junction.simple.acknowledge response }

/-- Keeps the burst under way in its present state. -/
def keep (junction : Junction) (carrier : Carrier) : Junction :=
  { junction with bridge := { junction.bridge with active := some carrier } }

/-- One cycle of a write whose address was offered: sends a beat, and takes the response once
everything is sent. -/
def advanceWrite (junction : Junction) (carrier : Carrier) : Junction :=
  let (carrier, split) := carrier.sendBeat junction.split
  let junction := { junction with split }
  if carrier.addressSent && carrier.beats.isEmpty then
    match split.writeResponse.beat with
    | some response =>
      finish { junction with
        split := { split with writeResponse := split.writeResponse.clear } }
        ⟨0, !response.status.isOkay⟩
    | none => junction.keep carrier
  else junction.keep carrier

/-- One cycle of a read whose address was offered: takes a beat, which has to be marked as the last
exactly when it is. -/
def advanceRead (junction : Junction) (carrier : Carrier) : Junction × Option FaultKind :=
  if !carrier.addressSent then (junction.keep carrier, none)
  else match junction.split.readData.beat with
    | none => (junction.keep carrier, none)
    | some beat =>
      let junction := { junction with
        split := { junction.split with readData := junction.split.readData.clear } }
      let received := carrier.received + 1
      let beats := carrier.burst.beats
      let final : Bool := received = beats
      if received > beats ∨ beat.last ≠ final then
        (junction.halt, some (.readLength received beats))
      else
        let status := carrier.status.merge beat.status
        let data := carrier.gather beat
        if final then (junction.finish ⟨data, !status.isOkay⟩, none)
        else (junction.keep { carrier with received, status, data }, none)

def step (junction : Junction) : Junction × Option FaultKind :=
  match junction.bridge.unexpected? junction.split with
  | some kind => (junction.halt, some kind)
  | none =>
    let junction := junction.accept
    match junction.bridge.active with
    | none => (junction, none)
    | some carrier =>
      let (carrier, split) := carrier.sendAddress junction.split
      let junction := { junction with split }
      if carrier.write then (junction.advanceWrite carrier, none)
      else junction.advanceRead carrier

def tick (junction : Junction) (cycle : Nat) : Junction × Option ProtocolFault :=
  if junction.bridge.isHalted then
    ({ junction with simple := junction.simple.acknowledge .refused }, none)
  else
    let (junction, kind) := junction.step
    (junction, kind.map fun kind => ⟨junction.bridge.port, cycle, kind⟩)

end Junction

end Outbound

end BusFabric.Bridge
