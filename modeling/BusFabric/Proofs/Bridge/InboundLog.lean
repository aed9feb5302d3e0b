import BusFabric.Proofs.Bridge.Span
import BusFabric.Proofs.Simple.Handshake

set_option autoImplicit false

namespace BusFabric.Bridge.Inbound

open Simple (Request Response)
open Split (AddressBeat ReadBeat Status WriteBeat WriteResponse)

inductive Move where
  | sendWriteAddress (burst : AddressBeat)
  | sendReadAddress (burst : AddressBeat)
  | sendWriteData (beat : WriteBeat)
  | takeWriteResponse
  | takeReadData
  | acknowledge (response : Response)
  | tick (cycle : Nat)
  deriving DecidableEq

/-- What became of an address that the bridge took. -/
structure Handling where
  burst : AddressBeat
  write : Bool
  /-- The write data taken. -/
  consumed : List WriteBeat := []
  /-- The requests raised on the simple bus. -/
  issued : List Request := []
  /-- The acknowledges seen. -/
  answers : List Response := []
  /-- The read beats produced. -/
  readBeats : List ReadBeat := []
  /-- The write responses produced. -/
  writeResponses : List WriteResponse := []
  deriving DecidableEq

namespace Junction

/-- One move of the bridge or its surroundings. Nothing can be sent into a channel that is occupied,
and only a waiting request can be acknowledged. -/
def act (junction : Junction) : Move → Junction
  | .sendWriteAddress burst =>
    { junction with split := { junction.split with
        writeAddress := (junction.split.writeAddress.send? burst).getD junction.split.writeAddress } }
  | .sendReadAddress burst =>
    { junction with split := { junction.split with
        readAddress := (junction.split.readAddress.send? burst).getD junction.split.readAddress } }
  | .sendWriteData beat =>
    { junction with split := { junction.split with
        writeData := (junction.split.writeData.send? beat).getD junction.split.writeData } }
  | .takeWriteResponse =>
    { junction with split := { junction.split with
        writeResponse := junction.split.writeResponse.clear } }
  | .takeReadData =>
    { junction with split := { junction.split with readData := junction.split.readData.clear } }
  | .acknowledge response => { junction with simple := junction.simple.acknowledge response }
  | .tick cycle => (junction.tick cycle).1

/-- The read beats that are produced and not yet taken: in the channel, or still owed to it. -/
def reads (junction : Junction) : List ReadBeat :=
  junction.split.readData.beat.toList ++ junction.bridge.owedRead.toList

/-- The write responses that are produced and not yet taken. -/
def writes (junction : Junction) : List WriteResponse :=
  junction.split.writeResponse.beat.toList ++ junction.bridge.owedWrite.toList

/-- The address taken from its channel between two states. -/
def accepted? (before after : Junction) : Option Handling :=
  if after.split.writeAddress.isReady ∧ before.split.writeAddress.isValid then
    before.split.writeAddress.beat.map ({ burst := ·, write := true })
  else if after.split.readAddress.isReady ∧ before.split.readAddress.isValid then
    before.split.readAddress.beat.map ({ burst := ·, write := false })
  else none

/-- The write data taken from its channel between two states. -/
def consumed? (before after : Junction) : Option WriteBeat :=
  if after.split.writeData.isReady then before.split.writeData.beat else none

end Junction

namespace Handling

/-- Adds acknowledges, and the responses that they made due. -/
def settle (handling : Handling) (answers : List Response) (reads : List ReadBeat)
    (writes : List WriteResponse) : Handling :=
  { handling with
    answers := handling.answers ++ answers
    readBeats := handling.readBeats ++ reads
    writeResponses := handling.writeResponses ++ writes }

/-- Adds write data, and requests that it made due. -/
def engage (handling : Handling) (consumed : List WriteBeat) (issued : List Request) : Handling :=
  { handling with
    consumed := handling.consumed ++ consumed
    issued := handling.issued ++ issued }

end Handling

/-- The addresses that the bridge took, newest first, and the responses that the master took. -/
structure Log where
  handlings : List Handling := []
  reads : List ReadBeat := []
  writes : List WriteResponse := []

/-- Enters what a tick did, in the order in which a bridge does it: acknowledges are answered before
an address is taken, and requests are raised last. Only the newest burst is ever worked on. -/
def Log.observe (log : Log) (before after : Junction) : Log :=
  let settled := log.handlings.modifyHead fun handling =>
    handling.settle before.simple.response?.toList
      (after.reads.drop before.reads.length) (after.writes.drop before.writes.length)
  { log with
    handlings := ((Junction.accepted? before after).toList ++ settled).modifyHead fun handling =>
      handling.engage (Junction.consumed? before after).toList
        (before.simple.raised? after.simple).toList }

def Log.act (log : Log) (junction : Junction) : Move → Log
  | .takeWriteResponse => { log with writes := log.writes ++ junction.split.writeResponse.beat.toList }
  | .takeReadData => { log with reads := log.reads ++ junction.split.readData.beat.toList }
  | .tick cycle => log.observe junction (junction.tick cycle).1
  | _ => log

def Junction.play (junction : Junction) (log : Log) : List Move → Junction × Log
  | [] => (junction, log)
  | move :: moves => (junction.act move).play (log.act junction move) moves

/-- A bridge that has done nothing, between two idle links. -/
def Junction.fresh (port : PortId) (conversion : Conversion) (origin : Address) : Junction where
  bridge := { port, conversion, origin }
  split := {}
  simple := .idle

/-- The status of data that came with these acknowledges. -/
def statusOf (answers : List Response) : Status :=
  if answers.any (·.error) then .slaveError else .okay

namespace Handling

variable (conversion : Conversion) (origin : Address)

/-- The requests that data beat `beat` stands for. A write stands for none before its data came. -/
def requestsOf (handling : Handling) (beat : Nat) : List Request :=
  let span := Span.of conversion origin handling.burst beat
  if handling.write then
    match handling.consumed[beat]? with
    | some data => span.words.map (span.writeRequest data)
    | none => []
  else span.words.map span.readRequest

def requestsBefore (handling : Handling) (beats : Nat) : List Request :=
  (List.range beats).flatMap (handling.requestsOf conversion origin)

def reference (handling : Handling) : List Request :=
  handling.requestsBefore conversion origin handling.burst.beats

def answersOf (handling : Handling) (beat : Nat) : List Response :=
  (handling.answers.drop (handling.requestsBefore conversion origin beat).length).take
    (handling.requestsOf conversion origin beat).length

def readBeat (handling : Handling) (beat : Nat) : ReadBeat :=
  let answers := handling.answersOf conversion origin beat
  { id := handling.burst.id
    data := (Span.of conversion origin handling.burst beat).readData answers
    status := statusOf answers
    last := beat + 1 = handling.burst.beats }

def writeResponse (handling : Handling) : WriteResponse :=
  ⟨handling.burst.id, statusOf handling.answers⟩

/-- The last response of the burst is produced. -/
def IsAnswered (handling : Handling) : Prop :=
  if handling.write then handling.writeResponses ≠ []
  else handling.readBeats.length = handling.burst.beats

/-- The burst was carried out as far as it was carried out. -/
structure Faithful (handling : Handling) : Prop where
  /-- The requests raised are the first of the burst's requests. -/
  issued : handling.issued <+: handling.reference conversion origin
  consumed : handling.consumed.length ≤ handling.burst.beats
  /-- The read beats produced are the first of the burst's read beats. -/
  readBeats : handling.readBeats =
    (List.range handling.readBeats.length).map (handling.readBeat conversion origin)
  reads : handling.readBeats.length ≤ if handling.write then 0 else handling.burst.beats
  writeResponses : handling.writeResponses = [] ∨
    handling.write = true ∧ handling.writeResponses = [handling.writeResponse]
  /-- Once the last response is there, every request was raised and acknowledged. -/
  complete : handling.IsAnswered →
    handling.issued = handling.reference conversion origin ∧
      handling.answers.length = handling.issued.length ∧
      (handling.write = true → handling.consumed.length = handling.burst.beats)

end Handling

end BusFabric.Bridge.Inbound
