import BusFabric.Proofs.Bridge.OutboundCycles
import BusFabric.Proofs.Simple.Handshake
import BusFabric.Proofs.Split.Handshake

set_option autoImplicit false

namespace BusFabric

namespace Bridge

open Simple (Request Response)
open Split (AddressBeat ReadBeat Status WriteBeat WriteResponse)

namespace Outbound

inductive Move where
  | raise (request : Request)
  /-- The master sees the acknowledge that is there. -/
  | complete
  | sendWriteResponse (response : WriteResponse)
  | sendReadData (beat : ReadBeat)
  | takeWriteAddress
  | takeWriteData
  | takeReadAddress
  | tick (cycle : Nat)
  deriving DecidableEq

/-- An acknowledge, and whether the bridge had given up by then. -/
structure Reply where
  response : Response
  halted : Bool
  deriving DecidableEq

structure Exchange where
  request : Request
  /-- What was handed over to the slave's channels. -/
  writeAddresses : List AddressBeat := []
  writeData : List WriteBeat := []
  readAddresses : List AddressBeat := []
  /-- What was taken of the slave's responses. -/
  writeResponses : List WriteResponse := []
  readData : List ReadBeat := []
  replies : List Reply := []
  deriving DecidableEq

namespace Junction

/-- One move of the bridge or its surroundings. Nothing can be sent into a channel that is occupied,
and nothing can be raised on a link that is not idle. -/
def act (junction : Junction) : Move → Junction
  | .raise request =>
    { junction with simple := (junction.simple.issue? request).getD junction.simple }
  | .complete => { junction with simple := junction.simple.completed }
  | .sendWriteResponse response =>
    { junction with split := { junction.split with
        writeResponse :=
          (junction.split.writeResponse.send? response).getD junction.split.writeResponse } }
  | .sendReadData beat =>
    { junction with split := { junction.split with
        readData := (junction.split.readData.send? beat).getD junction.split.readData } }
  | .takeWriteAddress =>
    { junction with split := { junction.split with
        writeAddress := junction.split.writeAddress.clear } }
  | .takeWriteData =>
    { junction with split := { junction.split with writeData := junction.split.writeData.clear } }
  | .takeReadAddress =>
    { junction with split := { junction.split with
        readAddress := junction.split.readAddress.clear } }
  | .tick cycle => (junction.tick cycle).1

end Junction

namespace Exchange

/-- Adds what passed the split link between two of its states. -/
def pass (exchange : Exchange) (before after : Split.Link) : Exchange :=
  { exchange with
    writeAddresses :=
      exchange.writeAddresses ++ (before.writeAddress.driven? after.writeAddress).toList
    writeData := exchange.writeData ++ (before.writeData.driven? after.writeData).toList
    readAddresses :=
      exchange.readAddresses ++ (before.readAddress.driven? after.readAddress).toList
    writeResponses :=
      exchange.writeResponses ++ (before.writeResponse.taken? after.writeResponse).toList
    readData := exchange.readData ++ (before.readData.taken? after.readData).toList }

def answer (exchange : Exchange) (replies : List Reply) : Exchange :=
  { exchange with replies := exchange.replies ++ replies }

/-- Adds what happened between two states of the bridge and its links. -/
def observe (exchange : Exchange) (before after : Junction) : Exchange :=
  (exchange.pass before.split after.split).answer
    ((before.simple.acknowledged? after.simple).map
      fun (_, response) => ⟨response, after.bridge.isHalted⟩).toList

end Exchange

/-- The exchanges, newest first, and the faults that the bridge reported. -/
structure Log where
  exchanges : List Exchange := []
  faults : List ProtocolFault := []

/-- The log after a move. A request that is raised opens an exchange; what the bridge does is always
entered in the newest one. -/
def Log.act (log : Log) (junction : Junction) : Move → Log
  | .raise request =>
    if junction.simple.isIdle then { log with exchanges := { request } :: log.exchanges } else log
  | .tick cycle =>
    let (after, fault) := junction.tick cycle
    { exchanges := log.exchanges.modifyHead (·.observe junction after)
      faults := log.faults ++ fault.toList }
  | _ => log

def Junction.play (junction : Junction) (log : Log) : List Move → Junction × Log
  | [] => (junction, log)
  | move :: moves => (junction.act move).play (log.act junction move) moves

/-- A bridge that has done nothing, between two idle links. -/
def Junction.fresh (port : PortId) (conversion : Conversion) (windowBase : Address) : Junction where
  bridge := { port, conversion, windowBase }
  simple := .idle
  split := {}

namespace Exchange

variable (plan : Carrier) (exchange : Exchange)

/-- What the bridge did belongs to the burst `plan` and is in its order. -/
structure Follows : Prop where
  writeAddresses : exchange.writeAddresses <+: if plan.write then [plan.burst] else []
  writeData : exchange.writeData <+: plan.beats
  readAddresses : exchange.readAddresses <+: if plan.write then [] else [plan.burst]
  writeResponses : exchange.writeResponses.length ≤ if plan.write then 1 else 0
  readData : exchange.readData.length ≤ if plan.write then 0 else plan.burst.beats

/-- The whole burst `plan` was carried out: its address and its write data were handed over, and the
responses that it asks for were taken, with the last one marked as such and no other. -/
structure Completed : Prop where
  writeAddresses : exchange.writeAddresses = if plan.write then [plan.burst] else []
  writeData : exchange.writeData = plan.beats
  writeBeats : exchange.writeData.length = if plan.write then plan.burst.beats else 0
  readAddresses : exchange.readAddresses = if plan.write then [] else [plan.burst]
  writeResponses : exchange.writeResponses.length = if plan.write then 1 else 0
  readData : exchange.readData.length = if plan.write then 0 else plan.burst.beats
  last : ∀ index beat, exchange.readData[index]? = some beat →
    beat.last = decide (index + 1 = plan.burst.beats)

/-- What the master has to be told once the burst `plan` is carried out. -/
def response : Response :=
  if plan.write then ⟨0, exchange.writeResponses.any fun response => !response.status.isOkay⟩
  else
    ⟨(exchange.readData.foldl Carrier.absorb plan).data,
      exchange.readData.any fun beat => !beat.status.isOkay⟩

/-- An exchange that the bridge `bridge` may have with its slave and its master: one burst, and at
most one reply, which is a refusal or says what came of the whole burst. -/
def InOrder (bridge : Outbound) : Prop :=
  ∃ nextId, let plan := { bridge with nextId }.plan exchange.request
    exchange.Follows plan ∧ exchange.replies.length ≤ 1 ∧
      ∀ reply ∈ exchange.replies,
        if reply.halted then reply.response = .refused
        else exchange.Completed plan ∧ reply.response = exchange.response plan

/-- The request still waits for its reply. -/
def isOpen : Bool :=
  exchange.replies.isEmpty

/-- A write response may come: the address and all the data it announces were handed over. -/
def expectsWrite : Bool :=
  exchange.isOpen &&
    exchange.writeAddresses.any fun address => exchange.writeData.length = address.beats

/-- Read data may come: the address was handed over, and announces more beats than were taken. -/
def expectsRead : Bool :=
  exchange.isOpen &&
    exchange.readAddresses.any fun address => exchange.readData.length < address.beats

def expectsLast : Bool :=
  exchange.readAddresses.any fun address => exchange.readData.length + 1 = address.beats

end Exchange

/-- What lies in the slave's channels is not what the newest exchange asks for: a response that it
does not expect, or read data whose last-beat mark is wrong. -/
def Log.IsViolated (log : Log) (split : Split.Link) : Prop :=
  (split.writeResponse.isValid = true ∧ log.exchanges.head?.any (·.expectsWrite) = false) ∨
    ∃ beat, split.readData.beat = some beat ∧
      (log.exchanges.head?.any (·.expectsRead) = false ∨
        beat.last ≠ log.exchanges.head?.any (·.expectsLast))

structure Junction.Reacts (log : Log) (junction : Junction) (cycle : Nat) : Prop where
  /-- A fault is reported exactly when the slave did what was not expected of it. -/
  fault : junction.bridge.isHalted = false →
    ((junction.tick cycle).2.isSome ↔ log.IsViolated junction.split)
  /-- A fault halts the bridge. -/
  halts : ∀ fault, (junction.tick cycle).2 = some fault →
    fault.port = junction.bridge.port ∧ fault.cycle = cycle ∧
      (junction.tick cycle).1.bridge.isHalted = true
  /-- In the tick that halts the bridge and in every one after it, the request that waits is
  refused. -/
  refuses : (junction.tick cycle).1.bridge.isHalted = true →
    (∀ request, junction.simple.awaiting? = some request →
      (junction.tick cycle).1.simple = .answered request .refused) ∧
    (junction.tick cycle).1.simple.awaiting? = none
  /-- After that, nothing else happens. -/
  silent : junction.bridge.isHalted = true →
    (junction.tick cycle).2 = none ∧ (junction.tick cycle).1.split = junction.split ∧
      (junction.tick cycle).1.bridge = junction.bridge
  /-- Nothing is driven for no request. -/
  rests : junction.simple.awaiting? = none →
    (junction.tick cycle).1.split = junction.split

end Outbound

end Bridge

end BusFabric
