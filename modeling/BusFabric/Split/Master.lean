import BusFabric.Split.Link

set_option autoImplicit false

namespace BusFabric.Split

/-- A transaction with everything the master has to send. -/
inductive Op where
  | write (burst : AddressBeat) (beats : List WriteBeat)
  | read (burst : AddressBeat)
  deriving DecidableEq

namespace Op

/-- The data beat of an operation that carries `datum`, unshifted, as beat `index` of a burst:
its bytes lie on the lanes that the beat's address selects. -/
def writeBeat (burst : AddressBeat) (busBytes count index : Nat) (datum : Data) : WriteBeat :=
  let bytes := burst.beatBytes
  let lane := burst.beatLane index busBytes
  { data := datum.truncate bytes <<< (8 * lane)
    strobe := Strobe.full bytes <<< lane
    last := index + 1 = count }

/-- A write burst of the given data, one datum per beat. Data past the longest burst is dropped. -/
def writeBurst (id : BitVec 32) (address : Address) (size : BitVec 8) (mode : BurstMode)
    (data : List Data) (busBytes : Nat) : Op :=
  let data := data.take maxBeats
  let burst := { AddressBeat.incr id address size data.length with mode }
  .write burst (data.mapIdx fun index datum => writeBeat burst busBytes data.length index datum)

def readBurst (id : BitVec 32) (address : Address) (size : BitVec 8) (mode : BurstMode)
    (beats : Nat) : Op :=
  .read { AddressBeat.incr id address size beats with mode }

end Op

/-- What came back for an operation, and when. -/
inductive Completion where
  | write (id : BitVec 32) (status : Status) (cycle : Nat)
  /-- The data of each beat, moved down from its lanes. -/
  | read (id : BitVec 32) (data : List Data) (status : Status) (cycle : Nat)
  deriving DecidableEq

structure Playing where
  op : Op
  addressSent : Bool := false
  /-- Write data beats sent so far. -/
  sent : Nat := 0
  /-- Data of the read beats received so far, the latest first. -/
  received : List Data := []
  status : Status := .okay
  deriving DecidableEq

/-- The master's script and record. -/
structure Master where
  busBytes : Nat
  queue : List Op := []
  current : Option Playing := none
  completions : Array Completion := #[]
  deriving DecidableEq

namespace Master

/-- Appends an operation to the script. -/
def push (master : Master) (op : Op) : Master :=
  { master with queue := master.queue ++ [op] }

/-- Nothing is left to play and nothing is being played. -/
def isDone (master : Master) : Bool :=
  master.queue.isEmpty && master.current.isNone

/-- Enters the record of the operation that was being played. -/
def finish (master : Master) (completion : Completion) : Master :=
  { master with current := none, completions := master.completions.push completion }

/-- One cycle of a write: offers its address and its next data beat, and takes a response. A
response that comes before the address was sent is dropped. -/
def tickWrite (master : Master) (link : Link) (cycle : Nat) (playing : Playing)
    (burst : AddressBeat) (beats : List WriteBeat) : Master × Link :=
  let (writeAddress, unsent) :=
    link.writeAddress.settle (if playing.addressSent then none else some burst)
  let (writeData, held) := link.writeData.settle beats[playing.sent]?
  let sent := if beats[playing.sent]?.isSome && held.isNone then playing.sent + 1 else playing.sent
  let playing := { playing with addressSent := unsent.isNone, sent }
  let response? := link.writeResponse.beat
  let link := { link with writeAddress, writeData, writeResponse := link.writeResponse.clear }
  match response? with
  | some response =>
    if playing.addressSent then (master.finish (.write response.id response.status cycle), link)
    else ({ master with current := some playing }, link)
  | none => ({ master with current := some playing }, link)

/-- One cycle of a read: offers its address and takes a data beat. Data that comes before the
address was sent is dropped. -/
def tickRead (master : Master) (link : Link) (cycle : Nat) (playing : Playing)
    (burst : AddressBeat) : Master × Link :=
  let (readAddress, unsent) :=
    link.readAddress.settle (if playing.addressSent then none else some burst)
  let playing := { playing with addressSent := unsent.isNone }
  let beat? := link.readData.beat
  let link := { link with readAddress, readData := link.readData.clear }
  match beat? with
  | some beat =>
    if playing.addressSent then
      let lane := burst.beatLane playing.received.length master.busBytes
      let datum := Data.truncate (beat.data >>> (8 * lane)) burst.beatBytes
      let received := datum :: playing.received
      let status := playing.status.merge beat.status
      if beat.last then (master.finish (.read beat.id received.reverse status cycle), link)
      else ({ master with current := some { playing with received, status } }, link)
    else ({ master with current := some playing }, link)
  | none => ({ master with current := some playing }, link)

/-- Takes the next operation up, if none is being played. -/
def start (master : Master) : Master :=
  match master.current, master.queue with
  | none, op :: queue => { master with current := some { op }, queue }
  | _, _ => master

def tick (master : Master) (link : Link) (cycle : Nat) : Master × Link :=
  let master := master.start
  match master.current with
  | none => (master, link)
  | some playing =>
    match playing.op with
    | .write burst beats => master.tickWrite link cycle playing burst beats
    | .read burst => master.tickRead link cycle playing burst

end Master

end BusFabric.Split
