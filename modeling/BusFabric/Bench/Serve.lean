import BusFabric.Bench.Basic

set_option autoImplicit false

namespace BusFabric.Bench

inductive Event where
  | fault (fault : ProtocolFault)
  /-- A request that was acknowledged. -/
  | request (cycle : Nat) (request : Simple.Request)
  | writeResponse (cycle : Nat) (response : Split.WriteResponse)
  | readData (cycle : Nat) (beat : Split.ReadBeat)

structure Service where
  /-- Cycles that a request waits. -/
  wait : Nat := 0
  /-- The address at which requests are refused. -/
  refused : Option Address := none

/-- What a served request reads: on each lane the low byte of that lane's address. -/
def pattern (address : Address) : Data :=
  (List.range 16).foldl
    (fun data lane => data.setLane lane ((address + BitVec.ofNat 64 lane).setWidth 8)) 0

def Service.answer (service : Service) (request : Simple.Request) : Simple.Response :=
  if service.refused = some request.address then .refused
  else if request.write then .ok 0
  else .ok (pattern request.address)

structure Serving where
  bench : Bench
  /-- Write data that is still to be fed. -/
  beats : List Split.WriteBeat
  /-- Cycles that the present request has waited. -/
  waited : Nat := 0
  log : Array Event := #[]

namespace Serving

/-- Feeds the next write data beat, if its channel is free. -/
def feed (serving : Serving) : Serving :=
  match serving.beats with
  | [] => serving
  | beat :: beats =>
    match serving.bench.split.writeData.send? beat with
    | none => serving
    | some writeData =>
      { serving with
        beats
        bench := { serving.bench with split := { serving.bench.split with writeData } } }

def step (serving : Serving) : Serving :=
  let (bench, fault) := serving.bench.step
  { serving with bench, log := serving.log.appendList (fault.map Event.fault).toList }

def answer (serving : Serving) (service : Service) : Serving :=
  let bench := serving.bench
  match bench.simple.awaiting? with
  | none => serving
  | some request =>
    if serving.waited < service.wait then { serving with waited := serving.waited + 1 }
    else
      { serving with
        waited := 0
        bench := { bench with simple := bench.simple.acknowledge (service.answer request) }
        log := serving.log.push (.request bench.cycle request) }

/-- Takes what lies in the response channels. -/
def take (serving : Serving) : Serving :=
  let bench := serving.bench
  let responses := bench.split.writeResponse.beat.map (Event.writeResponse bench.cycle)
  let data := bench.split.readData.beat.map (Event.readData bench.cycle)
  let split := { bench.split with
    writeResponse := bench.split.writeResponse.clear
    readData := bench.split.readData.clear }
  { serving with
    bench := { bench with split }
    log := serving.log.appendList (responses.toList ++ data.toList) }

def tick (serving : Serving) (service : Service) : Serving :=
  let serving := ((serving.feed.step).answer service).take
  { serving with bench := { serving.bench with cycle := serving.bench.cycle + 1 } }

def ticks (serving : Serving) (service : Service) : Nat → Serving
  | 0 => serving
  | cycles + 1 => (serving.tick service).ticks service cycles

end Serving

end BusFabric.Bench
