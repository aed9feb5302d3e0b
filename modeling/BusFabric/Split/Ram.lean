import BusFabric.Memory
import BusFabric.Split.Link

set_option autoImplicit false

namespace BusFabric.Split

structure Progress where
  burst : AddressBeat
  /-- Data beats handled so far. -/
  beat : Nat := 0
  deriving DecidableEq

/-- The memory and what it is doing. Writes and reads run beside each other, one burst of each at a
time. -/
structure Ram where
  name : String
  busBytes : Nat
  /-- Cycles that each read beat waits before it is driven. -/
  latency : Nat
  memory : Memory := {}
  write : Option Progress := none
  /-- A write response that found its channel occupied. -/
  owed : Option WriteResponse := none
  read : Option Progress := none
  /-- Cycles that the present read beat has waited. -/
  waited : Nat := 0

namespace Ram

/-- No burst is under way and no response is owed. -/
def isIdle (ram : Ram) : Bool :=
  ram.write.isNone && ram.owed.isNone && ram.read.isNone

/-- The address of the bus word that holds the start of the present beat. -/
def wordAddress (ram : Ram) (progress : Progress) : Address :=
  (progress.burst.beatAddress progress.beat).alignDown ram.busBytes

/-- Drives a write response that is owed, and goes on owing it while its channel is occupied. -/
def respond (ram : Ram) (link : Link) (response : Option WriteResponse) : Ram × Link :=
  let (writeResponse, owed) := link.writeResponse.settle response
  ({ ram with owed }, { link with writeResponse })

/-- Takes the write address that waits, if no write is under way. -/
def acceptWrite (ram : Ram) (link : Link) : Ram × Link :=
  match ram.write with
  | some _ => (ram, link)
  | none =>
    ({ ram with write := link.writeAddress.beat.map ({ burst := · }) },
      { link with writeAddress := link.writeAddress.clear })

/-- Stores the data beat that waits; the last of a burst is answered at once. -/
def storeBeat (ram : Ram) (link : Link) : Ram × Link :=
  match ram.write, link.writeData.beat with
  | some progress, some beat =>
    let memory :=
      ram.memory.writeWord (ram.wordAddress progress) beat.data beat.strobe ram.busBytes
    let link := { link with writeData := link.writeData.clear }
    if progress.beat + 1 = progress.burst.beats then
      respond { ram with memory, write := none } link (some ⟨progress.burst.id, .okay⟩)
    else
      ({ ram with memory, write := some { progress with beat := progress.beat + 1 } }, link)
  | _, _ => (ram, link)

/-- One cycle of the write channels. While a response is owed, nothing else is done. -/
def tickWrite (ram : Ram) (link : Link) : Ram × Link :=
  let (ram, link) := ram.respond link ram.owed
  if ram.owed.isSome then (ram, link)
  else
    let (ram, link) := ram.acceptWrite link
    ram.storeBeat link

def acceptRead (ram : Ram) (link : Link) : Ram × Link :=
  match ram.read with
  | some _ => (ram, link)
  | none =>
    ({ ram with read := link.readAddress.beat.map ({ burst := · }), waited := 0 },
      { link with readAddress := link.readAddress.clear })

def readBeat (ram : Ram) (progress : Progress) : ReadBeat where
  id := progress.burst.id
  data := ram.memory.readWord (ram.wordAddress progress) ram.busBytes
  status := .okay
  last := progress.beat + 1 = progress.burst.beats

/-- Waits for the present read beat's turn, then drives it as soon as the channel is free. -/
def driveBeat (ram : Ram) (link : Link) : Ram × Link :=
  match ram.read with
  | none => (ram, link)
  | some progress =>
    if ram.waited < ram.latency then ({ ram with waited := ram.waited + 1 }, link)
    else
      let beat := ram.readBeat progress
      match link.readData.send? beat with
      | none => (ram, link)
      | some channel =>
        let read := if beat.last then none else some { progress with beat := progress.beat + 1 }
        ({ ram with read, waited := 0 }, { link with readData := channel })

def tickRead (ram : Ram) (link : Link) : Ram × Link :=
  let (ram, link) := ram.acceptRead link
  ram.driveBeat link

/-- One cycle: the write channels first, so that a beat stored now is read now. -/
def tick (ram : Ram) (link : Link) : Ram × Link :=
  let (ram, link) := ram.tickWrite link
  ram.tickRead link

end Ram

end BusFabric.Split
