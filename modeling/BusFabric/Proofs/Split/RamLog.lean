import BusFabric.Proofs.Split.Handshake
import BusFabric.Split.Ram

set_option autoImplicit false

namespace BusFabric.Split

namespace Ram

structure Site where
  ram : Ram
  link : Link

inductive Move where
  | sendWriteAddress (burst : AddressBeat)
  | sendWriteData (beat : WriteBeat)
  | takeWriteResponse
  | sendReadAddress (burst : AddressBeat)
  | takeReadData
  | tick
  deriving DecidableEq

/-- The master does something to a write channel. -/
def Move.isWrite : Move → Bool
  | .sendWriteAddress _ | .sendWriteData _ | .takeWriteResponse => true
  | .sendReadAddress _ | .takeReadData | .tick => false

def Site.tick (site : Site) : Site :=
  let (ram, link) := site.ram.tick site.link
  { ram, link }

/-- One move. Nothing can be sent into a channel that is occupied. -/
def Site.act (site : Site) : Move → Site
  | .sendWriteAddress burst =>
    { site with link := { site.link with
        writeAddress := (site.link.writeAddress.send? burst).getD site.link.writeAddress } }
  | .sendWriteData beat =>
    { site with link := { site.link with
        writeData := (site.link.writeData.send? beat).getD site.link.writeData } }
  | .takeWriteResponse =>
    { site with link := { site.link with writeResponse := site.link.writeResponse.clear } }
  | .sendReadAddress burst =>
    { site with link := { site.link with
        readAddress := (site.link.readAddress.send? burst).getD site.link.readAddress } }
  | .takeReadData =>
    { site with link := { site.link with readData := site.link.readData.clear } }
  | .tick => site.tick

/-- How many of the cycles among some moves find the link in a certain state. -/
def Site.cyclesWith (site : Site) (finds : Link → Bool) : List Move → Nat
  | [] => 0
  | move :: moves =>
    (if move = .tick ∧ finds site.link then 1 else 0) + (site.act move).cyclesWith finds moves

/-- A memory that has done nothing, at an idle link. -/
def Site.fresh (name : String) (busBytes latency : Nat) (memory : Memory) : Site where
  ram := { name, busBytes, latency, memory }
  link := {}

structure WriteLog where
  /-- The addresses that the memory took. -/
  bursts : List AddressBeat := []
  /-- The data that the memory took. -/
  data : List WriteBeat := []
  /-- The responses that the memory drove. -/
  responses : List WriteResponse := []
  /-- The responses that the master took. -/
  received : List WriteResponse := []

structure Delivery where
  cycle : Nat
  beat : ReadBeat
  /-- The memory as that cycle left it. -/
  memory : Memory

/-- What can be said of a delivery without its data. -/
def Delivery.mark (delivery : Delivery) : Nat × BitVec 32 × Bool :=
  (delivery.cycle, delivery.beat.id, delivery.beat.last)

structure ReadLog where
  /-- The addresses that the memory took. -/
  bursts : List AddressBeat := []
  deliveries : List Delivery := []
  /-- The read beats that the master took. -/
  received : List ReadBeat := []

/-- What passed the link, and the number of cycles so far. -/
structure Log where
  cycles : Nat := 0
  writes : WriteLog := {}
  reads : ReadLog := {}

/-- Enters what the memory did to the write channels. -/
def WriteLog.observe (log : WriteLog) (before after : Link) : WriteLog :=
  { log with
    bursts := log.bursts ++ (before.writeAddress.taken? after.writeAddress).toList
    data := log.data ++ (before.writeData.taken? after.writeData).toList
    responses := log.responses ++ (before.writeResponse.driven? after.writeResponse).toList }

def ReadLog.observe (log : ReadLog) (cycle : Nat) (memory : Memory) (before after : Link) :
    ReadLog :=
  { log with
    bursts := log.bursts ++ (before.readAddress.taken? after.readAddress).toList
    deliveries := log.deliveries ++
      (before.readData.driven? after.readData).toList.map (⟨cycle, ·, memory⟩) }

def Log.act (log : Log) (site : Site) : Move → Log
  | .takeWriteResponse =>
    { log with writes := { log.writes with
        received := log.writes.received ++ site.link.writeResponse.beat.toList } }
  | .takeReadData =>
    { log with reads := { log.reads with
        received := log.reads.received ++ site.link.readData.beat.toList } }
  | .tick =>
    { cycles := log.cycles + 1
      writes := log.writes.observe site.link site.tick.link
      reads := log.reads.observe log.cycles site.tick.ram.memory site.link site.tick.link }
  | .sendWriteAddress _ | .sendWriteData _ | .sendReadAddress _ => log

def Site.play (site : Site) (log : Log) : List Move → Site × Log
  | [] => (site, log)
  | move :: moves => (site.act move).play (log.act site move) moves

end Ram

def Progress.word (spot : Progress) (busBytes : Nat) : Address :=
  (spot.burst.beatAddress spot.beat).alignDown busBytes

namespace Ram

/-- The data beats of some bursts, in order. -/
def spots (bursts : List AddressBeat) : List Progress :=
  bursts.flatMap fun burst => (List.range burst.beats).map ({ burst, beat := · })

/-- What a memory holds once some data were stored, in the order of the bursts that they belong
to. -/
def filled (memory : Memory) (busBytes : Nat) (bursts : List AddressBeat) (data : List WriteBeat) :
    Memory :=
  ((spots bursts).zip data).foldl
    (fun memory (spot, beat) =>
      memory.writeWord (spot.word busBytes) beat.data beat.strobe busBytes) memory

/-- The bursts whose data beats are all among the first `count`. -/
def completed : List AddressBeat → Nat → List AddressBeat
  | [], _ => []
  | burst :: bursts, count =>
    if burst.beats ≤ count then burst :: completed bursts (count - burst.beats) else []

/-- The memory holds what was written to it, and every burst whose data it has is answered. -/
structure WriteLog.Accounts (log : WriteLog) (memory : Memory) (busBytes : Nat) (site : Site) :
    Prop where
  memory : site.ram.memory = filled memory busBytes log.bursts log.data
  /-- Each data beat that was taken belongs to a burst that was taken. -/
  within : log.data.length ≤ (spots log.bursts).length
  /-- Only the last burst may lack data. -/
  single : log.bursts.length ≤ (completed log.bursts log.data.length).length + 1
  /-- One response for each complete burst, driven or still owed. -/
  responses : log.responses ++ site.ram.owed.toList =
    (completed log.bursts log.data.length).map fun burst => ⟨burst.id, .okay⟩
  /-- No response is lost on its way. -/
  received : log.received ++ site.link.writeResponse.beat.toList = log.responses

/-- No response that is due has to wait for its channel. -/
def WriteLog.IsUnblocked (log : WriteLog) (site : Site) : Prop :=
  site.link.writeResponse.isReady ∨
    log.responses.length = (completed log.bursts log.data.length).length

def dueBeat (spot : Progress) (memory : Memory) (busBytes : Nat) : ReadBeat where
  id := spot.burst.id
  data := memory.readWord (spot.word busBytes) busBytes
  status := .okay
  last := spot.beat + 1 = spot.burst.beats

/-- The read beats are those of the bursts, in order, each as the memory stood when it was
driven. -/
structure ReadLog.Accounts (log : ReadLog) (busBytes : Nat) (site : Site) : Prop where
  deliveries : ∀ (index : Nat) (delivery : Delivery), log.deliveries[index]? = some delivery →
    ∃ spot, (spots log.bursts)[index]? = some spot ∧
      delivery.beat = dueBeat spot delivery.memory busBytes
  /-- Only the last burst may lack beats. -/
  single : log.bursts.length ≤ (completed log.bursts log.deliveries.length).length + 1
  /-- No read beat is lost on its way. -/
  received : log.received ++ site.link.readData.beat.toList = log.deliveries.map (·.beat)

/-- The next cycle takes what waits. Writes go on unless a response is due and finds its channel
occupied; an address is taken once the burst before it has all of its beats. -/
structure Log.Proceeds (log : Log) (site : Site) : Prop where
  writeAddress : log.writes.IsUnblocked site →
    log.writes.data.length = (spots log.writes.bursts).length →
    (log.act site .tick).writes.bursts =
      log.writes.bursts ++ site.link.writeAddress.beat.toList
  writeData : log.writes.IsUnblocked site →
    log.writes.data.length < (spots log.writes.bursts).length ∨ site.link.writeAddress.isValid →
    (log.act site .tick).writes.data = log.writes.data ++ site.link.writeData.beat.toList
  readAddress : log.reads.deliveries.length = (spots log.reads.bursts).length →
    (log.act site .tick).reads.bursts = log.reads.bursts ++ site.link.readAddress.beat.toList

/-- Whatever comes next, all that is due is driven in a bounded number of the cycles that find its
channel free: the responses in one cycle, each read beat in a cycle of its own and as many more as
it waits. -/
structure Log.Finishes (log : Log) (latency : Nat) (site : Site) : Prop where
  writes : ∀ later, 1 ≤ site.cyclesWith (·.writeResponse.isReady) later →
    (completed log.writes.bursts log.writes.data.length).length ≤
      (site.play log later).2.writes.responses.length
  reads : ∀ later, ((spots log.reads.bursts).length - log.reads.deliveries.length) * (latency + 1) ≤
      site.cyclesWith (·.readData.isReady) later →
    (spots log.reads.bursts).length ≤ (site.play log later).2.reads.deliveries.length

@[simp] theorem spots_append (bursts more : List AddressBeat) :
    spots (bursts ++ more) = spots bursts ++ spots more :=
  List.flatMap_append

theorem spots_singleton (burst : AddressBeat) :
    spots [burst] = (List.range burst.beats).map ({ burst, beat := · }) :=
  List.flatMap_singleton ..

theorem length_spots_singleton (burst : AddressBeat) : (spots [burst]).length = burst.beats := by
  rw [spots_singleton, List.length_map, List.length_range]

theorem completed_append (bursts more : List AddressBeat) (count : Nat) :
    completed (bursts ++ more) ((spots bursts).length + count) =
      bursts ++ completed more count := by
  induction bursts with
  | nil => rw [show (spots []).length = 0 from rfl, Nat.zero_add]; rfl
  | cons first bursts ih =>
    have length : (spots (first :: bursts)).length = first.beats + (spots bursts).length := by
      rw [← List.singleton_append, spots_append, List.length_append, length_spots_singleton]
    rw [List.cons_append, completed, length, if_pos (by omega),
      show first.beats + (spots bursts).length + count - first.beats =
        (spots bursts).length + count by omega, ih]
    rfl

theorem completed_of_length (bursts : List AddressBeat) :
    completed bursts (spots bursts).length = bursts := by
  have whole := completed_append bursts [] 0
  rw [List.append_nil, Nat.add_zero] at whole
  exact whole.trans (List.append_nil _)

/-- Of the data beats of some bursts the first `count` are handled, and the last burst is the one
under way, if there is one. -/
inductive Underway : List AddressBeat → Nat → Option Progress → Prop where
  | rests (bursts : List AddressBeat) : Underway bursts (spots bursts).length none
  | works (past : List AddressBeat) (progress : Progress)
      (unfinished : progress.beat < progress.burst.beats) :
      Underway (past ++ [progress.burst]) ((spots past).length + progress.beat) (some progress)

namespace Underway

variable {bursts : List AddressBeat} {count : Nat} {progress : Progress} {burst : AddressBeat}

theorem begins (rests : Underway bursts count none) (burst : AddressBeat) :
    Underway (bursts ++ [burst]) count (some { burst }) := by
  cases rests
  exact .works bursts { burst } (Nat.succ_pos _)

theorem goesOn (works : Underway bursts count (some progress))
    (more : progress.beat + 1 ≠ progress.burst.beats) :
    Underway bursts (count + 1) (some { progress with beat := progress.beat + 1 }) := by
  cases works with
  | works past _ unfinished =>
    exact .works past { progress with beat := progress.beat + 1 } (by dsimp only; omega)

theorem ends (works : Underway bursts count (some progress))
    (last : progress.beat + 1 = progress.burst.beats) : Underway bursts (count + 1) none := by
  cases works with
  | works past =>
    have all : (spots (past ++ [progress.burst])).length =
        (spots past).length + progress.beat + 1 := by
      rw [spots_append, List.length_append, length_spots_singleton, ← last, Nat.add_assoc]
    rw [← all]
    exact .rests _

theorem lt_length (works : Underway bursts count (some progress)) :
    count < (spots bursts).length := by
  cases works with
  | works past progress unfinished =>
    rw [spots_append, List.length_append, length_spots_singleton]
    omega

theorem length_le {progress : Option Progress} (underway : Underway bursts count progress) :
    count ≤ (spots bursts).length := by
  cases progress with
  | none => cases underway; exact Nat.le_refl _
  | some progress => exact Nat.le_of_lt underway.lt_length

theorem eq_none_of_length {progress : Option Progress} (underway : Underway bursts count progress)
    (all : count = (spots bursts).length) : progress = none := by
  cases progress with
  | none => rfl
  | some progress => exact absurd all (Nat.ne_of_lt underway.lt_length)

theorem exists_of_lt {progress : Option Progress} (underway : Underway bursts count progress)
    (unfinished : count < (spots bursts).length) : ∃ spot, progress = some spot := by
  cases underway with
  | rests => exact absurd unfinished (Nat.lt_irrefl _)
  | works past spot => exact ⟨spot, rfl⟩

theorem getElem?_spots (works : Underway bursts count (some progress)) :
    (spots bursts)[count]? = some progress := by
  cases works with
  | works past progress unfinished =>
    rw [spots_append, List.getElem?_append_right (Nat.le_add_right _ _), Nat.add_sub_cancel_left,
      spots_singleton, List.getElem?_map, List.getElem?_range unfinished]
    rfl

theorem completed_of_works (works : Underway bursts count (some progress)) :
    bursts = completed bursts count ++ [progress.burst] := by
  cases works with
  | works past progress unfinished =>
    rw [completed_append, completed, if_neg (Nat.not_le.mpr unfinished), List.append_nil]

theorem completed_of_rests (rests : Underway bursts count none) :
    completed bursts count = bursts := by
  cases rests
  exact completed_of_length bursts

theorem completed_begins (rests : Underway bursts count none) (burst : AddressBeat) :
    completed (bursts ++ [burst]) count = completed bursts count := by
  rw [rests.completed_of_rests]
  exact (List.append_cancel_right (rests.begins burst).completed_of_works).symm

theorem completed_goesOn (works : Underway bursts count (some progress))
    (more : progress.beat + 1 ≠ progress.burst.beats) :
    completed bursts (count + 1) = completed bursts count :=
  List.append_cancel_right
    ((works.goesOn more).completed_of_works.symm.trans works.completed_of_works)

theorem completed_ends (works : Underway bursts count (some progress))
    (last : progress.beat + 1 = progress.burst.beats) :
    completed bursts (count + 1) = completed bursts count ++ [progress.burst] :=
  (works.ends last).completed_of_rests.trans works.completed_of_works

theorem length_le_completed {progress : Option Progress}
    (underway : Underway bursts count progress) :
    bursts.length ≤ (completed bursts count).length + 1 := by
  cases progress with
  | none => rw [underway.completed_of_rests]; exact Nat.le_succ _
  | some progress =>
    have all := congrArg List.length underway.completed_of_works
    rw [List.length_append] at all
    exact Nat.le_of_eq all

end Underway

end Ram

end BusFabric.Split
