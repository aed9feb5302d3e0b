import BusFabric.Proofs.Bridge.InboundCycles
import BusFabric.Proofs.Fabric.Idle
import BusFabric.Proofs.Fabric.Pair
import BusFabric.Proofs.Split.Master

set_option autoImplicit false

namespace BusFabric.Fabric

open Bridge (Access Inbound)
open Bridge.Inbound (Accepts PlansRead PlansWrite inBeat)
open Crossbar (Lane)
open Simple (Request Response)
open Split (AddressBeat Master Op WriteBeat)
open Split.Master (Buffered)

def heldLane (lane : Lane MasterAgent) (agent : MasterAgent) (link : Simple.Link) :
    Lane MasterAgent :=
  { lane with isServed := false, agent, link }

/-- What a slave holds after some accesses. -/
def storedAll (simpleBytes : Nat) (place : Address → Address) (bytes : Address → Byte)
    (accesses : List Access) : Address → Byte :=
  accesses.foldl
    (fun bytes access =>
      updated simpleBytes (place access.request.address) access.request bytes) bytes

theorem tickLane_split (lane : Lane MasterAgent) {script after : Master}
    {split sent given : Split.Link} {bridge next : Inbound} {link moved : Simple.Link} {cycle : Nat}
    (plays : script.tick split cycle = (after, sent))
    (moves : Inbound.Junction.tick ⟨bridge, sent, link⟩ cycle = (⟨next, given, moved⟩, none)) :
    tickLane cycle (heldLane lane (.split script split bridge) link) =
      (heldLane lane (.split after given next) moved, none) := by
  unfold tickLane heldLane
  dsimp only
  rw [plays, moves]

section

variable {simpleBytes : Nat} {isServed : Address → Prop} {place : Address → Address}
  {rests : (Address → Byte) → SlaveAgent → Prop} {port : PortId} {faults : Array ProtocolFault}
  {frame : Crossbar MasterAgent SlaveAgent} {lane : Lane MasterAgent}
  {bytes : Address → Byte} {fabric : Fabric} {script : Master} {bridge : Inbound}
  {burst : AddressBeat} {beats : List WriteBeat} {beat : Nat} {pending : List Access}
  {access : Access} {agent : MasterAgent} {queue : List Op}

/-- Data beat `beat` of a write: an access of it waits and `pending` is left. -/
def Writes (script : Master) (bridge : Inbound) (burst : AddressBeat) (beats : List WriteBeat)
    (beat : Nat) (pending : List Access) (access : Access) (agent : MasterAgent) : Prop :=
  ∃ channel sent, Buffered beats (beat + 1) channel sent ∧
    agent = .split (script.writing burst beats sent) { writeData := channel }
      (bridge.asking (inBeat burst true beat pending 0) access)

theorem Writes.keepsWaiting (clear : bridge.IsClear) :
    KeepsWaiting (Writes script bridge burst beats beat pending access) := by
  rintro cycle lane request ⟨channel, sent, buffered, agent⟩ waits
  obtain ⟨after, buffered, plays⟩ := script.tick_write burst buffered cycle
  have moves : Inbound.Junction.tick ⟨bridge.asking (inBeat burst true beat pending 0) access,
      { writeData := ⟨beats[beat + 1]?⟩ }, .waiting request⟩ cycle = _ :=
    Inbound.Junction.tick_wait clear cycle
  refine ⟨_, ?_, _, _, buffered, rfl⟩
  unfold tickLane
  rw [agent]
  dsimp only
  rw [plays, waits, moves]

def Reaches (isServed : Address → Prop) (map : AddressMap) (port : PortId)
    (accesses : List Access) : Prop :=
  ∀ access ∈ accesses, isServed access.request.address ∧
    map.decode access.request.address = some port

def laterAccesses (accesses : Nat → List Access) (beat count : Nat) : List Access :=
  (List.range' (beat + 1) (count - (beat + 1))).flatMap accesses

theorem laterAccesses_eq_nil {accesses : Nat → List Access} {count : Nat}
    (some_ : ∀ beat, accesses beat ≠ []) (none_ : laterAccesses accesses beat count = [])
    (inside : beat < count) : beat + 1 = count := by
  by_cases last : beat + 1 = count
  · exact last
  · have first : beat + 1 ∈ List.range' (beat + 1) (count - (beat + 1)) := by
      rw [List.mem_range'_1]
      omega
    exact absurd (List.flatMap_eq_nil_iff.mp none_ _ first) (some_ _)

theorem laterAccesses_succ {accesses : Nat → List Access} {count : Nat}
    (more : beat + 1 < count) :
    laterAccesses accesses beat count =
      accesses (beat + 1) ++ laterAccesses accesses (beat + 1) count := by
  have length : count - (beat + 1) = (count - (beat + 1 + 1)) + 1 := by omega
  unfold laterAccesses
  rw [length, List.range'_succ, List.flatMap_cons]

theorem flatMap_range {accesses : Nat → List Access} {count : Nat} (nonempty : 0 < count) :
    (List.range count).flatMap accesses = accesses 0 ++ laterAccesses accesses 0 count := by
  have length : count = (count - (0 + 1)) + 1 := by omega
  unfold laterAccesses
  rw [List.range_eq_range', length, List.range'_succ, List.flatMap_cons]
  rfl

/-- The next access of a write is raised in the cycle after an acknowledge. -/
theorem Writes.next (lane : Lane MasterAgent) {accesses : Nat → List Access}
    (clear : bridge.IsClear)
    (whole : beats.length = burst.beats)
    (plans : ∀ (beat : Nat) (inside : beat < beats.length),
      PlansWrite bridge.conversion bridge.origin burst beat beats[beat] (accesses beat))
    (some_ : ∀ beat, accesses beat ≠ []) (inside : beat < beats.length)
    (part : ∀ access ∈ pending, access ∈ accesses beat) {first : Access} {left : List Access}
    (order : first :: left = pending ++ laterAccesses accesses beat beats.length)
    (writes : Writes script bridge burst beats beat pending access agent) (request : Request)
    (cycle : Nat) :
    ∃ beat' pending' agent', beat' < beats.length ∧ first ∈ accesses beat' ∧
      (∀ access ∈ pending', access ∈ accesses beat') ∧
      left = pending' ++ laterAccesses accesses beat' beats.length ∧
      Writes script bridge burst beats beat' pending' first agent' ∧
      tickLane cycle (heldLane lane agent (.answered request (.ok 0))) =
        (heldLane lane agent' (.waiting first.request), none) := by
  obtain ⟨channel, sent, buffered, rfl⟩ := writes
  obtain ⟨after, buffered, plays⟩ := script.tick_write burst buffered cycle
  cases pending with
  | cons head pending =>
    obtain ⟨rfl, rfl⟩ := List.cons.inj order
    exact ⟨beat, pending, _, inside, part first List.mem_cons_self,
      fun access mem => part access (List.mem_cons_of_mem _ mem), rfl, ⟨_, _, buffered, rfl⟩,
      tickLane_split lane plays (Inbound.Junction.tick_next_word clear rfl cycle)⟩
  | nil =>
    rw [List.nil_append] at order
    by_cases last : beat + 1 = beats.length
    · unfold laterAccesses at order
      rw [last, Nat.sub_self] at order
      cases order
    · have more : beat + 1 < beats.length := by omega
      rw [laterAccesses_succ more] at order
      have found := List.getElem?_eq_getElem more
      rw [found] at buffered plays
      have planned := plans (beat + 1) more
      cases these : accesses (beat + 1) with
      | nil => exact absurd these (some_ _)
      | cons head others =>
        rw [these] at order planned
        obtain ⟨rfl, rfl⟩ := List.cons.inj order
        refine ⟨beat + 1, others, _, more, ?_, ?_, rfl, ⟨_, _, buffered.take, rfl⟩,
          tickLane_split lane plays
            (Inbound.Junction.tick_next_write clear rfl (by omega) planned cycle)⟩
        · rw [these]
          exact List.mem_cons_self
        · intro access mem
          rw [these]
          exact List.mem_cons_of_mem _ mem

theorem Writes.done (lane : Lane MasterAgent) (clear : bridge.IsClear)
    (whole : beats.length = burst.beats) (last : beat + 1 = beats.length)
    (writes : Writes script bridge burst beats beat [] access agent) (request : Request)
    (cycle : Nat) :
    ∃ sent, Buffered beats beats.length ⟨none⟩ sent ∧
      tickLane cycle (heldLane lane agent (.answered request (.ok 0))) =
        (heldLane lane (.split (script.writing burst beats sent)
          { writeResponse := ⟨some ⟨burst.id, .okay⟩⟩ } bridge.resting) .idle, none) := by
  obtain ⟨channel, sent, buffered, rfl⟩ := writes
  obtain ⟨after, buffered, plays⟩ := script.tick_write burst buffered cycle
  rw [last, List.getElem?_eq_none (Nat.le_refl _)] at buffered plays
  exact ⟨after, buffered, tickLane_split lane plays
    (Inbound.Junction.tick_write_done clear rfl (last.trans whole) cycle)⟩

variable (store : Store simpleBytes isServed place rests)

include store

/-- An access of a write, from the cycle in which it is raised until it is acknowledged. -/
theorem Between.write_word {held : Lane MasterAgent}
    (between : Between rests frame port faults held bytes fabric) (clear : bridge.IsClear)
    (masters : tickLane fabric.cycle held =
      (heldLane lane agent (.waiting access.request), none))
    (writes : Writes script bridge burst beats beat pending access agent)
    (write : access.request.write = true) (inside : isServed access.request.address)
    (owned : frame.map.decode access.request.address = some port) :
    Eventually (fun later => ∃ agent, Writes script bridge burst beats beat pending access agent ∧
      Between rests frame port faults
        (heldLane lane agent (.answered access.request (.ok 0)))
        (storedAll simpleBytes place bytes [access]) later) fabric := by
  have carried := between.carries store (Writes.keepsWaiting clear) masters rfl writes owned inside
  refine carried.bind ?_
  rintro later ⟨agent, writes, between⟩
  have answer : reply simpleBytes (place access.request.address) access.request bytes =
      .ok 0 := by
    unfold reply
    rw [if_pos write]
  rw [answer] at between
  exact .now ⟨agent, writes, between⟩

theorem Between.write_rest {accesses : Nat → List Access} (clear : bridge.IsClear)
    (whole : beats.length = burst.beats)
    (plans : ∀ (beat : Nat) (inside : beat < beats.length),
      PlansWrite bridge.conversion bridge.origin burst beat beats[beat] (accesses beat))
    (some_ : ∀ beat, accesses beat ≠ [])
    (write : ∀ beat, ∀ access ∈ accesses beat, access.request.write = true)
    (reaches : ∀ beat < beats.length, Reaches isServed frame.map port (accesses beat))
    (inside : beat < beats.length) (part : ∀ access ∈ pending, access ∈ accesses beat)
    {left : List Access} (order : left = pending ++ laterAccesses accesses beat beats.length)
    (writes : Writes script bridge burst beats beat pending access agent)
    (between : Between rests frame port faults
      (heldLane lane agent (.answered access.request (.ok 0))) bytes fabric) :
    Eventually (fun later => ∃ sent, Buffered beats beats.length ⟨none⟩ sent ∧
      Between rests frame port faults
        (heldLane lane (.split (script.writing burst beats sent)
          { writeResponse := ⟨some ⟨burst.id, .okay⟩⟩ } bridge.resting) .idle)
        (storedAll simpleBytes place bytes left) later) fabric := by
  induction left generalizing beat pending access agent bytes fabric with
  | nil =>
    obtain ⟨rfl, none_⟩ := List.append_eq_nil_iff.mp order.symm
    have last := laterAccesses_eq_nil some_ none_ inside
    obtain ⟨sent, buffered, masters⟩ :=
      writes.done lane clear whole last access.request fabric.cycle
    exact .next (.now ⟨sent, buffered, (between.quiet store masters rfl).1⟩)
  | cons first left ih =>
    obtain ⟨beat', pending', agent', inside', mem, part', order', writes', masters⟩ :=
      writes.next lane clear whole plans some_ inside part order access.request
        fabric.cycle
    obtain ⟨served, owned⟩ := reaches beat' inside' first mem
    have word := between.write_word store clear masters writes' (write beat' first mem) served owned
    refine word.bind ?_
    rintro later ⟨agent, writes, between⟩
    exact ih inside' part' order' writes between

/-- A write burst that the script comes to is carried out, and leaves its accesses stored. -/
theorem Between.write_burst {accesses : Nat → List Access} (clear : bridge.IsClear)
    (accepts : Accepts bridge.conversion burst) (whole : beats.length = burst.beats)
    (plans : ∀ (beat : Nat) (inside : beat < beats.length),
      PlansWrite bridge.conversion bridge.origin burst beat beats[beat] (accesses beat))
    (some_ : ∀ beat, accesses beat ≠ [])
    (write : ∀ beat, ∀ access ∈ accesses beat, access.request.write = true)
    (reaches : ∀ beat < beats.length, Reaches isServed frame.map port (accesses beat))
    (free : script.current = none) (next : script.queue = .write burst beats :: queue)
    (between : Between rests frame port faults
      (heldLane lane (.split script {} bridge.resting) .idle) bytes fabric) :
    Eventually (fun later => ∃ cycle,
      Between rests frame port faults
        (heldLane lane (.split
          { script with
            queue
            current := none
            completions := script.completions.push (.write burst.id .okay cycle) }
          {} { bridge with preferRead := true }.resting) .idle)
        (storedAll simpleBytes place bytes
          ((List.range beats.length).flatMap accesses)) later) fabric := by
  have nonempty : 0 < beats.length := by
    rw [whole]
    exact Nat.succ_pos _
  have clear' := clear.prefer true
  obtain ⟨sent, buffered, plays⟩ := script.tick_write_start free next fabric.cycle
  rw [List.getElem?_eq_getElem nonempty] at buffered plays
  have planned := plans 0 nonempty
  cases these : accesses 0 with
  | nil => exact absurd these (some_ 0)
  | cons first others =>
    rw [these] at planned
    have masters := tickLane_split lane plays
      (Inbound.Junction.tick_accept_write clear accepts planned fabric.cycle)
    have mem : first ∈ accesses 0 := by
      rw [these]
      exact List.mem_cons_self
    have part : ∀ access ∈ others, access ∈ accesses 0 := by
      intro access held
      rw [these]
      exact List.mem_cons_of_mem _ held
    have writes : Writes { script with queue } { bridge with preferRead := true } burst beats 0
        others first _ := ⟨⟨none⟩, sent, buffered.take, rfl⟩
    have order : (List.range beats.length).flatMap accesses =
        first :: (others ++ laterAccesses accesses 0 beats.length) := by
      rw [flatMap_range nonempty, these]
      rfl
    have word := between.write_word store clear' masters writes (write 0 first mem)
      (reaches 0 nonempty first mem).1 (reaches 0 nonempty first mem).2
    rw [order]
    refine word.bind ?_
    rintro later ⟨agent, writes, between⟩
    have rest := between.write_rest store clear' whole plans some_ write reaches nonempty part rfl
      writes
    refine rest.bind ?_
    rintro later ⟨sent, buffered, between⟩
    have plays := Master.tick_write_end { script with queue } burst buffered ⟨burst.id, .okay⟩
      later.cycle
    have masters := tickLane_split lane plays
      (Inbound.Junction.tick_rest clear' rfl rfl later.cycle)
    exact .next (.now ⟨later.cycle, (between.quiet store masters rfl).1⟩)

end

section

variable {simpleBytes : Nat} {isServed : Address → Prop} {place : Address → Address}
  {rests : (Address → Byte) → SlaveAgent → Prop} {port : PortId} {faults : Array ProtocolFault}
  {frame : Crossbar MasterAgent SlaveAgent} {lane : Lane MasterAgent}
  {bytes : Address → Byte} {fabric : Fabric} {script : Master} {bridge : Inbound}
  {burst : AddressBeat} {beat : Nat} {pending : List Access} {content : Nat → Data}
  {access : Access} {agent : MasterAgent} {queue : List Op}

/-- A beat of which some accesses are answered, after one more is. -/
def gatherFrom (simpleBytes : Nat) (place : Address → Address) (bytes : Address → Byte)
    (data : Data) (access : Access) : Data :=
  access.gather
    (reply simpleBytes (place access.request.address) access.request bytes).data data

/-- What some accesses of a read gather from a slave that holds `bytes`. -/
def readOut (simpleBytes : Nat) (place : Address → Address) (bytes : Address → Byte)
    (accesses : List Access) : Data :=
  accesses.foldl (gatherFrom simpleBytes place bytes) 0

/-- What the master made of the first `count` beats, the latest first. -/
def received (busBytes : Nat) (burst : AddressBeat) (content : Nat → Data) (count : Nat) :
    List Data :=
  ((List.range count).map fun index => Master.datum burst busBytes index (content index)).reverse

theorem length_received (busBytes : Nat) (burst : AddressBeat) (content : Nat → Data)
    (count : Nat) : (received busBytes burst content count).length = count := by
  simp [received]

theorem received_succ (busBytes : Nat) (burst : AddressBeat) (content : Nat → Data)
    (count : Nat) :
    received busBytes burst content (count + 1) =
      Master.datum burst busBytes count (content count) ::
        received busBytes burst content count := by
  simp [received, List.range_succ]

/-- Data beat `beat` of a read: an access of it waits and `pending` is left. The beat before it may
still lie in its channel. -/
def Reads (gather : Data → Access → Data) (content : Nat → Data) (script : Master)
    (bridge : Inbound) (burst : AddressBeat) (beat : Nat) (pending : List Access)
    (access : Access) (agent : MasterAgent) : Prop :=
  ∃ before split data, (access :: pending).foldl gather data = content beat ∧
    agent = .split before split (bridge.asking (inBeat burst false beat pending data) access) ∧
    ∀ cycle, before.tick split cycle =
      (script.reading burst (received script.busBytes burst content beat), {})

variable {gather : Data → Access → Data}

theorem Reads.intro {data : Data} (gathers : (access :: pending).foldl gather data = content beat) :
    Reads gather content script bridge burst beat pending access
      (.split (script.reading burst (received script.busBytes burst content beat)) {}
        (bridge.asking (inBeat burst false beat pending data) access)) :=
  ⟨_, _, data, gathers, rfl, fun cycle => Master.tick_read_wait script burst _ cycle⟩

theorem Reads.keepsWaiting (clear : bridge.IsClear) :
    KeepsWaiting (Reads gather content script bridge burst beat pending access) := by
  rintro cycle lane request ⟨before, split, data, gathers, agent, plays⟩ waits
  have moves : Inbound.Junction.tick ⟨bridge.asking (inBeat burst false beat pending data) access,
      {}, .waiting request⟩ cycle = _ := Inbound.Junction.tick_wait clear cycle
  refine ⟨_, ?_, .intro gathers⟩
  unfold tickLane
  rw [agent]
  dsimp only
  rw [plays, waits, moves]

/-- The next access of a read is raised in the cycle after an acknowledge. -/
theorem Reads.next (lane : Lane MasterAgent) {accesses : Nat → List Access}
    (clear : bridge.IsClear)
    (plans : ∀ beat < burst.beats,
      PlansRead bridge.conversion bridge.origin burst beat (accesses beat))
    (some_ : ∀ beat, accesses beat ≠ []) (inside : beat < burst.beats)
    (part : ∀ access ∈ pending, access ∈ accesses beat) {first : Access} {left : List Access}
    (order : first :: left = pending ++ laterAccesses accesses beat burst.beats)
    (collects : ∀ beat, (accesses beat).foldl gather 0 = content beat) (request : Request)
    {response : Response} (okay : response.error = false)
    (answers : ∀ data, gather data access = access.gather response.data data)
    (reads : Reads gather content script bridge burst beat pending access agent)
    (cycle : Nat) :
    ∃ beat' pending' agent', beat' < burst.beats ∧ first ∈ accesses beat' ∧
      (∀ access ∈ pending', access ∈ accesses beat') ∧
      left = pending' ++ laterAccesses accesses beat' burst.beats ∧
      Reads gather content script bridge burst beat' pending' first agent' ∧
      tickLane cycle (heldLane lane agent (.answered request response)) =
        (heldLane lane agent' (.waiting first.request), none) := by
  obtain ⟨before, split, data, gathers, rfl, plays⟩ := reads
  rw [List.foldl_cons, answers] at gathers
  cases pending with
  | cons head pending =>
    obtain ⟨rfl, rfl⟩ := List.cons.inj order
    exact ⟨beat, pending, _, inside, part first List.mem_cons_self,
      fun access mem => part access (List.mem_cons_of_mem _ mem), rfl, .intro gathers,
      tickLane_split lane (plays cycle) (Inbound.Junction.tick_next_word clear okay cycle)⟩
  | nil =>
    rw [List.nil_append] at order
    by_cases last : beat + 1 = burst.beats
    · unfold laterAccesses at order
      rw [last, Nat.sub_self] at order
      cases order
    · have more : beat + 1 < burst.beats := by omega
      rw [laterAccesses_succ more] at order
      have planned := plans (beat + 1) more
      have collected := collects (beat + 1)
      cases these : accesses (beat + 1) with
      | nil => exact absurd these (some_ _)
      | cons head others =>
        rw [these] at order planned collected
        obtain ⟨rfl, rfl⟩ := List.cons.inj order
        have moves : Inbound.Junction.tick ⟨bridge.asking (inBeat burst false beat [] data) access,
            {}, .answered request response⟩ cycle = _ :=
          Inbound.Junction.tick_next_read clear okay last planned cycle
        have gathered : access.gather response.data data = content beat := gathers
        rw [gathered] at moves
        refine ⟨beat + 1, others, _, more, ?_, ?_, rfl, ⟨_, _, 0, collected, rfl, ?_⟩,
          tickLane_split lane (plays cycle) moves⟩
        · rw [these]
          exact List.mem_cons_self
        · intro access mem
          rw [these]
          exact List.mem_cons_of_mem _ mem
        · intro cycle
          rw [Master.tick_read_beat _ _ _ rfl rfl, length_received, received_succ]

/-- A read whose last access is acknowledged hands its last beat on. -/
theorem Reads.done (lane : Lane MasterAgent) (clear : bridge.IsClear)
    (last : beat + 1 = burst.beats) (request : Request)
    {response : Response} (okay : response.error = false)
    (answers : ∀ data, gather data access = access.gather response.data data)
    (reads : Reads gather content script bridge burst beat [] access agent) (cycle : Nat) :
    tickLane cycle (heldLane lane agent (.answered request response)) =
      (heldLane lane (.split
        (script.reading burst (received script.busBytes burst content beat))
        { readData := ⟨some ⟨burst.id, content beat, .okay, true⟩⟩ } bridge.resting) .idle,
        none) := by
  obtain ⟨before, split, data, gathers, rfl, plays⟩ := reads
  rw [List.foldl_cons, answers] at gathers
  have gathered : access.gather response.data data = content beat := gathers
  rw [← gathered]
  exact tickLane_split lane (plays cycle)
    (Inbound.Junction.tick_read_done clear okay last cycle)

theorem Between.not_hasEnded {split : Split.Link} {link : Simple.Link}
    (between : Between rests frame port faults (heldLane lane (.split script split bridge) link)
      bytes fabric) (running : bridge.isHalted = false) (plays : script.current.isSome = true) :
    ¬ fabric.HasEnded := by
  obtain ⟨⟨slot, crossbar, _⟩, _, _⟩ := between
  intro ended
  have mem : .split script split bridge ∈ fabric.crossbar.lanes.map (·.agent) := by
    rw [crossbar]
    exact List.mem_cons_self
  rcases ended _ mem with halted | done
  · rw [running] at halted
    cases halted
  · unfold Master.isDone at done
    rw [Bool.and_eq_true, Option.isNone_iff_eq_none] at done
    rw [done.2] at plays
    cases plays

variable (store : Store simpleBytes isServed place rests)

theorem reply_error (simpleBytes : Nat) (start : Address) (request : Request)
    (bytes : Address → Byte) : (reply simpleBytes start request bytes).error = false := by
  unfold reply
  split <;> rfl

include store

/-- An access of a read, from the cycle in which it is raised until it is acknowledged. -/
theorem Between.read_word {held : Lane MasterAgent}
    (between : Between rests frame port faults held bytes fabric) (clear : bridge.IsClear)
    (masters : tickLane fabric.cycle held =
      (heldLane lane agent (.waiting access.request), none))
    (reads : Reads gather content script bridge burst beat pending access agent)
    (read : access.request.write = false) (inside : isServed access.request.address)
    (owned : frame.map.decode access.request.address = some port) :
    Eventually (fun later => ∃ agent,
      Reads gather content script bridge burst beat pending access agent ∧
      Between rests frame port faults
        (heldLane lane agent (.answered access.request
          (reply simpleBytes (place access.request.address) access.request bytes)))
        bytes later) fabric := by
  have carried := between.carries store (Reads.keepsWaiting clear) masters rfl reads owned inside
  refine carried.bind ?_
  rintro later ⟨agent, reads, between⟩
  have same : updated simpleBytes (place access.request.address) access.request bytes =
      bytes := by
    unfold updated
    rw [read]
    rfl
  rw [same] at between
  exact .now ⟨agent, reads, between⟩

theorem Between.read_rest {accesses : Nat → List Access} (clear : bridge.IsClear)
    (plans : ∀ beat < burst.beats,
      PlansRead bridge.conversion bridge.origin burst beat (accesses beat))
    (some_ : ∀ beat, accesses beat ≠ [])
    (read : ∀ beat, ∀ access ∈ accesses beat, access.request.write = false)
    (reaches : ∀ beat < burst.beats, Reaches isServed frame.map port (accesses beat))
    (collects : ∀ beat,
      (accesses beat).foldl (gatherFrom simpleBytes place bytes) 0 = content beat)
    (inside : beat < burst.beats) (part : ∀ access ∈ pending, access ∈ accesses beat)
    {left : List Access} (order : left = pending ++ laterAccesses accesses beat burst.beats)
    (reads : Reads (gatherFrom simpleBytes place bytes) content script bridge burst beat pending
      access agent)
    (between : Between rests frame port faults
      (heldLane lane agent (.answered access.request
        (reply simpleBytes (place access.request.address) access.request bytes))) bytes fabric) :
    Eventually (fun later => ∃ last, last + 1 = burst.beats ∧
      Between rests frame port faults
        (heldLane lane (.split
          (script.reading burst (received script.busBytes burst content last))
          { readData := ⟨some ⟨burst.id, content last, .okay, true⟩⟩ } bridge.resting) .idle)
        bytes later) fabric := by
  have okay := reply_error simpleBytes (place access.request.address) access.request bytes
  induction left generalizing beat pending access agent fabric with
  | nil =>
    obtain ⟨rfl, none_⟩ := List.append_eq_nil_iff.mp order.symm
    have last := laterAccesses_eq_nil some_ none_ inside
    have masters := reads.done lane clear last access.request okay (fun _ => rfl) fabric.cycle
    exact .next (.now ⟨beat, last, (between.quiet store masters rfl).1⟩)
  | cons first left ih =>
    obtain ⟨beat', pending', agent', inside', mem, part', order', reads', masters⟩ :=
      reads.next lane clear plans some_ inside part order collects access.request okay
        (fun _ => rfl) fabric.cycle
    obtain ⟨served, owned⟩ := reaches beat' inside' first mem
    have word := between.read_word store clear masters reads' (read beat' first mem) served owned
    refine word.bind ?_
    rintro later ⟨agent, reads, between⟩
    exact ih inside' part' order' reads between (reply_error _ _ _ _)

/-- A read burst that the script comes to is carried out, and returns what its accesses gather. The
script does not end before the last cycle. -/
theorem Between.read_burst {accesses : Nat → List Access} (clear : bridge.IsClear)
    (accepts : Accepts bridge.conversion burst)
    (plans : ∀ beat < burst.beats,
      PlansRead bridge.conversion bridge.origin burst beat (accesses beat))
    (some_ : ∀ beat, accesses beat ≠ [])
    (read : ∀ beat, ∀ access ∈ accesses beat, access.request.write = false)
    (reaches : ∀ beat < burst.beats, Reaches isServed frame.map port (accesses beat))
    (free : script.current = none) (next : script.queue = .read burst :: queue)
    (between : Between rests frame port faults
      (heldLane lane (.split script {} bridge.resting) .idle) bytes fabric) :
    Eventually (fun later => ¬ later.HasEnded ∧ ∃ cycle,
      Between rests frame port faults
        (heldLane lane (.split
          { script with
            queue
            current := none
            completions := script.completions.push (.read burst.id
              ((List.range burst.beats).map fun beat =>
                Master.datum burst script.busBytes beat
                  (readOut simpleBytes place bytes (accesses beat))) .okay cycle) }
          {} { bridge with preferRead := false }.resting) .idle)
        bytes later.tick) fabric := by
  have clear' := clear.prefer false
  have nonempty : 0 < burst.beats := Nat.succ_pos _
  have plays := script.tick_read_start free next {} fabric.cycle
  have planned := plans 0 nonempty
  cases these : accesses 0 with
  | nil => exact absurd these (some_ 0)
  | cons first others =>
    rw [these] at planned
    have masters := tickLane_split lane plays
      (Inbound.Junction.tick_accept_read clear accepts planned fabric.cycle)
    have mem : first ∈ accesses 0 := by
      rw [these]
      exact List.mem_cons_self
    have part : ∀ access ∈ others, access ∈ accesses 0 := by
      intro access held
      rw [these]
      exact List.mem_cons_of_mem _ held
    have reads : Reads (gatherFrom simpleBytes place bytes)
        (fun beat => readOut simpleBytes place bytes (accesses beat)) { script with queue }
        { bridge with preferRead := false } burst 0 others first
        (.split ({ script with queue }.reading burst []) {}
          ({ bridge with preferRead := false }.asking (inBeat burst false 0 others 0) first)) := by
      apply Reads.intro
      rw [these]
      rfl
    have word := between.read_word store clear' masters reads (read 0 first mem)
      (reaches 0 nonempty first mem).1 (reaches 0 nonempty first mem).2
    refine word.bind ?_
    rintro later ⟨agent, reads, between⟩
    have rest := between.read_rest store clear' plans some_ read reaches (fun _ => rfl) nonempty
      part rfl reads
    refine rest.bind ?_
    rintro later ⟨last, whole, between⟩
    have plays := Master.tick_read_end { script with queue } burst
      (received script.busBytes burst
        (fun beat => readOut simpleBytes place bytes (accesses beat)) last)
      ⟨burst.id, readOut simpleBytes place bytes (accesses last), .okay, true⟩ rfl rfl later.cycle
    have masters := tickLane_split lane plays
      (Inbound.Junction.tick_rest clear' rfl rfl later.cycle)
    have done := (between.quiet store masters rfl).1
    have data : (received script.busBytes burst
        (fun beat => readOut simpleBytes place bytes (accesses beat)) last).reverse ++
        [Master.datum burst script.busBytes last
          (readOut simpleBytes place bytes (accesses last))] =
        (List.range burst.beats).map fun beat =>
          Master.datum burst script.busBytes beat
            (readOut simpleBytes place bytes (accesses beat)) := by
      rw [← whole, List.range_succ, List.map_append]
      simp [received]
    rw [length_received] at done
    simp only [data] at done
    exact .now ⟨between.not_hasEnded clear'.running rfl, later.cycle, done⟩

end

end BusFabric.Fabric
