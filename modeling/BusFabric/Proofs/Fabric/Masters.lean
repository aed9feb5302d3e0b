import Mathlib.Algebra.BigOperators.Group.List.Basic
import Mathlib.Algebra.GroupWithZero.Nat
import Mathlib.Data.List.Forall2
import BusFabric.Proofs.Bridge.InboundHalts
import BusFabric.Proofs.Fabric.Play
import BusFabric.Proofs.Split.Master

set_option autoImplicit false

namespace BusFabric

open Split (AddressBeat Channel Completion Op Playing ReadBeat WriteBeat WriteResponse)
open Split.Master (Buffered)

namespace Split

/-! ### Operations and their completions -/

/-- A completion of the operation's kind, with its identifier. A read has as many data as its
address announces. -/
inductive Op.IsAnsweredBy : Op → Completion → Prop
  | write (burst : AddressBeat) (beats : List WriteBeat) (status : Status) (cycle : Nat) :
      IsAnsweredBy (.write burst beats) (.write burst.id status cycle)
  | read (burst : AddressBeat) {data : List Data} (all : data.length = burst.beats)
      (status : Status) (cycle : Nat) :
      IsAnsweredBy (.read burst) (.read burst.id data status cycle)

namespace Master

variable {master : Master} {ops : List Op} {op : Op} {playing : Playing}

/-- The operations that were handed to a master: some are completed, in order, one may be played,
and the others wait. -/
def Records (master : Master) (ops : List Op) : Prop :=
  ∃ done, ops = done ++ ((master.current.map (·.op)).toList ++ master.queue) ∧
    List.Forall₂ Op.IsAnsweredBy done master.completions.toList

theorem Records.push (records : master.Records ops) : (master.push op).Records (ops ++ [op]) := by
  obtain ⟨done, rfl, answered⟩ := records
  exact ⟨done, by simp [Master.push], answered⟩

theorem Records.congr (records : master.Records ops) {after : Master}
    (same : (after.current.map (·.op)).toList ++ after.queue =
      (master.current.map (·.op)).toList ++ master.queue)
    (completions : after.completions = master.completions) : after.Records ops := by
  obtain ⟨done, whole, answered⟩ := records
  exact ⟨done, by rw [same]; exact whole, by rw [completions]; exact answered⟩

theorem Records.finish (records : master.Records ops) (current : master.current = some playing)
    {completion : Completion} (answers : playing.op.IsAnsweredBy completion) :
    (master.finish completion).Records ops := by
  obtain ⟨done, rfl, answered⟩ := records
  refine ⟨done ++ [playing.op], by simp [Master.finish, current], ?_⟩
  rw [show (master.finish completion).completions.toList =
    master.completions.toList ++ [completion] from Array.toList_push ..]
  exact List.rel_append answered (.cons answers .nil)

theorem Records.mem_of_current (records : master.Records ops)
    (current : master.current = some playing) : playing.op ∈ ops := by
  obtain ⟨done, rfl, _⟩ := records
  simp [current]

theorem Records.mem_of_queue (records : master.Records ops) (waits : op ∈ master.queue) :
    op ∈ ops := by
  obtain ⟨done, rfl, _⟩ := records
  simp [waits]

end Master

end Split

namespace Fabric

open Bridge (Access Inbound Transfer)
open Crossbar (Lane)
open Simple (Link Request Response)

/-! ### A master and its bridge -/

inductive InBeat (playing : Playing) (transfer : Transfer) : Split.Link → Prop
  | write {beats : List WriteBeat} {sent : Nat} {channel : Channel WriteBeat}
      (op : playing = { op := .write transfer.burst beats, addressSent := true, sent })
      (direction : transfer.write = true)
      (buffered : Buffered beats (transfer.beat + 1) channel sent) :
      InBeat playing transfer { writeData := channel }
  | read {channel : Channel ReadBeat} (op : playing.op = .read transfer.burst)
      (sent : playing.addressSent = true) (direction : transfer.write = false)
      (unmarked : ∀ beat, channel.beat = some beat → beat.last = false)
      (got : playing.received.length + channel.beat.toList.length = transfer.beat) :
      InBeat playing transfer { readData := channel }

inductive IsAnswered (playing : Playing) : Split.Link → Prop
  | write {burst : AddressBeat} {beats : List WriteBeat} {sent : Nat} {response : WriteResponse}
      (op : playing = { op := .write burst beats, addressSent := true, sent })
      (id : response.id = burst.id) (buffered : Buffered beats beats.length ⟨none⟩ sent) :
      IsAnswered playing { writeResponse := ⟨some response⟩ }
  | read {burst : AddressBeat} {beat : ReadBeat} (op : playing.op = .read burst)
      (sent : playing.addressSent = true) (id : beat.id = burst.id) (last : beat.last = true)
      (got : playing.received.length + 1 = burst.beats) :
      IsAnswered playing { readData := ⟨some beat⟩ }

/-- How a master and its running bridge stand between two cycles. -/
inductive Conducts (script : Split.Master) : Split.Link → Inbound → Link → Prop
  | rests {bridge : Inbound} (free : script.current = none) (clear : bridge.IsClear) :
      Conducts script {} bridge.resting .idle
  | asks {playing : Playing} {transfer : Transfer} {access : Access} {split : Split.Link}
      {bridge : Inbound} {link : Link} (current : script.current = some playing)
      (inBeat : InBeat playing transfer split) (within : transfer.beat < transfer.burst.beats)
      (clear : bridge.IsClear) (raised : link.request? = some access.request) :
      Conducts script split (bridge.asking transfer access) link
  | answered {playing : Playing} {split : Split.Link} {bridge : Inbound}
      (current : script.current = some playing) (answered : IsAnswered playing split)
      (clear : bridge.IsClear) :
      Conducts script split bridge.resting .idle

def opWork : Op → Nat
  | .write burst _ | .read burst => 4 * (burst.beats * burst.beatBytes) + 2

/-- The accesses that are left of a burst, with a bound on those of later data beats. -/
def burstWork (transfer : Transfer) : Nat :=
  4 * (transfer.pending.length +
    (transfer.burst.beats - (transfer.beat + 1)) * transfer.burst.beatBytes)

/-- What is left of a request on a lane's link. -/
def linkWork (link : Link) (isServed : Bool) : Nat :=
  match link with
  | .idle => 0
  | .answered _ _ => 1
  | .waiting _ => if isServed then 2 else 3

/-- The work that is left for a master and its bridge, without the request that is up. -/
def MasterAgent.work : MasterAgent → Nat
  | split script _ bridge =>
    if bridge.isHalted then 0
    else (script.queue.map opWork).sum + (if script.current.isSome then 1 else 0) +
      bridge.active.elim 0 burstWork
  | simple script => 4 * script.queue.length

def laneWork (lane : Lane MasterAgent) : Nat :=
  lane.agent.work + linkWork lane.link lane.isServed

/-! ### Cycles of a master -/

section

variable {script : Split.Master} {playing : Playing} {transfer : Transfer} {split : Split.Link}
  {burst : AddressBeat} {beats : List WriteBeat} {sent : Nat} {queue : List Op}

theorem eq_writing
    (current : script.current = some { op := .write burst beats, addressSent := true, sent }) :
    script = script.writing burst beats sent := by
  obtain ⟨_, _, _, _⟩ := script
  dsimp only at current
  subst current
  rfl

theorem eq_current (current : script.current = some playing) :
    script = { script with current := some playing } := by
  obtain ⟨_, _, _, _⟩ := script
  dsimp only at current
  subst current
  rfl

inductive Feeds (script : Split.Master) (playing : Playing) (transfer : Transfer) :
    Split.Master × Split.Link → Prop
  | write {beats : List WriteBeat} {sent : Nat} (op : playing.op = .write transfer.burst beats)
      (direction : transfer.write = true)
      (buffered : Buffered beats (transfer.beat + 1) ⟨beats[transfer.beat + 1]?⟩ sent) :
      Feeds script playing transfer
        (script.writing transfer.burst beats sent, { writeData := ⟨beats[transfer.beat + 1]?⟩ })
  | read {after : Playing} (op : playing.op = .read transfer.burst)
      (direction : transfer.write = false) (same : after.op = .read transfer.burst)
      (sent : after.addressSent = true) (got : after.received.length = transfer.beat) :
      Feeds script playing transfer ({ script with current := some after }, {})

theorem InBeat.feeds (inBeat : InBeat playing transfer split)
    (current : script.current = some playing) (cycle : Nat) :
    Feeds script playing transfer (script.tick split cycle) := by
  cases inBeat with
  | @write beats sent channel op direction buffered =>
    subst op
    obtain ⟨after, buffered, ticks⟩ := script.tick_write transfer.burst buffered cycle
    rw [← eq_writing current] at ticks
    rw [ticks]
    exact .write rfl direction buffered
  | @read channel op sent direction unmarked got =>
    obtain ⟨_ | beat⟩ := channel
    · have ticks := Split.Master.tick_wait_data op sent script {} cycle
      rw [← eq_current current] at ticks
      have fed : Feeds script playing transfer ({ script with current := some playing }, {}) :=
        .read op direction op sent got
      rw [← eq_current current] at fed
      rw [ticks]
      exact fed
    · have ticks := Split.Master.tick_take_data op sent script beat {} cycle
      rw [← eq_current current] at ticks
      dsimp only at ticks
      rw [ticks, if_neg (Bool.eq_false_iff.mp (unmarked beat rfl))]
      exact .read op direction op sent got

theorem Feeds.records {result : Split.Master × Split.Link} {ops : List Op}
    (fed : Feeds script playing transfer result) (current : script.current = some playing)
    (records : script.Records ops) :
    result.1.Records ops ∧ result.1.queue = script.queue ∧ result.1.current.isSome = true := by
  cases fed with
  | write op _ _ =>
    refine ⟨records.congr ?_ rfl, rfl, rfl⟩
    rw [current, Option.map_some, op]
    rfl
  | read op _ same _ _ =>
    refine ⟨records.congr ?_ rfl, rfl, rfl⟩
    rw [current, Option.map_some, Option.map_some, op, same]

/-- A master takes the last response of its operation. -/
theorem IsAnswered.ends (answered : IsAnswered playing split)
    (current : script.current = some playing) (cycle : Nat) :
    ∃ completion, playing.op.IsAnsweredBy completion ∧
      script.tick split cycle = (script.finish completion, {}) := by
  cases answered with
  | @write burst beats sent response op id buffered =>
    subst op
    have ticks := script.tick_write_end burst buffered response cycle
    rw [← eq_writing current, id] at ticks
    exact ⟨_, .write burst beats response.status cycle, ticks⟩
  | @read burst beat op sent id last got =>
    have ticks := Split.Master.tick_take_data op sent script beat {} cycle
    dsimp only at ticks
    rw [← eq_current current, if_pos last, id] at ticks
    refine ⟨_, ?_, ticks⟩
    rw [op]
    exact .read burst (by rw [List.length_reverse, List.length_cons]; exact got) _ cycle

end

/-! ### Cycles of a lane -/

/-- The operation that an action hands to the split-transaction master of a port. -/
def Action.splitOp? (port : PortId) : Action → Option Op
  | pushSplit target op => if port = target then some op else none
  | pushSimple _ _ | tick => none

/-- The request that an action hands to the simple-bus master of a port. -/
def Action.request? (port : PortId) : Action → Option Request
  | pushSimple target request => if port = target then some request else none
  | pushSplit _ _ | tick => none

/-- How a master and its bridge, if it has one, stand between two cycles, when these operations or
requests were handed to it. -/
inductive MasterAgent.Plays (ops : List Op) (requests : List Request) : MasterAgent → Link → Prop
  | split {script : Split.Master} {split : Split.Link} {bridge : Inbound} {link : Link}
      (records : script.Records ops) (conducts : Conducts script split bridge link) :
      Plays ops requests (.split script split bridge) link
  /-- Only an operation that is not legal halts a bridge, and not while a request is up. -/
  | halted {script : Split.Master} {split : Split.Link} {bridge : Inbound}
      (halted : bridge.isHalted = true)
      (illegal : ∃ op ∈ ops,
        ¬ op.IsLegal bridge.conversion.source bridge.conversion.splitBytes) :
      Plays ops requests (.split script split bridge) .idle
  | simple {script : Simple.Master} {link : Link}
      (records : requests = script.completions.toList.map (·.request) ++
        (script.outstanding.toList ++ script.queue))
      (raised : link.request? = script.outstanding) : Plays ops requests (.simple script) link

inductive Advances (before after : Lane MasterAgent) : Prop
  /-- The lane waits for the crossbar. -/
  | waits {request : Request} (waits : before.link = .waiting request)
      (link : after.link = before.link) (work : after.agent.work = before.agent.work)
  /-- There is nothing to do. -/
  | rests (settled : before.agent.isSettled = true) (work : laneWork after = laneWork before)
  | works (less : laneWork after < laneWork before)

/-- A cycle of a lane keeps how it stands, and goes on with it or adds no work. -/
structure Turns (ops : List Op) (requests : List Request) (before after : Lane MasterAgent) :
    Prop where
  plays : after.agent.Plays ops requests after.link
  advances : Advances before after

theorem linkWork_le (link : Link) (isServed : Bool) : linkWork link isServed ≤ 3 := by
  unfold linkWork
  split
  · omega
  · omega
  · split <;> omega

section

variable {lane : Lane MasterAgent} {script after : Split.Master} {split next : Split.Link}
  {bridge : Inbound} {transfer : Transfer} {access : Access} {ops : List Op}
  {requests : List Request} {junction : Inbound.Junction} {fault : Option ProtocolFault}
  {link : Link} {cycle : Nat}

theorem tickLane_eq_bridged (agent : lane.agent = .split script split bridge)
    (held : lane.link = link) (plays : script.tick split cycle = (after, next))
    (moves : Inbound.Junction.tick ⟨bridge, next, link⟩ cycle = (junction, fault)) :
    tickLane cycle lane =
      ({ lane with
          agent := .split after junction.split junction.bridge
          link := junction.simple }, fault) := by
  unfold tickLane
  rw [agent, held]
  dsimp only
  rw [plays]
  dsimp only
  rw [moves]

theorem tickLane_bridged (agent : lane.agent = .split script split bridge)
    (held : lane.link = link) (plays : script.tick split cycle = (after, next))
    (moves : Inbound.Junction.tick ⟨bridge, next, link⟩ cycle = (junction, fault)) :
    (tickLane cycle lane).1 =
      { lane with
        agent := .split after junction.split junction.bridge
        link := junction.simple } :=
  congrArg Prod.fst (tickLane_eq_bridged agent held plays moves)

theorem work_running (running : bridge.isHalted = false) :
    (MasterAgent.split script split bridge).work =
      (script.queue.map opWork).sum + (if script.current.isSome then 1 else 0) +
        bridge.active.elim 0 burstWork := by
  simp [MasterAgent.work, running]

theorem work_halted (halted : bridge.isHalted = true) :
    (MasterAgent.split script split bridge).work = 0 := by
  simp [MasterAgent.work, halted]

theorem work_resting (clear : bridge.IsClear) :
    (MasterAgent.split script split bridge.resting).work =
      (script.queue.map opWork).sum + if script.current.isSome then 1 else 0 :=
  work_running clear.running

theorem work_asking (clear : bridge.IsClear) :
    (MasterAgent.split script split (bridge.asking transfer access)).work =
      (script.queue.map opWork).sum + (if script.current.isSome then 1 else 0) +
        burstWork transfer :=
  work_running clear.running

theorem opWork_pos (op : Op) : 0 < opWork op := by
  cases op <;> exact Nat.succ_pos _

/-- The work on a lane whose master takes its next operation up. -/
theorem laneWork_begins {op : Op} {queue : List Op}
    (agent : lane.agent = .split script split bridge.resting) (link : lane.link = .idle)
    (free : script.current = none) (waits : script.queue = op :: queue) (clear : bridge.IsClear) :
    laneWork lane = opWork op + (queue.map opWork).sum := by
  unfold laneWork
  rw [agent, link, work_resting clear, waits, free]
  rfl

/-- Going on to the next data beat of a burst makes the work less. -/
theorem burstWork_next (within : transfer.beat + 1 < transfer.burst.beats) {following : Transfer}
    (burst : following.burst = transfer.burst) (beat : following.beat = transfer.beat + 1)
    (few : following.pending.length < transfer.burst.beatBytes) :
    burstWork following + 4 ≤ burstWork transfer := by
  have step : transfer.burst.beats - (transfer.beat + 1) =
      transfer.burst.beats - (transfer.beat + 1 + 1) + 1 := by omega
  unfold burstWork
  rw [burst, beat, step, Nat.add_mul, Nat.one_mul]
  omega

/-- A burst whose first data beat is taken up. -/
theorem burstWork_first {op : Op} (first : transfer.beat = 0)
    (few : transfer.pending.length < transfer.burst.beatBytes)
    (work : opWork op = 4 * (transfer.burst.beats * transfer.burst.beatBytes) + 2) :
    burstWork transfer + 6 ≤ opWork op := by
  have some_ : 0 < transfer.burst.beats := Nat.succ_pos _
  have step : transfer.burst.beats = transfer.burst.beats - (0 + 1) + 1 := by omega
  rw [work]
  unfold burstWork
  rw [first]
  generalize transfer.burst.beats - (0 + 1) = rest at step ⊢
  rw [step, Nat.add_mul, Nat.one_mul]
  omega

/-- A lane whose bridge gives up has no work left. -/
theorem turn_stopped (agent : lane.agent = .split script split bridge)
    (held : lane.link = link) (plays : script.tick split cycle = (after, next))
    (moves : Inbound.Junction.tick ⟨bridge, next, link⟩ cycle = (junction, fault))
    (stopped : junction.bridge.isHalted = true) (idle : junction.simple = .idle)
    (illegal : ∃ op ∈ ops,
      ¬ op.IsLegal junction.bridge.conversion.source junction.bridge.conversion.splitBytes)
    (busy : 0 < laneWork lane) :
    Turns ops requests lane (tickLane cycle lane).1 := by
  rw [tickLane_bridged agent held plays moves, idle]
  refine ⟨.halted stopped illegal, .works ?_⟩
  unfold laneWork
  rw [work_halted stopped]
  exact busy

/-- A lane whose bridge asks for the first word of a data beat, or for the next word. -/
theorem turn_asks (agent : lane.agent = .split script split bridge)
    (held : lane.link = link) (plays : script.tick split cycle = (after, next))
    (moves : Inbound.Junction.tick ⟨bridge, next, link⟩ cycle = (junction, fault))
    {asked : Inbound} (clear : asked.IsClear)
    (asks : junction.bridge = asked.asking transfer access)
    (raised : junction.simple = .waiting access.request) {playing : Playing}
    (records : after.Records ops) (current : after.current = some playing)
    (inBeat : InBeat playing transfer junction.split)
    (within : transfer.beat < transfer.burst.beats)
    (less : (after.queue.map opWork).sum + burstWork transfer + 4 < laneWork lane) :
    Turns ops requests lane (tickLane cycle lane).1 := by
  rw [tickLane_bridged agent held plays moves, asks, raised]
  refine ⟨.split records (.asks current inBeat within clear rfl), .works ?_⟩
  have some_ : after.current.isSome = true := by rw [current]; rfl
  have few := linkWork_le (.waiting access.request) lane.isServed
  unfold laneWork at less ⊢
  dsimp only
  rw [work_asking clear, if_pos some_]
  omega

theorem turn_begins_write {burst : AddressBeat} {beats : List WriteBeat} {queue : List Op}
    (agent : lane.agent = .split script {} bridge.resting) (link : lane.link = .idle)
    (free : script.current = none) (waits : script.queue = .write burst beats :: queue)
    (clear : bridge.IsClear) (records : script.Records ops)
    (whole : beats.length = burst.beats) :
    Turns ops requests lane (tickLane cycle lane).1 := by
  have listed : .write burst beats ∈ ops :=
    records.mem_of_queue (waits ▸ List.mem_cons_self ..)
  have left := laneWork_begins agent link free waits clear
  have busy : 0 < laneWork lane := left ▸ Nat.add_pos_left (opWork_pos _) _
  obtain ⟨sent, buffered, plays⟩ := Split.Master.tick_write_start free waits cycle
  have some_ : 0 < burst.beats := Nat.succ_pos _
  obtain ⟨first, there⟩ : ∃ first, beats[0]? = some first :=
    ⟨_, List.getElem?_eq_getElem (by omega)⟩
  rw [there] at plays buffered
  have records' : ({ script with queue }.writing burst beats sent).Records ops :=
    records.congr (by rw [free, waits]; rfl) rfl
  rcases Inbound.accepts_or_rejects bridge.conversion burst with
    accepts | ⟨unsuitable, kind, rejects⟩
  · rcases Inbound.plansWrite_or_refuses bridge.conversion bridge.origin burst 0 first with
      ⟨access, pending, plans, few⟩ | ⟨full, wrong, kind, refuses⟩
    · refine turn_asks agent link plays
        (Inbound.Junction.tick_accept_write clear accepts plans cycle) (clear.prefer true) rfl rfl
        records' rfl (.write rfl rfl buffered.take) some_ ?_
      have fewer : burstWork (Inbound.inBeat burst true 0 pending 0) + 6 ≤
          opWork (.write burst beats) := burstWork_first rfl few rfl
      rw [left]
      dsimp only [Split.Master.writing]
      omega
    · refine turn_stopped agent link plays
        (Inbound.Junction.tick_refuse_first clear accepts refuses cycle) rfl rfl
        ⟨_, listed, fun legal => ?_⟩ busy
      exact wrong (legal.2.2 full 0 first there)
  · exact turn_stopped agent link plays (Inbound.Junction.tick_reject_write clear rejects _ cycle)
      rfl rfl ⟨_, listed, fun legal => unsuitable legal.1⟩ busy

theorem turn_begins_read {burst : AddressBeat} {queue : List Op}
    (agent : lane.agent = .split script {} bridge.resting) (link : lane.link = .idle)
    (free : script.current = none) (waits : script.queue = .read burst :: queue)
    (clear : bridge.IsClear) (records : script.Records ops) :
    Turns ops requests lane (tickLane cycle lane).1 := by
  have listed : .read burst ∈ ops := records.mem_of_queue (waits ▸ List.mem_cons_self ..)
  have left := laneWork_begins agent link free waits clear
  have plays := Split.Master.tick_read_start free waits {} cycle
  have records' : ({ script with queue }.reading burst []).Records ops :=
    records.congr (by rw [free, waits]; rfl) rfl
  rcases Inbound.accepts_or_rejects bridge.conversion burst with
    accepts | ⟨unsuitable, kind, rejects⟩
  · obtain ⟨access, pending, plans, few⟩ :=
      Inbound.plansRead_cons bridge.conversion bridge.origin burst 0
    refine turn_asks agent link plays (Inbound.Junction.tick_accept_read clear accepts plans cycle)
      (clear.prefer false) rfl rfl records' rfl (.read rfl rfl rfl nofun rfl) (Nat.succ_pos _) ?_
    have fewer : burstWork (Inbound.inBeat burst false 0 pending 0) + 6 ≤ opWork (.read burst) :=
      burstWork_first rfl few rfl
    rw [left]
    dsimp only [Split.Master.reading]
    omega
  · refine turn_stopped agent link plays (Inbound.Junction.tick_reject_read clear rejects cycle)
      rfl rfl ⟨_, listed, unsuitable⟩ (left ▸ Nat.add_pos_left (opWork_pos _) _)

/-- Without an operation nothing happens. -/
theorem turn_rests (agent : lane.agent = .split script {} bridge.resting)
    (link : lane.link = .idle) (free : script.current = none) (none_ : script.queue = [])
    (clear : bridge.IsClear) (records : script.Records ops) :
    Turns ops requests lane (tickLane cycle lane).1 := by
  have done : script.isDone = true := by
    unfold Split.Master.isDone
    rw [free, none_]
    rfl
  have plays := Split.Master.tick_done done {} cycle
  rw [tickLane_bridged agent link plays (Inbound.Junction.tick_rest clear rfl rfl cycle)]
  refine ⟨.split records (.rests free clear), .rests ?_ ?_⟩
  · rw [agent]
    simp [MasterAgent.isSettled, Inbound.isIdle, Inbound.resting, done, clear.write, clear.read]
  · unfold laneWork
    rw [agent, link]

/-- The last response ends the operation. -/
theorem turn_ends {playing : Playing} (agent : lane.agent = .split script split bridge.resting)
    (link : lane.link = .idle) (current : script.current = some playing)
    (answered : IsAnswered playing split) (clear : bridge.IsClear)
    (records : script.Records ops) :
    Turns ops requests lane (tickLane cycle lane).1 := by
  obtain ⟨completion, answers, plays⟩ := answered.ends current cycle
  rw [tickLane_bridged agent link plays (Inbound.Junction.tick_rest clear rfl rfl cycle)]
  refine ⟨.split (records.finish current answers) (.rests rfl clear), .works ?_⟩
  unfold laneWork
  dsimp only
  rw [agent, work_resting clear, work_resting clear, current, link]
  dsimp only [Split.Master.finish]
  simp

/-- A lane that waits for the crossbar goes on waiting. -/
theorem turn_waits {playing : Playing} {request : Request}
    (agent : lane.agent = .split script split (bridge.asking transfer access))
    (link : lane.link = .waiting request) (current : script.current = some playing)
    (inBeat : InBeat playing transfer split) (within : transfer.beat < transfer.burst.beats)
    (clear : bridge.IsClear) (raised : request = access.request)
    (records : script.Records ops) :
    Turns ops requests lane (tickLane cycle lane).1 := by
  have fed := inBeat.feeds current cycle
  obtain ⟨records', queue, some_⟩ := fed.records current records
  generalize plays : script.tick split cycle = result at fed records' queue some_
  rw [tickLane_bridged agent link plays (Inbound.Junction.tick_wait clear cycle)]
  refine ⟨.split records' ?_, .waits link link.symm ?_⟩
  · cases fed with
    | write op direction buffered =>
      exact .asks rfl (.write rfl direction buffered) within clear (congrArg some raised)
    | read op direction same sent got =>
      exact .asks rfl (.read same sent direction nofun got) within clear (congrArg some raised)
  · dsimp only
    rw [agent, work_asking clear, work_asking clear, queue, if_pos some_, current]
    rfl

section Answered

variable {playing : Playing} {request : Request} {response : Response}
  (agent : lane.agent = .split script split (bridge.asking transfer access))
  (given : lane.link = .answered request response) (current : script.current = some playing)
  (clear : bridge.IsClear)

include agent given current clear

theorem laneWork_answered :
    laneWork lane = (script.queue.map opWork).sum + burstWork transfer + 2 := by
  have some_ : script.current.isSome = true := by rw [current]; rfl
  unfold laneWork
  rw [agent, work_asking clear, if_pos some_, given]
  dsimp only [linkWork]
  omega

variable (inBeat : InBeat playing transfer split) (records : script.Records ops)

include inBeat records

theorem turn_next_word {next : Access} {pending : List Access}
    (left : transfer.pending = next :: pending) (within : transfer.beat < transfer.burst.beats) :
    Turns ops requests lane (tickLane cycle lane).1 := by
  have fed := inBeat.feeds current cycle
  have work := laneWork_answered agent given current clear
  obtain ⟨records', queue, _⟩ := fed.records current records
  generalize plays : script.tick split cycle = result at fed records' queue
  have less : (result.1.queue.map opWork).sum +
      burstWork { transfer.answered access response with pending } + 4 < laneWork lane := by
    rw [work, queue]
    unfold burstWork
    rw [left, List.length_cons]
    dsimp only [Transfer.answered]
    omega
  cases fed with
  | write op direction buffered =>
    exact turn_asks agent given plays (Inbound.Junction.tick_answered_word clear left cycle) clear
      rfl rfl records' rfl (.write rfl direction buffered) within less
  | read op direction same sent got =>
    exact turn_asks agent given plays (Inbound.Junction.tick_answered_word clear left cycle) clear
      rfl rfl records' rfl (.read same sent direction nofun got) within less

theorem turn_finishes (done : transfer.pending = [])
    (last : transfer.beat + 1 = transfer.burst.beats) (whole : playing.op.IsWhole) :
    Turns ops requests lane (tickLane cycle lane).1 := by
  have fed := inBeat.feeds current cycle
  have work := laneWork_answered agent given current clear
  obtain ⟨records', queue, some_⟩ := fed.records current records
  generalize plays : script.tick split cycle = result at fed records' queue some_
  have less (split : Split.Link) :
      laneWork { lane with agent := .split result.1 split bridge.resting, link := .idle } <
        laneWork lane := by
    rw [work]
    unfold laneWork
    dsimp only
    rw [work_resting clear, queue, if_pos some_]
    dsimp only [linkWork]
    omega
  cases fed with
  | @write beats sent op direction buffered =>
    rw [op] at whole
    have all : beats.length = transfer.burst.beats := whole
    have none_ : beats[transfer.beat + 1]? = none := List.getElem?_eq_none (by omega)
    rw [none_] at plays buffered
    rw [tickLane_bridged agent given plays
      (Inbound.Junction.tick_answered_write_last clear direction done last cycle)]
    refine ⟨.split records' (.answered rfl (.write rfl rfl ?_) clear), .works (less _)⟩
    rwa [all, ← last]
  | @read after op direction same sent got =>
    rw [tickLane_bridged agent given plays
      (Inbound.Junction.tick_answered_read_last clear direction done last cycle)]
    have all : after.received.length + 1 = transfer.burst.beats := by
      rw [got]
      exact last
    exact ⟨.split records' (.answered rfl (.read same sent rfl rfl all) clear), .works (less _)⟩

theorem turn_next_beat (done : transfer.pending = [])
    (more : transfer.beat + 1 < transfer.burst.beats) (whole : playing.op.IsWhole) :
    Turns ops requests lane (tickLane cycle lane).1 := by
  have fed := inBeat.feeds current cycle
  have work := laneWork_answered agent given current clear
  have listed := records.mem_of_current current
  obtain ⟨records', queue, some_⟩ := fed.records current records
  generalize plays : script.tick split cycle = result at fed records' queue some_
  have less {pending : List Access} (few : pending.length < transfer.burst.beatBytes) :
      (result.1.queue.map opWork).sum +
        burstWork { (transfer.answered access response).following with pending } + 4 <
          laneWork lane := by
    have fewer : burstWork { (transfer.answered access response).following with pending } + 4 ≤
        burstWork transfer := burstWork_next more rfl rfl few
    rw [work, queue]
    omega
  cases fed with
  | @write beats sent op direction buffered =>
    rw [op] at whole listed
    have all : beats.length = transfer.burst.beats := whole
    obtain ⟨data, there⟩ : ∃ data, beats[transfer.beat + 1]? = some data :=
      ⟨_, List.getElem?_eq_getElem (by omega)⟩
    rw [there] at plays buffered
    rcases Inbound.plansWrite_or_refuses bridge.conversion bridge.origin transfer.burst
      (transfer.beat + 1) data with ⟨next, pending, plans, few⟩ | ⟨full, wrong, kind, refuses⟩
    · exact turn_asks agent given plays
        (Inbound.Junction.tick_answered_write clear direction done (by omega) plans cycle) clear
        rfl rfl records' rfl (.write rfl direction buffered.take) more (less few)
    · refine turn_stopped agent given plays
        (Inbound.Junction.tick_refuse_next clear direction done (by omega) refuses cycle) rfl rfl
        ⟨_, listed, fun legal => ?_⟩ ?_
      · exact wrong (legal.2.2 full _ data there)
      · rw [work]
        exact Nat.succ_pos _
  | @read after op direction same sent got =>
    obtain ⟨next, pending, plans, few⟩ := Inbound.plansRead_cons bridge.conversion bridge.origin
      transfer.burst (transfer.beat + 1)
    refine turn_asks agent given plays
      (Inbound.Junction.tick_answered_read clear direction done (by omega) plans cycle) clear
      rfl rfl records' rfl (.read same sent direction ?_ (congrArg (· + 1) got)) more (less few)
    rintro _ ⟨⟩
    rfl

end Answered

/-- A lane behind a halted bridge stays as it is. -/
theorem turn_halted (agent : lane.agent = .split script split bridge) (link : lane.link = .idle)
    (halted : bridge.isHalted = true)
    (illegal : ∃ op ∈ ops, ¬ op.IsLegal bridge.conversion.source bridge.conversion.splitBytes) :
    Turns ops requests lane (tickLane cycle lane).1 := by
  rw [tickLane_bridged agent link rfl (Inbound.Junction.tick_halted halted _ cycle)]
  refine ⟨.halted halted illegal, .rests ?_ ?_⟩
  · rw [agent]
    simp [MasterAgent.isSettled, halted]
  · unfold laneWork
    rw [agent, link, work_halted halted, work_halted halted]

/-- A master on the simple bus takes the acknowledge of its request and raises the next one. -/
theorem turn_simple {script : Simple.Master} (agent : lane.agent = .simple script)
    (records : requests = script.completions.toList.map (·.request) ++
      (script.outstanding.toList ++ script.queue))
    (raised : lane.link.request? = script.outstanding) :
    Turns ops requests lane (tickLane cycle lane).1 := by
  obtain ⟨port, rank, isServed, link, _⟩ := lane
  obtain ⟨queue, outstanding, completions⟩ := script
  dsimp only at agent raised records
  subst agent raised
  have few (request : Request) := linkWork_le (.waiting request) isServed
  cases link with
  | waiting request =>
    exact ⟨.simple records rfl, .waits rfl rfl rfl⟩
  | idle =>
    cases queue with
    | nil => exact ⟨.simple records rfl, .rests rfl rfl⟩
    | cons request queue =>
      refine ⟨.simple records rfl, .works ?_⟩
      show 4 * queue.length + linkWork (.waiting request) isServed < 4 * (queue.length + 1) + 0
      have := few request
      omega
  | answered request response =>
    have taken : requests = (completions.push ⟨request, response, cycle⟩).toList.map
        (·.request) ++ queue := by
      rw [records]
      simp [Link.request?]
    cases queue with
    | nil =>
      refine ⟨.simple taken rfl, .works ?_⟩
      exact Nat.lt_succ_self 0
    | cons next queue =>
      refine ⟨.simple taken rfl, .works ?_⟩
      show 4 * queue.length + linkWork (.waiting next) isServed < 4 * (queue.length + 1) + 1
      have := few next
      omega

/-- A cycle of a lane, as long as the writes that a bridge is to carry out come with all their data
beats. -/
theorem MasterAgent.Plays.tick (plays : lane.agent.Plays ops requests lane.link)
    (whole : lane.agent.bridge? ≠ none → ∀ op ∈ ops, op.IsWhole) (cycle : Nat) :
    Turns ops requests lane (tickLane cycle lane).1 := by
  generalize link : lane.link = held at plays
  generalize agent : lane.agent = present at plays whole
  cases plays with
  | halted halted illegal => exact turn_halted agent link halted illegal
  | simple records raised => exact turn_simple agent records (by rw [link]; exact raised)
  | split records conducts =>
    replace whole := whole (Option.some_ne_none _)
    cases conducts with
    | rests free clear =>
      cases waits : Split.Master.queue _ with
      | nil => exact turn_rests agent link free waits clear records
      | cons op queue =>
        have listed := records.mem_of_queue (waits ▸ List.mem_cons_self ..)
        cases op with
        | write burst beats =>
          exact turn_begins_write agent link free waits clear records (whole _ listed)
        | read burst => exact turn_begins_read agent link free waits clear records
    | answered current answered clear =>
      exact turn_ends agent link current answered clear records
    | @asks playing transfer access split bridge _ current inBeat within clear raised =>
      cases held with
      | idle => cases raised
      | waiting request =>
        exact turn_waits agent link current inBeat within clear (Option.some.inj raised) records
      | answered request response =>
        have complete := whole _ (records.mem_of_current current)
        cases pending : transfer.pending with
        | cons next rest =>
          exact turn_next_word agent link current clear inBeat records pending within
        | nil =>
          by_cases last : transfer.beat + 1 = transfer.burst.beats
          · exact turn_finishes agent link current clear inBeat records pending last complete
          · exact turn_next_beat agent link current clear inBeat records pending (by omega) complete

end

/-! ### What happens to a lane between its cycles -/

theorem MasterAgent.handed_split (script : Split.Master) (split : Split.Link) (bridge : Inbound)
    (port : PortId) (action : Action) :
    (MasterAgent.split script split bridge).handed port action =
      .split ((action.splitOp? port).elim script script.push) split bridge := by
  cases action with
  | pushSplit target op =>
    simp only [handed, Action.splitOp?]
    split <;> rfl
  | pushSimple _ _ | tick => rfl

theorem MasterAgent.handed_simple (script : Simple.Master) (port : PortId) (action : Action) :
    (MasterAgent.simple script).handed port action =
      .simple ((action.request? port).elim script script.push) := by
  cases action with
  | pushSimple target request =>
    simp only [handed, Action.request?]
    split <;> rfl
  | pushSplit _ _ | tick => rfl

/-- What waits in the script does not matter to the operation that is played. -/
theorem Conducts.push {script : Split.Master} {split : Split.Link} {bridge : Inbound} {link : Link}
    (conducts : Conducts script split bridge link) (op : Op) :
    Conducts (script.push op) split bridge link := by
  cases conducts with
  | rests free clear => exact .rests free clear
  | asks current inBeat within clear raised => exact .asks current inBeat within clear raised
  | answered current answered clear => exact .answered current answered clear

namespace MasterAgent.Plays

variable {ops : List Op} {requests : List Request} {agent : MasterAgent} {link : Link}
  {script : Split.Master} {split : Split.Link} {bridge : Inbound}

theorem mayAcknowledge (plays : agent.Plays ops requests link) {after : Link}
    (acknowledged : Link.MayAcknowledge link after) : agent.Plays ops requests after := by
  have same : after.request? = link.request? := by
    cases acknowledged with
    | same => rfl
    | acknowledged response waits =>
      rw [waits]
      rfl
  cases plays with
  | halted halted illegal =>
    rw [acknowledged.eq_of_awaiting? rfl]
    exact .halted halted illegal
  | simple records raised => exact .simple records (same.trans raised)
  | split records conducts =>
    refine .split records ?_
    cases conducts with
    | rests free clear =>
      rw [acknowledged.eq_of_awaiting? rfl]
      exact .rests free clear
    | answered current answered clear =>
      rw [acknowledged.eq_of_awaiting? rfl]
      exact .answered current answered clear
    | asks current inBeat within clear raised =>
      exact .asks current inBeat within clear (same.trans raised)

theorem handed (plays : agent.Plays ops requests link) (port : PortId) (action : Action) :
    (agent.handed port action).Plays (ops ++ (action.splitOp? port).toList)
      (requests ++ (action.request? port).toList) link := by
  cases plays with
  | halted halted illegal =>
    obtain ⟨op, listed, wrong⟩ := illegal
    rw [handed_split]
    exact .halted halted ⟨op, List.mem_append_left _ listed, wrong⟩
  | split records conducts =>
    rw [handed_split]
    cases action.splitOp? port with
    | none => exact .split (by rwa [Option.toList_none, List.append_nil]) conducts
    | some op => exact .split records.push (conducts.push op)
  | simple records raised =>
    rw [handed_simple]
    cases action.request? port with
    | none => exact .simple (by rwa [Option.toList_none, List.append_nil]) raised
    | some request =>
      refine .simple ?_ raised
      rw [records]
      simp [Simple.Master.push]

/-- A master that is settled behind a running bridge has completed everything. -/
theorem completes_split (plays : (MasterAgent.split script split bridge).Plays ops requests link)
    (settled : (MasterAgent.split script split bridge).isSettled = true)
    (running : bridge.isHalted = false) :
    List.Forall₂ Op.IsAnsweredBy ops script.completions.toList := by
  have done : script.queue = [] ∧ script.current = none ∧ bridge.isIdle = true := by
    simpa [MasterAgent.isSettled, running, Split.Master.isDone, and_assoc] using settled
  cases plays with
  | halted halted _ =>
    rw [running] at halted
    cases halted
  | split records _ =>
    obtain ⟨completed, rfl, answered⟩ := records
    simpa [done.1, done.2.1] using answered

theorem completes_simple {script : Simple.Master}
    (plays : (MasterAgent.simple script).Plays ops requests link)
    (settled : (MasterAgent.simple script).isSettled = true) :
    script.completions.toList.map (·.request) = requests := by
  have done : script.queue = [] ∧ script.outstanding = none := by
    simpa [MasterAgent.isSettled, Simple.Master.isDone] using settled
  cases plays with
  | simple records _ => simp [records, done.1, done.2]

theorem running (plays : (MasterAgent.split script split bridge).Plays ops requests link)
    (legal : ∀ op ∈ ops, op.IsLegal bridge.conversion.source bridge.conversion.splitBytes) :
    bridge.isHalted = false := by
  cases plays with
  | halted _ illegal =>
    obtain ⟨op, listed, wrong⟩ := illegal
    exact absurd (legal op listed) wrong
  | split _ conducts =>
    cases conducts with
    | rests _ clear | asks _ _ _ clear _ | answered _ _ clear => exact clear.running

end MasterAgent.Plays

end Fabric

end BusFabric
