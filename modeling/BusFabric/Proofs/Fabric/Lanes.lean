import BusFabric.Proofs.Fabric.Scripts

set_option autoImplicit false

namespace BusFabric.Fabric

open Bridge (Access Inbound Transfer)
open Crossbar (Engaged Lane Stage)
open Simple (Link Request)
open Split (AddressBeat Channel Op Playing ReadBeat WriteBeat WriteResponse)

/-- The master plays a write, or a read, that its bridge carries out, and is not answered yet. -/
inductive Accompanies (playing : Playing) (write : Bool) : Split.Link → Prop
  | write (stray : Channel WriteBeat) {burst : AddressBeat} {beats : List WriteBeat}
      (op : playing.op = .write burst beats) (sent : playing.addressSent = true)
      (direction : write = true) : Accompanies playing write { writeData := stray }
  | read (stray : Channel WriteBeat) (channel : Channel ReadBeat) {burst : AddressBeat}
      (op : playing.op = .read burst) (sent : playing.addressSent = true)
      (direction : write = false)
      (unmarked : ∀ beat, channel.beat = some beat → beat.last = false) :
      Accompanies playing write { writeData := stray, readData := channel }

inductive IsDue (playing : Playing) : Split.Link → Prop
  | write (stray : Channel WriteBeat) (response : WriteResponse) {burst : AddressBeat}
      {beats : List WriteBeat} (op : playing.op = .write burst beats)
      (sent : playing.addressSent = true) :
      IsDue playing { writeData := stray, writeResponse := ⟨some response⟩ }
  | read (stray : Channel WriteBeat) {beat : ReadBeat} {burst : AddressBeat}
      (op : playing.op = .read burst) (sent : playing.addressSent = true)
      (last : beat.last = true) :
      IsDue playing { writeData := stray, readData := ⟨some beat⟩ }

/-- How a master and its running bridge stand between two cycles. -/
inductive Occupies (script : Split.Master) : Split.Link → Inbound → Link → Prop
  | rests {bridge : Inbound} (free : script.current = none) (clear : bridge.IsClear)
      (stray : Channel WriteBeat) : Occupies script { writeData := stray } bridge.resting .idle
  | asks {playing : Playing} {transfer : Transfer} {access : Access} {split : Split.Link}
      {bridge : Inbound} {link : Link} (current : script.current = some playing)
      (along : Accompanies playing transfer.write split) (clear : bridge.IsClear)
      (raised : link.request? = some access.request) :
      Occupies script split (bridge.asking transfer access) link
  /-- The next data beat of a write has not come. -/
  | awaits {playing : Playing} {transfer : Transfer} {split : Split.Link} {bridge : Inbound}
      (current : script.current = some playing) (along : Accompanies playing transfer.write split)
      (clear : bridge.IsClear) (direction : transfer.write = true) (done : transfer.pending = []) :
      Occupies script split (bridge.awaiting transfer) .idle
  | answered {playing : Playing} {split : Split.Link} {bridge : Inbound}
      (current : script.current = some playing) (due : IsDue playing split)
      (clear : bridge.IsClear) : Occupies script split bridge.resting .idle

/-- How a master and its bridge, if it has one, stand between two cycles. -/
inductive MasterAgent.IsSteady : MasterAgent → Link → Prop
  | running {script : Split.Master} {split : Split.Link} {bridge : Inbound} {link : Link}
      (occupies : Occupies script split bridge link) : IsSteady (.split script split bridge) link
  /-- A halted bridge has no request up, and its master waits for a response that never comes. -/
  | halted {script : Split.Master} {split : Split.Link} {bridge : Inbound}
      (halted : bridge.isHalted = true) (write : split.writeResponse = {})
      (read : split.readData = {}) : IsSteady (.split script split bridge) .idle
  | simple {script : Simple.Master} {link : Link} (raised : link.request? = script.outstanding) :
      IsSteady (.simple script) link

section

variable {playing : Playing} {transfer : Transfer} {split : Split.Link} {script : Split.Master}

/-- While its operation is carried out a master sends and takes what it can, and has nothing more to
do after that. -/
theorem Accompanies.waits {write : Bool} (along : Accompanies playing write split)
    (current : script.current = some playing) :
    ∃ after channel, Accompanies after write { writeData := channel } ∧
      (∀ cycle, script.tick split cycle =
        ({ script with current := some after }, { writeData := channel })) ∧
      ∀ cycle, { script with current := some after }.tick { writeData := channel } cycle =
        ({ script with current := some after }, { writeData := channel }) := by
  have same := eq_current current
  cases along with
  | write stray op sent direction =>
    obtain ⟨after, channel, afterOp, afterSent, ticks, waits⟩ :=
      Split.Master.tick_write_waits sent op script stray
    rw [← same] at ticks
    exact ⟨after, channel, .write channel afterOp afterSent direction, ticks, waits⟩
  | read stray channel op sent direction unmarked =>
    obtain ⟨after, afterOp, afterSent, ticks, waits⟩ :=
      Split.Master.tick_read_waits sent op script stray unmarked
    rw [← same] at ticks
    exact ⟨after, stray, .read stray ⟨none⟩ afterOp afterSent direction nofun, ticks, waits⟩

/-- A master takes the last response of its operation. -/
theorem IsDue.ends (due : IsDue playing split) (current : script.current = some playing)
    (cycle : Nat) : ∃ completion channel,
      script.tick split cycle = (script.finish completion, { writeData := channel }) := by
  have same := eq_current current
  cases due with
  | write stray response op sent =>
    obtain ⟨channel, ticks⟩ := Split.Master.tick_write_ends sent op script stray response cycle
    rw [← same] at ticks
    exact ⟨_, channel, ticks⟩
  | @read stray beat burst op sent last =>
    have ticks := Split.Master.tick_take_data op sent script beat stray cycle
    dsimp only at ticks
    rw [← same, if_pos last] at ticks
    exact ⟨_, stray, ticks⟩

end

section

variable {lane : Lane MasterAgent} {script after : Split.Master} {split next : Split.Link}
  {bridge : Inbound} {transfer : Transfer} {access : Access} {playing : Playing} {link : Link}
  {cycle : Nat}

theorem steady_bridged {junction : Inbound.Junction} {fault : Option ProtocolFault}
    (agent : lane.agent = .split script split bridge) (held : lane.link = link)
    (plays : script.tick split cycle = (after, next))
    (moves : Inbound.Junction.tick ⟨bridge, next, link⟩ cycle = (junction, fault))
    (steady : (MasterAgent.split after junction.split junction.bridge).IsSteady junction.simple) :
    (tickLane cycle lane).1.agent.IsSteady (tickLane cycle lane).1.link := by
  rw [tickLane_bridged agent held plays moves]
  exact steady

theorem steady_stopped (stray : Channel WriteBeat) :
    (MasterAgent.split script { writeData := stray } bridge.stopped).IsSteady .idle :=
  .halted rfl rfl rfl

theorem steady_asking {channel : Channel ReadBeat} {stray : Channel WriteBeat}
    (current : script.current = some playing)
    (along : Accompanies playing transfer.write { writeData := stray, readData := channel })
    (clear : bridge.IsClear) :
    (MasterAgent.split script { writeData := stray, readData := channel }
      (bridge.asking transfer access)).IsSteady (.waiting access.request) :=
  .running (.asks current along clear rfl)

theorem steady_begins_write {burst : AddressBeat} {beats : List WriteBeat} {queue : List Op}
    {stray : Channel WriteBeat}
    (agent : lane.agent = .split script { writeData := stray } bridge.resting)
    (link : lane.link = .idle) (free : script.current = none)
    (waits : script.queue = .write burst beats :: queue) (clear : bridge.IsClear) (cycle : Nat) :
    (tickLane cycle lane).1.agent.IsSteady (tickLane cycle lane).1.link := by
  obtain ⟨playing, ⟨first⟩, op, sent, plays⟩ := Split.Master.tick_write_starts free waits stray
  rcases Inbound.accepts_or_rejects bridge.conversion burst with accepts | ⟨_, kind, rejects⟩
  · cases first with
    | none =>
      exact steady_bridged agent link (plays cycle)
        (Inbound.Junction.tick_accept_early clear accepts cycle)
        (.running (.awaits rfl (.write ⟨none⟩ op sent rfl) (clear.prefer true) rfl rfl))
    | some first =>
      rcases Inbound.plansWrite_or_refuses bridge.conversion bridge.origin burst 0 first with
        ⟨access, pending, plans, _⟩ | ⟨_, _, kind, refuses⟩
      · exact steady_bridged agent link (plays cycle)
          (Inbound.Junction.tick_accept_write clear accepts plans cycle)
          (steady_asking rfl (.write ⟨none⟩ op sent rfl) (clear.prefer true))
      · exact steady_bridged agent link (plays cycle)
          (Inbound.Junction.tick_refuse_first clear accepts refuses cycle) (steady_stopped _)
  · exact steady_bridged agent link (plays cycle)
      (Inbound.Junction.tick_reject_write clear rejects _ cycle) (steady_stopped _)

theorem steady_begins_read {burst : AddressBeat} {queue : List Op} {stray : Channel WriteBeat}
    (agent : lane.agent = .split script { writeData := stray } bridge.resting)
    (link : lane.link = .idle) (free : script.current = none)
    (waits : script.queue = .read burst :: queue) (clear : bridge.IsClear) (cycle : Nat) :
    (tickLane cycle lane).1.agent.IsSteady (tickLane cycle lane).1.link := by
  have plays := Split.Master.tick_read_start free waits stray cycle
  rcases Inbound.accepts_or_rejects bridge.conversion burst with accepts | ⟨_, kind, rejects⟩
  · obtain ⟨access, pending, plans, _⟩ :=
      Inbound.plansRead_cons bridge.conversion bridge.origin burst 0
    exact steady_bridged agent link plays
      (Inbound.Junction.tick_accept_read clear accepts plans cycle)
      (steady_asking rfl (.read stray ⟨none⟩ rfl rfl rfl nofun) (clear.prefer false))
  · exact steady_bridged agent link plays (Inbound.Junction.tick_reject_read clear rejects cycle)
      (steady_stopped stray)

/-- Without an operation nothing happens. -/
theorem tickLane_rests {stray : Channel WriteBeat}
    (agent : lane.agent = .split script { writeData := stray } bridge.resting)
    (link : lane.link = .idle) (done : script.isDone = true) (clear : bridge.IsClear)
    (cycle : Nat) : tickLane cycle lane = (lane, none) := by
  rw [tickLane_eq_bridged agent link (Split.Master.tick_done done _ cycle)
    (Inbound.Junction.tick_rest clear rfl rfl cycle)]
  dsimp only
  rw [← agent, ← link]

theorem steady_ends (agent : lane.agent = .split script split bridge.resting)
    (link : lane.link = .idle) (current : script.current = some playing)
    (due : IsDue playing split) (clear : bridge.IsClear) (cycle : Nat) :
    (tickLane cycle lane).1.agent.IsSteady (tickLane cycle lane).1.link := by
  obtain ⟨completion, channel, plays⟩ := due.ends current cycle
  exact steady_bridged agent link plays (Inbound.Junction.tick_rest clear rfl rfl cycle)
    (.running (.rests rfl clear channel))

/-- A bridge goes on as soon as the next data beat of a write is there. -/
theorem steady_awaits (agent : lane.agent = .split script split (bridge.awaiting transfer))
    (link : lane.link = .idle) (current : script.current = some playing)
    (along : Accompanies playing transfer.write split) (clear : bridge.IsClear)
    (direction : transfer.write = true) (done : transfer.pending = []) (cycle : Nat) :
    (tickLane cycle lane).1.agent.IsSteady (tickLane cycle lane).1.link := by
  obtain ⟨following, ⟨first⟩, along, plays, _⟩ := along.waits current
  cases first with
  | none =>
    exact steady_bridged agent link (plays cycle)
      (Inbound.Junction.tick_awaiting clear direction done cycle)
      (.running (.awaits rfl along clear direction done))
  | some first =>
    have goesOn : Accompanies following transfer.write { writeData := ⟨none⟩ } := by
      cases along with
      | write _ op sent direction => exact .write ⟨none⟩ op sent direction
      | read _ _ op sent direction unmarked => exact .read ⟨none⟩ ⟨none⟩ op sent direction unmarked
    rcases Inbound.plansWrite_or_refuses bridge.conversion bridge.origin transfer.burst
      transfer.beat first with ⟨access, pending, plans, _⟩ | ⟨_, _, kind, refuses⟩
    · exact steady_bridged agent link (plays cycle)
        (Inbound.Junction.tick_awaited clear direction done plans cycle)
        (steady_asking rfl goesOn clear)
    · exact steady_bridged agent link (plays cycle)
        (Inbound.Junction.tick_refuse_awaited clear direction done refuses cycle)
        (steady_stopped _)

/-- An acknowledge is followed by the next word, the next data beat, or the last response. -/
theorem steady_answered {request : Request} {response : Simple.Response}
    (agent : lane.agent = .split script split (bridge.asking transfer access))
    (link : lane.link = .answered request response) (current : script.current = some playing)
    (along : Accompanies playing transfer.write split) (clear : bridge.IsClear) (cycle : Nat) :
    (tickLane cycle lane).1.agent.IsSteady (tickLane cycle lane).1.link := by
  obtain ⟨following, ⟨first⟩, along, plays, _⟩ := along.waits current
  cases left : transfer.pending with
  | cons next pending =>
    exact steady_bridged agent link (plays cycle)
      (Inbound.Junction.tick_answered_word clear left cycle)
      (steady_asking rfl along clear)
  | nil =>
    by_cases last : transfer.beat + 1 = transfer.burst.beats
    · cases along with
      | write _ op sent direction =>
        exact steady_bridged agent link (plays cycle)
          (Inbound.Junction.tick_answered_write_last clear direction left last cycle)
          (.running (.answered rfl (.write ⟨first⟩ _ op sent) clear))
      | read _ _ op sent direction _ =>
        exact steady_bridged agent link (plays cycle)
          (Inbound.Junction.tick_answered_read_last clear direction left last cycle)
          (.running (.answered rfl (.read ⟨first⟩ op sent rfl) clear))
    · cases along with
      | write _ op sent direction =>
        cases first with
        | none =>
          exact steady_bridged agent link (plays cycle)
            (Inbound.Junction.tick_answered_early clear direction left last cycle)
            (.running (.awaits rfl (.write ⟨none⟩ op sent direction) clear direction left))
        | some first =>
          rcases Inbound.plansWrite_or_refuses bridge.conversion bridge.origin transfer.burst
            (transfer.beat + 1) first with ⟨access, pending, plans, _⟩ | ⟨_, _, kind, refuses⟩
          · exact steady_bridged agent link (plays cycle)
              (Inbound.Junction.tick_answered_write clear direction left last plans cycle)
              (steady_asking rfl (.write ⟨none⟩ op sent direction) clear)
          · exact steady_bridged agent link (plays cycle)
              (Inbound.Junction.tick_refuse_next clear direction left last refuses cycle)
              (steady_stopped _)
      | read _ _ op sent direction _ =>
        obtain ⟨next, pending, plans, _⟩ := Inbound.plansRead_cons bridge.conversion bridge.origin
          transfer.burst (transfer.beat + 1)
        refine steady_bridged agent link (plays cycle)
          (Inbound.Junction.tick_answered_read clear direction left last plans cycle)
          (steady_asking rfl (.read ⟨first⟩ _ op sent direction ?_) clear)
        rintro _ ⟨⟩
        rfl

/-- A master on the simple bus has nothing to do while its request waits. -/
theorem tickLane_simple_waits {script : Simple.Master} {request : Request}
    (agent : lane.agent = .simple script) (waits : lane.link = .waiting request)
    (raised : lane.link.request? = script.outstanding) (cycle : Nat) :
    tickLane cycle lane = (lane, none) := by
  obtain ⟨_, _, _, _, _⟩ := lane
  obtain ⟨_, _, _⟩ := script
  dsimp only at agent waits raised
  subst agent waits raised
  rfl

theorem steady_simple {script : Simple.Master} (agent : lane.agent = .simple script)
    (raised : lane.link.request? = script.outstanding) (cycle : Nat) :
    (tickLane cycle lane).1.agent.IsSteady (tickLane cycle lane).1.link := by
  obtain ⟨_, _, _, link, _⟩ := lane
  obtain ⟨queue, _, _⟩ := script
  dsimp only at agent raised
  subst agent raised
  cases link with
  | waiting request => exact .simple rfl
  | idle | answered _ _ => cases queue <;> exact .simple rfl

/-- A lane that waits for the crossbar does what it can in the next cycle, and nothing after it. -/
theorem MasterAgent.IsSteady.waits {request : Request} (steady : lane.agent.IsSteady lane.link)
    (waits : lane.link = .waiting request) :
    ∃ held : Lane MasterAgent, held.link = lane.link ∧ (∀ cycle, tickLane cycle lane = (held, none)) ∧
      ∀ cycle, tickLane cycle held = (held, none) := by
  generalize present : lane.agent = agent at steady
  generalize link : lane.link = held at steady
  cases steady with
  | halted _ _ _ =>
    rw [link] at waits
    cases waits
  | simple raised =>
    have ticks := tickLane_simple_waits present waits (by rw [link]; exact raised)
    exact ⟨lane, link, ticks, ticks⟩
  | running occupies =>
    obtain rfl : held = .waiting request := link.symm.trans waits
    cases occupies with
    | @asks _ transfer access _ bridge _ current along clear raised =>
      obtain ⟨following, channel, _, plays, settles⟩ := along.waits current
      have ticks (cycle : Nat) :=
        tickLane_eq_bridged present link (plays cycle) (Inbound.Junction.tick_wait clear cycle)
      exact ⟨_, rfl, ticks, fun cycle =>
        tickLane_eq_bridged rfl rfl (settles cycle) (Inbound.Junction.tick_wait clear cycle)⟩

theorem MasterAgent.IsSteady.tick (steady : lane.agent.IsSteady lane.link) (cycle : Nat) :
    (tickLane cycle lane).1.agent.IsSteady (tickLane cycle lane).1.link := by
  generalize present : lane.agent = agent at steady
  generalize link : lane.link = held at steady
  cases steady with
  | @halted script split bridge halted write read =>
    obtain ⟨_, afterWrite, afterRead⟩ := script.tick_silent write read cycle
    exact steady_bridged present link rfl (Inbound.Junction.tick_halted halted _ cycle)
      (.halted halted afterWrite afterRead)
  | simple raised => exact steady_simple present (by rw [link]; exact raised) cycle
  | @running script _ _ _ occupies =>
    cases occupies with
    | @rests bridge free clear stray =>
      cases waits : script.queue with
      | nil =>
        have done : script.isDone = true := by
          unfold Split.Master.isDone
          rw [free, waits]
          rfl
        rw [tickLane_rests present link done clear, present, link]
        exact .running (.rests free clear stray)
      | cons op queue =>
        cases op with
        | write burst beats => exact steady_begins_write present link free waits clear cycle
        | read burst => exact steady_begins_read present link free waits clear cycle
    | answered current due clear => exact steady_ends present link current due clear cycle
    | awaits current along clear direction done =>
      exact steady_awaits present link current along clear direction done cycle
    | asks current along clear raised =>
      cases held with
      | idle => cases raised
      | answered request response => exact steady_answered present link current along clear cycle
      | waiting request =>
        obtain ⟨following, channel, along, plays, _⟩ := along.waits current
        exact steady_bridged present link (plays cycle) (Inbound.Junction.tick_wait clear cycle)
          (.running (.asks rfl along clear raised))

end

/-- What waits in the script does not matter to the operation that is played. -/
theorem Occupies.push {script : Split.Master} {split : Split.Link} {bridge : Inbound} {link : Link}
    (occupies : Occupies script split bridge link) (op : Op) :
    Occupies (script.push op) split bridge link := by
  cases occupies with
  | rests free clear stray =>
    have still : (script.push op).current = none := free
    exact .rests still clear stray
  | asks current along clear raised => exact .asks current along clear raised
  | awaits current along clear direction done => exact .awaits current along clear direction done
  | answered current due clear => exact .answered current due clear

namespace MasterAgent.IsSteady

variable {agent : MasterAgent} {link : Link}

theorem of_masterAgent {port : Port} {width : Nat} (made : masterAgent port width = .ok agent) :
    agent.IsSteady .idle := by
  obtain ⟨_, plays⟩ := IsOf.of_masterAgent made
  cases plays with
  | simple _ raised => exact .simple raised
  | halted _ illegal =>
    obtain ⟨_, listed, _⟩ := illegal
    cases listed
  | split records conducts =>
    cases conducts with
    | rests free clear => exact .running (.rests free clear _)
    | asks current _ _ _ _ | answered current _ _ => cases records.mem_of_current current

theorem handed (steady : agent.IsSteady link) (port : PortId) (action : Action) :
    (agent.handed port action).IsSteady link := by
  cases steady with
  | simple raised =>
    rw [handed_simple]
    cases action.request? port <;> exact .simple raised
  | halted halted write read =>
    rw [handed_split]
    exact .halted halted write read
  | running occupies =>
    rw [handed_split]
    cases action.splitOp? port with
    | none => exact .running occupies
    | some op => exact .running (occupies.push op)

theorem mayAcknowledge (steady : agent.IsSteady link) {after : Link}
    (acknowledged : Link.MayAcknowledge link after) : agent.IsSteady after := by
  cases acknowledged with
  | same => exact steady
  | acknowledged response waits =>
    subst waits
    cases steady with
    | simple raised => exact .simple raised
    | running occupies =>
      cases occupies with
      | asks current along clear raised => exact .running (.asks current along clear raised)

end MasterAgent.IsSteady

def LanesSteady (fabric : Fabric) : Prop :=
  ∀ lane ∈ fabric.crossbar.lanes, lane.agent.IsSteady lane.link

theorem LanesSteady.act {fabric : Fabric} {stages : Nat → Stage} (steady : fabric.LanesSteady)
    (engaged : Engaged fabric.crossbar stages) (action : Action) :
    (fabric.act action).LanesSteady := by
  intro after member
  by_cases push : action = .tick
  · subst push
    obtain ⟨lane, listed, changes⟩ := lane_before_tick engaged member
    rw [changes.agent]
    exact ((steady lane listed).tick fabric.cycle).mayAcknowledge changes.link
  · rw [act_handed fabric push] at member
    obtain ⟨lane, listed, rfl⟩ := List.mem_map.mp member
    exact (steady lane listed).handed lane.port action

theorem lanesSteady_build {config : Config} {fabric : Fabric} (built : build config = .ok fabric) :
    fabric.LanesSteady := by
  intro lane member
  obtain ⟨_, _, _, made⟩ := (mapped_build built).lanes lane member
  obtain ⟨_, parts, _, _, _, rfl⟩ := build_parts built
  obtain ⟨_, _, rfl⟩ := List.mem_mapIdx.mp member
  exact .of_masterAgent made

end BusFabric.Fabric
