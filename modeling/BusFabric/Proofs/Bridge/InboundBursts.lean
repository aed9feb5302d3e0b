import BusFabric.Proofs.Bridge.InboundStages

set_option autoImplicit false

namespace BusFabric.Bridge.Inbound

open Simple (Request Response)
open Split (AddressBeat ReadBeat Status WriteBeat WriteResponse)

variable {conversion : Conversion} {origin : Address}

section

variable {junction : Junction} {handlings : List Handling}

/-- The junction when the bridge has collected an acknowledge and, being free, taken an address. -/
def Junction.entered (junction : Junction) : Junction × Option FaultKind :=
  let collected := junction.flush.collect
  if collected.bridge.active.isNone && collected.bridge.owedWrite.isNone &&
      collected.bridge.owedRead.isNone then collected.acceptAddress
  else (collected, none)

theorem Junction.step_eq (junction : Junction) :
    junction.step =
      if junction.entered.2.isSome || junction.entered.1.bridge.inflight.isSome then
        junction.entered
      else junction.entered.1.advance :=
  rfl

theorem Junction.entered_cases (junction : Junction) :
    junction.entered = (junction.flush.collect, none) ∨
      junction.flush.collect.bridge.active = none ∧
        junction.flush.collect.bridge.owedWrite = none ∧
        junction.flush.collect.bridge.owedRead = none ∧
        junction.entered = junction.flush.collect.acceptAddress := by
  unfold entered
  dsimp only
  split
  · rename_i free
    simp only [Bool.and_eq_true, Option.isNone_iff_eq_none] at free
    exact .inr ⟨free.1.1, free.1.2, free.2, rfl⟩
  · exact .inl rfl

theorem Junction.step_cases (junction : Junction) :
    (junction.entered.1 = junction.flush.collect ∨
      junction.flush.collect.bridge.active = none ∧
        junction.flush.collect.bridge.owedWrite = none ∧
        junction.flush.collect.bridge.owedRead = none ∧
        junction.entered.1 = junction.flush.collect.acceptAddress.1) ∧
    (junction.step.1 = junction.entered.1 ∨
      junction.entered.1.bridge.inflight = none ∧
        junction.step.1 = junction.entered.1.advance.1) := by
  constructor
  · rcases junction.entered_cases with same | ⟨active, owedWrite, owedRead, same⟩
    · exact .inl (by rw [same])
    · exact .inr ⟨active, owedWrite, owedRead, by rw [same]⟩
  · rw [step_eq]
    split
    · exact .inl rfl
    · rename_i goes
      simp only [Bool.or_eq_true, not_or, Bool.not_eq_true, Option.isSome_eq_false_iff,
        Option.isNone_iff_eq_none] at goes
      exact .inr ⟨goes.2, rfl⟩

/-- There is nothing to go on with without a burst. -/
theorem Junction.step_of_idle (idle : junction.entered.1.bridge.active = none) :
    junction.step.1 = junction.entered.1 := by
  rcases junction.step_cases.2 with same | ⟨_, same⟩
  · exact same
  · rw [same, advance_of_idle idle]

theorem Junction.accepted?_congr {before before' after after' : Junction}
    (write : before.split.writeAddress = before'.split.writeAddress)
    (read : before.split.readAddress = before'.split.readAddress)
    (write' : after.split.writeAddress = after'.split.writeAddress)
    (read' : after.split.readAddress = after'.split.readAddress) :
    Junction.accepted? before after = Junction.accepted? before' after' := by
  unfold Junction.accepted?
  rw [write, read, write', read']

structure Log.Accounts (conversion : Conversion) (origin : Address) (log : Log)
    (junction : Junction) : Prop where
  sound : Sound conversion origin junction log.handlings
  /-- The responses taken and those still to be taken are those of the bursts, in order. -/
  reads : log.reads ++ junction.reads = log.handlings.reverse.flatMap (·.readBeats)
  writes : log.writes ++ junction.writes = log.handlings.reverse.flatMap (·.writeResponses)

theorem flatMap_modifyHead {β : Type} (read : Handling → List β) (change : Handling → Handling)
    (more : List β) (adds : ∀ handling, read (change handling) = read handling ++ more)
    (none_ : handlings = [] → more = []) :
    (handlings.modifyHead change).reverse.flatMap read =
      handlings.reverse.flatMap read ++ more := by
  cases handlings with
  | nil => rw [none_ rfl]; rfl
  | cons handling past => simp [adds, List.flatMap_append]

theorem Junction.accepted?_fresh {before after : Junction} {handling : Handling}
    (accepted : Junction.accepted? before after = some handling) :
    handling.readBeats = [] ∧ handling.writeResponses = [] := by
  obtain ⟨_, _, rfl⟩ := Junction.accepted?_eq_some accepted
  exact ⟨rfl, rfl⟩

/-- The responses of a log after a tick are those before it and those that the tick produced. -/
theorem flatMap_observed {β : Type} (read : Handling → List β) {fresh : Option Handling}
    (blank : ∀ handling, fresh = some handling → read handling = [])
    {settle engage : Handling → Handling} {more : List β}
    (settles : ∀ handling, read (settle handling) = read handling ++ more)
    (engages : ∀ handling, read (engage handling) = read handling)
    (none_ : handlings = [] → more = []) :
    ((fresh.toList ++ handlings.modifyHead settle).modifyHead engage).reverse.flatMap read =
      handlings.reverse.flatMap read ++ more := by
  rw [flatMap_modifyHead read engage [] (fun handling => by rw [engages, List.append_nil])
    fun _ => rfl, List.append_nil]
  cases fresh with
  | none => exact flatMap_modifyHead read settle more settles none_
  | some handling =>
    rw [Option.toList_some, List.singleton_append, List.reverse_cons, List.flatMap_append,
      List.flatMap_singleton, blank handling rfl, List.append_nil]
    exact flatMap_modifyHead read settle more settles none_

/-- A tick of a running bridge as it looks from the log: the junction `middle` is the one between
taking an address and going on with a burst, the junction `after` is the one behind the tick, and
`reads` and `writes` became due in the tick. -/
structure Junction.Stages (conversion : Conversion) (origin : Address) (log : Log)
    (junction middle after : Junction) (reads : List ReadBeat) (writes : List WriteResponse) :
    Prop where
  accepts : middle = junction.flush.collect ∨
    junction.flush.collect.bridge.active = none ∧
      junction.flush.collect.bridge.owedWrite = none ∧
      junction.flush.collect.bridge.owedRead = none ∧
      middle = junction.flush.collect.acceptAddress.1
  nothing : log.handlings = [] → reads = [] ∧ writes = []
  accepted : Sound conversion origin middle
    ((Junction.accepted? junction.flush.collect middle).toList ++
      log.handlings.modifyHead (·.settle junction.simple.response?.toList reads writes))
  address : Junction.accepted? junction after = Junction.accepted? junction.flush.collect middle
  moreReads : after.reads = junction.reads ++ reads
  moreWrites : after.writes = junction.writes ++ writes
  observed : (log.observe junction after).handlings =
    ((Junction.accepted? junction.flush.collect middle).toList ++
      log.handlings.modifyHead
        (·.settle junction.simple.response?.toList reads writes)).modifyHead
      (·.engage (Junction.consumed? middle after).toList
        (middle.simple.raised? after.simple).toList)

/-- Taking an address changes no response, no write data and not the simple link. -/
theorem Junction.entered_accepts (junction : Junction) :
    Junction.Accepts junction.flush.collect junction.entered.1 := by
  rcases junction.step_cases.1 with same | ⟨_, _, _, same⟩
  · rw [same]
    exact ⟨rfl, rfl, rfl, rfl⟩
  · rw [same]
    exact junction.flush.collect.acceptAddress_accepts

theorem Junction.entered_writeData (junction : Junction) :
    junction.entered.1.split.writeData = junction.split.writeData :=
  junction.entered_accepts.writeData.trans junction.flush.collect_collects.writeData

theorem Junction.step_advances (junction : Junction) :
    Junction.Advances junction.entered.1 junction.step.1 := by
  rcases junction.step_cases.2 with same | ⟨_, same⟩
  · rw [same]
    exact ⟨rfl, rfl, rfl, rfl⟩
  · rw [same]
    exact junction.entered.1.advance_advances

/-- The stages of a tick, however the bridge goes on once it had its chance to take an address. -/
theorem Sound.stages {log : Log} (regular : conversion.IsRegular)
    (inward : conversion.direction = .splitToSimple)
    (sound : Sound conversion origin junction log.handlings)
    (running : junction.bridge.isHalted = false) :
    ∃ reads writes, ∀ after, Junction.Advances junction.entered.1 after →
      Junction.Stages conversion origin log junction junction.entered.1 after reads writes := by
  obtain ⟨reads, writes, moreReads, moreWrites, none_, collected⟩ :=
    sound.flush.collect regular inward
  rw [Junction.reads_flush] at moreReads
  rw [Junction.writes_flush] at moreWrites
  have collects := junction.flush.collect_collects
  have accepts := junction.entered_accepts
  have cases_ := junction.step_cases.1
  generalize junction.entered.1 = middle at *
  have accepted : Sound conversion origin middle
      ((Junction.accepted? junction.flush.collect middle).toList ++
        log.handlings.modifyHead (·.settle junction.simple.response?.toList reads writes)) := by
    rcases cases_ with rfl | ⟨idle, owedWrite, owedRead, rfl⟩
    · rw [Junction.accepted?_eq_none rfl rfl]
      exact collected
    · exact collected.acceptAddress (collects.halted.trans running) idle owedWrite owedRead
  refine ⟨reads, writes, fun after frame => ?_⟩
  have newReads := (frame.reads.trans accepts.reads).trans moreReads
  have newWrites := (frame.writes.trans accepts.writes).trans moreWrites
  have address : Junction.accepted? junction after =
      Junction.accepted? junction.flush.collect middle :=
    Junction.accepted?_congr collects.writeAddress.symm collects.readAddress.symm
      frame.writeAddress frame.readAddress
  have data : Junction.consumed? junction after = Junction.consumed? middle after := by
    unfold Junction.consumed?
    rw [accepts.writeData.trans collects.writeData]
    rfl
  have request : junction.simple.raised? after.simple = middle.simple.raised? after.simple := by
    unfold Simple.Link.raised?
    rw [accepts.simple, collects.awaiting]
    rfl
  refine ⟨cases_, none_, accepted, address, newReads, newWrites, ?_⟩
  unfold Log.observe
  dsimp only
  rw [newReads, newWrites, List.drop_left, List.drop_left, address, data, request]

theorem Junction.Stages.sound {log : Log} {middle after : Junction} {reads : List ReadBeat}
    {writes : List WriteResponse} (regular : conversion.IsRegular)
    (inward : conversion.direction = .splitToSimple)
    (stages : Junction.Stages conversion origin log junction middle after reads writes)
    (advances : after = middle ∨ middle.bridge.inflight = none ∧ after = middle.advance.1) :
    Sound conversion origin after (log.observe junction after).handlings := by
  rw [stages.observed]
  rcases advances with same | ⟨inflight, same⟩
  · rw [same, Junction.consumed?_self, Simple.Link.raised?_self, Option.toList_none,
      Option.toList_none, modifyHead_engage_nil]
    exact stages.accepted
  · rw [same]
    exact stages.accepted.advance regular inward inflight

theorem Log.Accounts.step {log : Log} (regular : conversion.IsRegular)
    (inward : conversion.direction = .splitToSimple)
    (accounts : log.Accounts conversion origin junction)
    (running : junction.bridge.isHalted = false) :
    (log.observe junction junction.step.1).Accounts conversion origin junction.step.1 := by
  obtain ⟨reads, writes, enters⟩ := accounts.sound.stages regular inward running
  have stages := enters _ junction.step_advances
  refine ⟨stages.sound regular inward junction.step_cases.2, ?_, ?_⟩
  · rw [stages.observed, stages.moreReads]
    refine Eq.trans ?_ (Eq.symm (flatMap_observed (·.readBeats)
      (fun _ fresh => (Junction.accepted?_fresh fresh).1) (fun _ => rfl)
      (fun _ => rfl) fun empty => (stages.nothing empty).1))
    rw [← accounts.reads, List.append_assoc]
    rfl
  · rw [stages.observed, stages.moreWrites]
    refine Eq.trans ?_ (Eq.symm (flatMap_observed (·.writeResponses)
      (fun _ fresh => (Junction.accepted?_fresh fresh).2) (fun _ => rfl)
      (fun _ => rfl) fun empty => (stages.nothing empty).2))
    rw [← accounts.writes, List.append_assoc]
    rfl

theorem Sound.drain {log : Log} (sound : Sound conversion origin junction log.handlings)
    (halted : junction.bridge.isHalted = true) :
    junction.drain = junction ∧ (log.observe junction junction).handlings = log.handlings := by
  have idle : junction.simple = .idle := by
    have link := sound.link
    rw [sound.standing.inflight_of_halted halted] at link
    cases simple : junction.simple with
    | idle => rfl
    | waiting request => rw [simple] at link; cases link
    | answered request response => rw [simple] at link; cases link
  constructor
  · unfold Junction.drain
    rw [idle]
    rfl
  · unfold Log.observe
    rw [Junction.accepted?_eq_none rfl rfl, Junction.consumed?_self, Simple.Link.raised?_self, idle,
      List.drop_length, List.drop_length]
    cases log.handlings with
    | nil => rfl
    | cons handling past =>
      simp [Handling.settle, Handling.engage, Simple.Link.response?]

theorem Log.Accounts.tick {log : Log} (regular : conversion.IsRegular)
    (inward : conversion.direction = .splitToSimple)
    (accounts : log.Accounts conversion origin junction) (cycle : Nat) :
    (log.act junction (.tick cycle)).Accounts conversion origin (junction.act (.tick cycle)) := by
  show (log.observe junction (junction.tick cycle).1).Accounts conversion origin
    (junction.tick cycle).1
  unfold Junction.tick
  cases halted : junction.bridge.isHalted with
  | true =>
    obtain ⟨same, observed⟩ := accounts.sound.drain halted
    rw [if_pos rfl]
    dsimp only
    rw [same]
    refine ⟨?_, ?_, ?_⟩
    · rw [observed]
      exact accounts.sound
    · rw [observed]
      exact accounts.reads
    · rw [observed]
      exact accounts.writes
  | false =>
    rw [if_neg Bool.false_ne_true]
    exact accounts.step regular inward halted

/-- What the surroundings do keeps the log in step with the junction. -/
theorem Log.Accounts.act {log : Log} (regular : conversion.IsRegular)
    (inward : conversion.direction = .splitToSimple)
    (accounts : log.Accounts conversion origin junction) (move : Move) :
    (log.act junction move).Accounts conversion origin (junction.act move) := by
  have sound := accounts.sound
  cases move with
  | tick cycle => exact accounts.tick regular inward cycle
  | sendWriteAddress burst =>
    exact ⟨⟨sound.sameConversion, sound.sameOrigin, sound.standing, sound.link⟩,
      accounts.reads, accounts.writes⟩
  | sendReadAddress burst =>
    exact ⟨⟨sound.sameConversion, sound.sameOrigin, sound.standing, sound.link⟩,
      accounts.reads, accounts.writes⟩
  | sendWriteData beat =>
    exact ⟨⟨sound.sameConversion, sound.sameOrigin, sound.standing, sound.link⟩,
      accounts.reads, accounts.writes⟩
  | takeWriteResponse =>
    refine ⟨⟨sound.sameConversion, sound.sameOrigin, sound.standing, sound.link⟩,
      accounts.reads, ?_⟩
    show log.writes ++ junction.split.writeResponse.beat.toList ++
      junction.bridge.owedWrite.toList = _
    rw [List.append_assoc]
    exact accounts.writes
  | takeReadData =>
    refine ⟨⟨sound.sameConversion, sound.sameOrigin, sound.standing, sound.link⟩,
      ?_, accounts.writes⟩
    show log.reads ++ junction.split.readData.beat.toList ++ junction.bridge.owedRead.toList = _
    rw [List.append_assoc]
    exact accounts.reads
  | acknowledge response =>
    refine ⟨⟨sound.sameConversion, sound.sameOrigin, sound.standing, ?_⟩,
      accounts.reads, accounts.writes⟩
    show (junction.simple.acknowledge response).request? =
      junction.bridge.inflight.map (·.request)
    rw [← sound.link]
    cases junction.simple <;> rfl

theorem Log.Accounts.play {log : Log} (regular : conversion.IsRegular)
    (inward : conversion.direction = .splitToSimple)
    (accounts : log.Accounts conversion origin junction) (moves : List Move) :
    (junction.play log moves).2.Accounts conversion origin (junction.play log moves).1 := by
  induction moves generalizing junction log with
  | nil => exact accounts
  | cons move rest ih => exact ih (accounts.act regular inward move)

end

theorem Log.Accounts.fresh (port : PortId) (conversion : Conversion) (origin : Address) :
    Log.Accounts conversion origin {} (Junction.fresh port conversion origin) :=
  ⟨⟨rfl, rfl, .resting rfl rfl nofun, rfl⟩, rfl, rfl⟩

/-- Whatever happens around an inbound bridge, each burst that it takes is carried out beat by beat,
its last response comes once every request of the burst was raised and acknowledged, and the
responses reach the master in the order of the bursts. -/
theorem bursts_faithful {source target : Protocol} {sourceWidth targetWidth : Nat}
    {conversion : Conversion}
    (built : Conversion.between source sourceWidth target targetWidth = .ok conversion)
    (inward : conversion.direction = .splitToSimple) (port : PortId) (origin : Address)
    (moves : List Move) :
    let (junction, log) := (Junction.fresh port conversion origin).play {} moves
    (∀ handling ∈ log.handlings, handling.Faithful conversion origin) ∧
      log.reads ++ junction.reads = log.handlings.reverse.flatMap (·.readBeats) ∧
      log.writes ++ junction.writes = log.handlings.reverse.flatMap (·.writeResponses) := by
  have regular := Conversion.isRegular_of_between built
  have accounts := (Log.Accounts.fresh port conversion origin).play regular inward moves
  exact ⟨accounts.sound.standing.faithful regular inward, accounts.reads, accounts.writes⟩

/-- A 32-bit write onto an eight-bit bus: four requests, then its response. -/
theorem bursts_faithful_narrow :
    let conversion : Conversion := ⟨.wideSplit, 32, .simpleSync, 8⟩
    let moves : List Move :=
      [.sendWriteAddress (.single 7 0x1000 2), .sendWriteData ⟨0x44332211, 0xb, true⟩] ++
        (List.range 5).flatMap fun cycle => [.tick cycle, .acknowledge (.ok 0)]
    Conversion.between .wideSplit 32 .simpleSync 8 = .ok conversion ∧
      conversion.direction = .splitToSimple ∧
      let (junction, log) := (Junction.fresh ⟨1⟩ conversion 0).play {} moves
      (log.handlings.map (·.issued.length) = [4] ∧ junction.writes = [⟨7, .okay⟩]) ∧
      (∀ handling ∈ log.handlings, handling.Faithful conversion 0) ∧
        log.reads ++ junction.reads = log.handlings.reverse.flatMap (·.readBeats) ∧
        log.writes ++ junction.writes = log.handlings.reverse.flatMap (·.writeResponses) := by
  intro conversion moves
  have built : Conversion.between .wideSplit 32 .simpleSync 8 = .ok conversion := rfl
  exact ⟨built, rfl, by decide, bursts_faithful built rfl ⟨1⟩ 0 moves⟩

end BusFabric.Bridge.Inbound
