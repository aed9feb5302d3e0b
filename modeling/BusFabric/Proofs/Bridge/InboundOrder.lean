import BusFabric.Proofs.Bridge.InboundCompletion

set_option autoImplicit false

namespace BusFabric.Bridge.Inbound

open Simple (Request Response)
open Split (AddressBeat ReadBeat Status WriteBeat WriteResponse)

variable {conversion : Conversion} {origin : Address}

/-- A write has at most one response, after all of its data; a read has at most as many beats as it
asked for, with the last one marked as such and no other. All carry the burst's identifier. -/
structure Handling.Ordered (handling : Handling) : Prop where
  consumed : handling.consumed.length ≤ if handling.write then handling.burst.beats else 0
  writeResponses : handling.writeResponses.length ≤ if handling.write then 1 else 0
  readBeats : handling.readBeats.length ≤ if handling.write then 0 else handling.burst.beats
  writeId : ∀ response ∈ handling.writeResponses, response.id = handling.burst.id
  readId : ∀ beat ∈ handling.readBeats, beat.id = handling.burst.id
  last : ∀ index beat, handling.readBeats[index]? = some beat →
    beat.last = decide (index + 1 = handling.burst.beats)

/-- A log with the write data that the master sent and the responses in the order in which they came
into their channels. -/
structure Journal where
  log : Log := {}
  offered : List WriteBeat := []
  placed : List Reply := []

def Journal.act (journal : Journal) (junction : Junction) (move : Move) : Journal where
  log := journal.log.act junction move
  offered := journal.offered ++
    (junction.split.writeData.driven? (junction.act move).split.writeData).toList
  placed := journal.placed ++ junction.placed (junction.act move)

def Junction.record (junction : Junction) (journal : Journal) : List Move → Junction × Journal
  | [] => (junction, journal)
  | move :: moves => (junction.act move).record (journal.act junction move) moves

structure Junction.Delivers (journal : Journal) (junction : Junction) (cycle : Nat) : Prop where
  /-- A response that is owed is driven or goes on being owed. -/
  kept : junction.owed <+: junction.placed (junction.tick cycle).1 ++ (junction.tick cycle).1.owed
  /-- No two responses come into their channels at a time. -/
  single : (junction.placed (junction.tick cycle).1).length ≤ 1
  /-- When an address is taken, all that came before is complete and delivered. -/
  accepted : ∀ handling, Junction.accepted? junction (junction.tick cycle).1 = some handling →
    let next := journal.act junction (.tick cycle)
    (junction.tick cycle).1.owed = [] ∧
      (∀ earlier ∈ next.log.handlings.tail, earlier.IsComplete) ∧
      next.placed = next.log.handlings.tail.reverse.flatMap (·.replies)
  /-- No two addresses are taken at a time. -/
  alone : junction.split.writeAddress.taken? (junction.tick cycle).1.split.writeAddress = none ∨
    junction.split.readAddress.taken? (junction.tick cycle).1.split.readAddress = none

section

variable {junction : Junction} {handlings : List Handling}

/-- A change of the newest burst that a reading does not see. -/
theorem flatMap_modifyHead_same {β : Type} (read : Handling → List β) (handlings : List Handling)
    (change : Handling → Handling) (same : ∀ handling, read (change handling) = read handling) :
    (handlings.modifyHead change).reverse.flatMap read = handlings.reverse.flatMap read := by
  cases handlings with
  | nil => rfl
  | cons handling past => simp [same, List.flatMap_append]

/-- What a tick did to the responses and the write data, seen from the log; `more` became due. -/
structure Stepped (junction after : Junction) (handlings observed : List Handling)
    (more : List Reply) : Prop where
  tidy : Tidy after observed
  due : junction.placed after ++ after.owed = junction.owed ++ more
  replies : observed.reverse.flatMap (·.replies) = handlings.reverse.flatMap (·.replies) ++ more
  single : (junction.owed ++ more).length ≤ 1
  consumed : observed.reverse.flatMap (·.consumed) =
    handlings.reverse.flatMap (·.consumed) ++ (Junction.consumed? junction after).toList
  accepted : ∀ handling, Junction.accepted? junction after = some handling →
    after.owed = [] ∧ (∀ earlier ∈ observed.tail, earlier.IsComplete) ∧
      observed.tail.reverse.flatMap (·.replies) = handlings.reverse.flatMap (·.replies) ++ more
  alone : after.split.writeAddress = junction.split.writeAddress ∨
    after.split.readAddress = junction.split.readAddress
  receives : after.split.writeData = junction.split.writeData ∨ after.split.writeData.beat = none

/-- A bridge at which nothing happened. -/
theorem Stepped.refl (tidy : Tidy junction handlings) :
    Stepped junction junction handlings handlings [] where
  tidy := tidy
  due := by
    unfold Junction.placed
    simp
  replies := (List.append_nil _).symm
  single := by
    rw [List.append_nil]
    exact tidy.one.length_owed
  consumed := by rw [Junction.consumed?_self, Option.toList_none, List.append_nil]
  accepted := by
    intro handling accepted
    rw [Junction.accepted?_eq_none rfl rfl] at accepted
    cases accepted
  alone := .inl rfl
  receives := .inl rfl

theorem Junction.accepted?_blank {before after : Junction} {handling : Handling}
    (accepted : Junction.accepted? before after = some handling) :
    handling.replies = [] ∧ handling.consumed = [] := by
  obtain ⟨_, write, rfl⟩ := Junction.accepted?_eq_some accepted
  cases write <;> exact ⟨rfl, rfl⟩

/-- What an address adds to a log, before anything is done for it, reads as nothing. -/
theorem flatMap_fresh {β : Type} (read : Handling → List β) {fresh : Option Handling}
    (blank : ∀ handling, fresh = some handling → read handling = []) (handlings : List Handling) :
    (fresh.toList ++ handlings).reverse.flatMap read = handlings.reverse.flatMap read := by
  cases fresh with
  | none => rfl
  | some handling =>
    rw [Option.toList_some, List.singleton_append, List.reverse_cons, List.flatMap_append,
      List.flatMap_singleton, blank handling rfl, List.append_nil]

namespace Junction

theorem entered_holds (junction : Junction) :
    Holds junction.flush.collect junction.entered.1 := by
  rcases junction.step_cases.1 with same | ⟨_, _, _, same⟩
  · rw [same]
    exact ⟨rfl, rfl, rfl, rfl⟩
  · rw [same]
    exact junction.flush.collect.acceptAddress_holds

theorem step_holds (junction : Junction) : Holds junction.entered.1 junction.step.1 := by
  rcases junction.step_cases.2 with same | ⟨_, same⟩
  · rw [same]
    exact ⟨rfl, rfl, rfl, rfl⟩
  · rw [same]
    exact junction.entered.1.advance_holds

theorem step_address (junction : Junction) :
    junction.step.1.split.writeAddress = junction.split.writeAddress ∨
      junction.step.1.split.readAddress = junction.split.readAddress := by
  have collects := junction.flush.collect_collects
  rw [junction.step_advances.writeAddress, junction.step_advances.readAddress]
  rcases junction.step_cases.1 with same | ⟨_, _, _, same⟩
  · rw [same]
    exact .inl collects.writeAddress
  · rw [same]
    rcases junction.flush.collect.acceptAddress_cases with same | ⟨_, _, taken⟩ | ⟨_, _, taken⟩
    · rw [same]
      exact .inl collects.writeAddress
    · rw [taken]
      exact .inr collects.readAddress
    · rw [taken]
      exact .inl collects.writeAddress

theorem step_writeData (junction : Junction) :
    junction.step.1.split.writeData = junction.split.writeData ∨
      junction.step.1.split.writeData.beat = none := by
  rw [← junction.entered_writeData]
  rcases junction.step_cases.2 with same | ⟨_, same⟩
  · rw [same]
    exact .inl rfl
  · rw [same]
    exact junction.entered.1.advance_writeData

end Junction

theorem Tidy.step (tidy : Tidy junction.entered.1 handlings)
    (sound : Sound conversion origin junction.entered.1 handlings) :
    Tidy junction.step.1 (handlings.modifyHead
      (·.engage (Junction.consumed? junction.entered.1 junction.step.1).toList
        (junction.entered.1.simple.raised? junction.step.1.simple).toList)) := by
  rcases junction.step_cases.2 with same | ⟨_, same⟩
  · rw [same, Junction.consumed?_self, Simple.Link.raised?_self, Option.toList_none,
      Option.toList_none, modifyHead_engage_nil]
    exact tidy
  · rw [same]
    exact tidy.advance sound

theorem Junction.Stages.stepped {log : Log} {reads : List ReadBeat}
    {writes : List WriteResponse} (regular : conversion.IsRegular)
    (inward : conversion.direction = .splitToSimple)
    (stages : Junction.Stages conversion origin log junction junction.entered.1 junction.step.1
      reads writes)
    (sound : Sound conversion origin junction log.handlings)
    (running : junction.bridge.isHalted = false) (tidy : Tidy junction log.handlings) :
    ∃ more, Stepped junction junction.step.1 log.handlings
      (log.observe junction junction.step.1).handlings more := by
  have holds := junction.entered_holds.trans junction.step_holds
  obtain ⟨more, collected, accepted⟩ :=
    stages.tidy regular inward junction.step_advances sound running tidy
  have observed := stages.observed
  have entered := stages.accepted
  generalize settles : log.handlings.modifyHead
    (·.settle junction.simple.response?.toList reads writes) = settled at *
  have fresh : ∀ handling, Junction.accepted? junction.flush.collect junction.entered.1 =
      some handling → handling.replies = [] ∧ handling.consumed = [] :=
    fun _ => Junction.accepted?_blank
  refine ⟨more, ?_, ?_, ?_, collected.single, ?_, ?_, junction.step_address,
    junction.step_writeData⟩
  · rw [observed]
    exact accepted.1.step entered
  · rw [holds.placed_eq, holds.owed_eq]
    exact collected.due
  · rw [observed, flatMap_modifyHead_same,
      flatMap_fresh _ fun handling taken => (fresh handling taken).1]
    · exact collected.replies
    · exact fun _ => rfl
  · have data : Junction.consumed? junction junction.step.1 =
        Junction.consumed? junction.entered.1 junction.step.1 := by
      unfold Junction.consumed?
      rw [junction.entered_writeData]
    -- data is consumed for a burst only
    have nothing : (Junction.accepted? junction.flush.collect junction.entered.1).toList ++
        settled = [] → (Junction.consumed? junction.entered.1 junction.step.1).toList = [] := by
      intro none_
      rw [none_] at entered
      cases entered.standing with
      | resting idle _ _ =>
        rw [junction.step_of_idle idle, Junction.consumed?_self, Option.toList_none]
    rw [observed, data, flatMap_modifyHead (·.consumed) _
      (Junction.consumed? junction.entered.1 junction.step.1).toList (fun _ => rfl) nothing,
      flatMap_fresh _ fun handling taken => (fresh handling taken).2, ← settles,
      flatMap_modifyHead_same]
    exact fun _ => rfl
  · intro handling taken
    rw [stages.address] at taken
    obtain ⟨nothing, complete⟩ := accepted.2 handling taken
    have tail : (log.observe junction junction.step.1).handlings.tail = settled := by
      rw [observed, tail_modifyHead, taken]
      rfl
    rw [tail]
    exact ⟨junction.step_holds.owed_eq.trans nothing, complete, collected.replies⟩

/-- What a whole tick did, of a bridge that runs or has given up. -/
theorem Log.Accounts.stepped {log : Log} (regular : conversion.IsRegular)
    (inward : conversion.direction = .splitToSimple)
    (accounts : log.Accounts conversion origin junction) (tidy : Tidy junction log.handlings)
    (cycle : Nat) :
    ∃ more, Stepped junction (junction.tick cycle).1 log.handlings
      (log.observe junction (junction.tick cycle).1).handlings more := by
  unfold Junction.tick
  cases halted : junction.bridge.isHalted with
  | true =>
    obtain ⟨same, observed⟩ := accounts.sound.drain halted
    rw [if_pos rfl]
    dsimp only
    rw [same, observed]
    exact ⟨[], .refl tidy⟩
  | false =>
    obtain ⟨reads, writes, enters⟩ := accounts.sound.stages regular inward halted
    rw [if_neg Bool.false_ne_true]
    exact (enters _ junction.step_advances).stepped regular inward accounts.sound halted tidy

end

structure Journal.Keeps (conversion : Conversion) (origin : Address) (journal : Journal)
    (junction : Junction) : Prop where
  accounts : journal.log.Accounts conversion origin junction
  tidy : Tidy junction journal.log.handlings
  /-- The responses of all bursts, in order, are in their channels or still owed. -/
  placed : journal.placed ++ junction.owed = journal.log.handlings.reverse.flatMap (·.replies)
  /-- The write data sent is consumed, in order, or still in its channel. -/
  offered : journal.offered = journal.log.handlings.reverse.flatMap (·.consumed) ++
    junction.split.writeData.beat.toList

section

variable {junction : Junction} {journal : Journal}

theorem Journal.Keeps.tick (regular : conversion.IsRegular)
    (inward : conversion.direction = .splitToSimple)
    (keeps : journal.Keeps conversion origin junction) (cycle : Nat) :
    (journal.act junction (.tick cycle)).Keeps conversion origin (junction.act (.tick cycle)) := by
  obtain ⟨more, stepped⟩ := keeps.accounts.stepped regular inward keeps.tidy cycle
  obtain ⟨taken, undriven⟩ := Split.Channel.taken?_of_receiver stepped.receives
  refine ⟨keeps.accounts.tick regular inward cycle, stepped.tidy, ?_, ?_⟩
  · show journal.placed ++ junction.placed (junction.tick cycle).1 ++
      (junction.tick cycle).1.owed = _
    rw [List.append_assoc, stepped.due, ← List.append_assoc, keeps.placed]
    exact stepped.replies.symm
  · show journal.offered ++ (junction.split.writeData.driven?
      (junction.tick cycle).1.split.writeData).toList = _
    rw [undriven, Option.toList_none, List.append_nil, keeps.offered, taken, ← List.append_assoc]
    exact congrArg (· ++ _) stepped.consumed.symm

theorem Junction.placed_eq_nil {after : Junction}
    (write : after.split.writeResponse = junction.split.writeResponse ∨
      after.split.writeResponse.beat = none)
    (read : after.split.readData = junction.split.readData ∨ after.split.readData.beat = none) :
    junction.placed after = [] := by
  unfold Junction.placed
  rw [(Split.Channel.taken?_of_receiver write).2, (Split.Channel.taken?_of_receiver read).2]
  rfl

theorem Journal.Keeps.act (regular : conversion.IsRegular)
    (inward : conversion.direction = .splitToSimple)
    (keeps : journal.Keeps conversion origin junction) (move : Move) :
    (journal.act junction move).Keeps conversion origin (junction.act move) := by
  have accounts := keeps.accounts.act regular inward move
  -- a move that is no tick leaves the bridge and the bursts alone
  have stays : ∀ after : Junction, after.bridge = junction.bridge →
      (journal.log.act junction move).Accounts conversion origin after →
      (journal.log.act junction move).handlings = journal.log.handlings →
      junction.placed after = [] →
      after.split.writeData.beat.toList = junction.split.writeData.beat.toList ++
        (junction.split.writeData.driven? after.split.writeData).toList →
      Journal.Keeps conversion origin
        { log := journal.log.act junction move
          offered := journal.offered ++
            (junction.split.writeData.driven? after.split.writeData).toList
          placed := journal.placed ++ junction.placed after } after := by
    intro after same accounts handlings unplaced sends
    refine ⟨accounts, ?_, ?_, ?_⟩
    · rw [handlings]
      exact keeps.tidy.congr same
    · rw [handlings, unplaced, List.append_nil]
      unfold Junction.owed
      rw [same]
      exact keeps.placed
    · rw [handlings, sends, ← List.append_assoc, ← keeps.offered]
  cases move with
  | tick cycle => exact keeps.tick regular inward cycle
  | sendWriteData beat =>
    exact stays _ rfl accounts rfl (Junction.placed_eq_nil (.inl rfl) (.inl rfl))
      (junction.split.writeData.driven?_getD_send beat)
  | takeWriteResponse =>
    exact stays _ rfl accounts rfl (Junction.placed_eq_nil (.inr rfl) (.inl rfl))
      (by simp [Junction.act])
  | takeReadData =>
    exact stays _ rfl accounts rfl (Junction.placed_eq_nil (.inl rfl) (.inr rfl))
      (by simp [Junction.act])
  | sendWriteAddress _ | sendReadAddress _ | acknowledge _ =>
    exact stays _ rfl accounts rfl (Junction.placed_eq_nil (.inl rfl) (.inl rfl))
      (by simp [Junction.act])

theorem Journal.Keeps.record (regular : conversion.IsRegular)
    (inward : conversion.direction = .splitToSimple)
    (keeps : journal.Keeps conversion origin junction) (moves : List Move) :
    (junction.record journal moves).2.Keeps conversion origin (junction.record journal moves).1 := by
  induction moves generalizing junction journal with
  | nil => exact keeps
  | cons move rest ih => exact ih (keeps.act regular inward move)

theorem Journal.Keeps.delivers (regular : conversion.IsRegular)
    (inward : conversion.direction = .splitToSimple)
    (keeps : journal.Keeps conversion origin junction) (cycle : Nat) :
    junction.Delivers journal cycle := by
  obtain ⟨more, stepped⟩ := keeps.accounts.stepped regular inward keeps.tidy cycle
  have due := stepped.due
  refine ⟨⟨more, due.symm⟩, ?_, ?_, ?_⟩
  · have single := stepped.single
    rw [← due, List.length_append] at single
    omega
  · intro handling accepted
    obtain ⟨nothing, complete, replies⟩ := stepped.accepted handling accepted
    refine ⟨nothing, complete, ?_⟩
    show journal.placed ++ junction.placed (junction.tick cycle).1 = _
    rw [nothing, List.append_nil] at due
    rw [due, ← List.append_assoc, keeps.placed]
    exact replies.symm
  · rcases stepped.alone with same | same
    · left
      rw [same, Split.Channel.taken?_self]
    · right
      rw [same, Split.Channel.taken?_self]

end

theorem Handling.Faithful.ordered {handling : Handling}
    (faithful : handling.Faithful conversion origin)
    (reads : handling.write = false → handling.consumed = []) : handling.Ordered where
  consumed := by
    split
    · exact faithful.consumed
    · rename_i read
      rw [reads (by simpa using read)]
      exact Nat.le_refl _
  writeResponses := by
    rcases faithful.writeResponses with none_ | ⟨write, one⟩
    · rw [none_]
      exact Nat.zero_le _
    · rw [one, write]
      exact Nat.le_refl _
  readBeats := faithful.reads
  writeId := by
    intro response there
    rcases faithful.writeResponses with none_ | ⟨_, one⟩
    · rw [none_] at there
      cases there
    · rw [one] at there
      rw [List.mem_singleton.mp there]
      rfl
  readId := by
    intro beat there
    rw [faithful.readBeats] at there
    obtain ⟨index, _, rfl⟩ := List.mem_map.mp there
    rfl
  last := by
    intro index beat there
    rw [faithful.readBeats, List.getElem?_map] at there
    obtain ⟨place, found, rfl⟩ := Option.map_eq_some_iff.mp there
    obtain ⟨inside, here⟩ := List.getElem?_eq_some_iff.mp found
    rw [List.getElem_range] at here
    rw [← here]
    rfl

def Handling.IsUnderway (handling : Handling) (bridge : Inbound) : Prop :=
  ∃ transfer, bridge.active = some transfer ∧ transfer.burst = handling.burst ∧
    transfer.write = handling.write

theorem Standing.newest {junction : Junction} {handlings : List Handling}
    (standing : Standing conversion origin junction.bridge handlings)
    (tidy : Tidy junction handlings) :
    ∀ handling ∈ handlings.head?, handling.IsComplete ∨ handling.IsUnderway junction.bridge ∨
      junction.bridge.isHalted = true := by
  intro handling newest
  have there : handling ∈ handlings := List.mem_of_head? newest
  cases standing with
  | resting idle _ _ =>
    cases halted : junction.bridge.isHalted with
    | true => exact .inr (.inr rfl)
    | false => exact .inl (tidy.idle idle halted handling there)
  | working transfer underway _ =>
    cases newest
    exact .inr (.inl ⟨transfer, underway.active, underway.burst, underway.write⟩)

/-- Whatever happens around an inbound bridge, its responses come into their channels in the order
of the addresses, none is lost or given twice, and write data is consumed in the order in which it
came; the last burst may still be under way, and every earlier one is complete. -/
theorem responses_keep_order {source target : Protocol} {sourceWidth targetWidth : Nat}
    {conversion : Conversion}
    (built : Conversion.between source sourceWidth target targetWidth = .ok conversion)
    (inward : conversion.direction = .splitToSimple) (port : PortId) (origin : Address)
    (moves : List Move) :
    let (junction, journal) := (Junction.fresh port conversion origin).record {} moves
    let handlings := journal.log.handlings
    (∀ handling ∈ handlings, handling.Ordered) ∧
      (∀ handling ∈ handlings.tail, handling.IsComplete) ∧
      (∀ handling ∈ handlings.head?, handling.IsComplete ∨
        handling.IsUnderway junction.bridge ∨ junction.bridge.isHalted = true) ∧
      journal.placed ++ junction.owed = handlings.reverse.flatMap (·.replies) ∧
      journal.offered =
        handlings.reverse.flatMap (·.consumed) ++ junction.split.writeData.beat.toList ∧
      ∀ cycle, junction.Delivers journal cycle := by
  have regular := Conversion.isRegular_of_between built
  have fresh : Journal.Keeps conversion origin {} (Junction.fresh port conversion origin) :=
    ⟨Log.Accounts.fresh port conversion origin, ⟨.inl rfl, nofun, fun _ _ => nofun, nofun⟩,
      rfl, rfl⟩
  have keeps := fresh.record regular inward moves
  have standing := keeps.accounts.sound.standing
  exact ⟨fun handling there => (standing.faithful regular inward handling there).ordered
      (keeps.tidy.reads handling there),
    keeps.tidy.past, standing.newest keeps.tidy, keeps.placed, keeps.offered,
    keeps.delivers regular inward⟩

/-- A write and a read come at once, and both response channels stay full for a while: the write's
response is driven first, and the read's two beats follow. -/
theorem responses_keep_order_stalled :
    let conversion : Conversion := ⟨.wideSplit, 8, .simpleSync, 8⟩
    let moves : List Move :=
      [.sendWriteAddress (.single 7 0x10 0), .sendReadAddress (.incr 8 0x20 0 2),
        .sendWriteData ⟨0x11, 1, true⟩] ++
      ((List.range 6).flatMap fun cycle => [.tick cycle, .acknowledge (.ok 0x22)]) ++
      [.takeReadData] ++ (List.range 2).map .tick
    Conversion.between .wideSplit 8 .simpleSync 8 = .ok conversion ∧
      conversion.direction = .splitToSimple ∧
      let (junction, journal) := (Junction.fresh ⟨1⟩ conversion 0).record {} moves
      let handlings := journal.log.handlings
      (journal.placed = [.write ⟨7, .okay⟩, .read ⟨8, 0x22, .okay, false⟩,
          .read ⟨8, 0x22, .okay, true⟩] ∧ junction.owed = []) ∧
      (∀ handling ∈ handlings, handling.Ordered) ∧
      (∀ handling ∈ handlings.tail, handling.IsComplete) ∧
      (∀ handling ∈ handlings.head?, handling.IsComplete ∨
        handling.IsUnderway junction.bridge ∨ junction.bridge.isHalted = true) ∧
      journal.placed ++ junction.owed = handlings.reverse.flatMap (·.replies) ∧
      journal.offered =
        handlings.reverse.flatMap (·.consumed) ++ junction.split.writeData.beat.toList ∧
      ∀ cycle, junction.Delivers journal cycle := by
  intro conversion moves
  have built : Conversion.between .wideSplit 8 .simpleSync 8 = .ok conversion := rfl
  exact ⟨built, rfl, by decide, responses_keep_order built rfl ⟨1⟩ 0 moves⟩

end BusFabric.Bridge.Inbound
