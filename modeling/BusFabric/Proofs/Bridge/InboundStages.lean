import BusFabric.Proofs.Bridge.InboundBeats

set_option autoImplicit false

namespace BusFabric.Bridge.Inbound

open Simple (Request Response)
open Split (AddressBeat ReadBeat Status WriteBeat WriteResponse)

variable {conversion : Conversion} {origin : Address}

/-! ### Driving what is owed -/

namespace Junction

theorem reads_flush (junction : Junction) : junction.flush.reads = junction.reads := by
  unfold flush reads Split.Channel.settle
  cases owed : junction.bridge.owedRead with
  | none => rfl
  | some beat =>
    obtain ⟨_, ⟨_, _, _, _, ⟨channel⟩⟩, _⟩ := junction
    cases channel <;> rfl

theorem writes_flush (junction : Junction) : junction.flush.writes = junction.writes := by
  unfold flush writes Split.Channel.settle
  cases owed : junction.bridge.owedWrite with
  | none => rfl
  | some beat =>
    obtain ⟨_, ⟨_, _, ⟨channel⟩, _, _⟩, _⟩ := junction
    cases channel <;> rfl

end Junction

theorem settle_snd_of_none {α : Type} {owed : Option α} (channel : Split.Channel α)
    (none_ : owed = none) : (channel.settle owed).2 = none := by
  rw [none_]
  rfl

theorem Sound.flush {junction : Junction} {handlings : List Handling}
    (sound : Sound conversion origin junction handlings) :
    Sound conversion origin junction.flush handlings where
  sameConversion := sound.sameConversion
  sameOrigin := sound.sameOrigin
  standing := sound.standing.congr rfl rfl rfl (settle_snd_of_none _) (settle_snd_of_none _)
  link := sound.link

@[simp] theorem Handling.settle_nil (handling : Handling) :
    handling.settle [] [] [] = handling := by
  simp [Handling.settle]

@[simp] theorem Handling.engage_nil (handling : Handling) : handling.engage [] [] = handling := by
  simp [Handling.engage]

theorem modifyHead_engage_nil (handlings : List Handling) :
    handlings.modifyHead (·.engage [] []) = handlings := by
  cases handlings with
  | nil => rfl
  | cons handling past => rw [List.modifyHead_cons, Handling.engage_nil]

/-! ### Collecting an acknowledge -/

theorem absorb_eq {bridge : Inbound} {access : Access} {transfer : Transfer}
    (inflight : bridge.inflight = some access) (active : bridge.active = some transfer)
    (answer : Response) :
    bridge.absorb answer =
      let next : Transfer := { transfer with
        beatStatus :=
          if answer.error then transfer.beatStatus.merge .slaveError else transfer.beatStatus
        data := if transfer.write then transfer.data else access.gather answer.data transfer.data }
      if transfer.pending.isEmpty then { bridge with inflight := none }.finishBeat next
      else { bridge with inflight := none, active := some next } := by
  unfold absorb
  rw [inflight, active]

/-- An acknowledge changes nothing but the burst under way, the access in flight and what is owed.
-/
theorem absorb_changes (bridge : Inbound) (answer : Response) :
    ∃ active inflight owedWrite owedRead,
      bridge.absorb answer = { bridge with active, inflight, owedWrite, owedRead } := by
  unfold absorb finishBeat
  split
  · dsimp only
    split
    · split <;> exact ⟨_, _, _, _, rfl⟩
    · exact ⟨_, _, _, _, rfl⟩
  · exact ⟨_, _, _, _, rfl⟩

theorem absorb_conversion (bridge : Inbound) (answer : Response) :
    (bridge.absorb answer).conversion = bridge.conversion := by
  obtain ⟨_, _, _, _, changes⟩ := bridge.absorb_changes answer
  rw [changes]

theorem absorb_origin (bridge : Inbound) (answer : Response) :
    (bridge.absorb answer).origin = bridge.origin := by
  obtain ⟨_, _, _, _, changes⟩ := bridge.absorb_changes answer
  rw [changes]

section

variable {bridge : Inbound} {handling : Handling} {transfer : Transfer} {access : Access}

/-- The read beats handed on so far are not changed by a later acknowledge. -/
theorem Underway.readBeats_settle
    (underway : Underway conversion origin bridge handling transfer) (answers : List Response)
    (reads : List ReadBeat) (writes : List WriteResponse)
    (whole : (handling.requestsBefore conversion origin transfer.beat).length ≤
      handling.answers.length) :
    handling.readBeats = if handling.write then [] else (List.range transfer.beat).map
      ((handling.settle answers reads writes).readBeat conversion origin) := by
  have same : (List.range transfer.beat).map (handling.readBeat conversion origin) =
      (List.range transfer.beat).map
        ((handling.settle answers reads writes).readBeat conversion origin) := by
    apply List.map_congr_left
    intro beat mem
    have before := (handling.requestsBefore_prefix conversion origin
      (Nat.succ_le_of_lt (List.mem_range.mp mem))).length_le
    exact (handling.readBeat_settle answers reads writes (Nat.le_trans before whole)).symm
  rw [underway.readBeats, same]

theorem Underway.readBeats_concat
    (underway : Underway conversion origin bridge handling transfer)
    (read : handling.write = false) (answers : List Response) (reads : List ReadBeat)
    (writes : List WriteResponse)
    (whole : (handling.requestsBefore conversion origin transfer.beat).length ≤
      handling.answers.length) {beat : ReadBeat}
    (handed : (handling.settle answers reads writes).readBeat conversion origin transfer.beat =
      beat) :
    handling.readBeats ++ [beat] = (List.range (transfer.beat + 1)).map
      ((handling.settle answers reads writes).readBeat conversion origin) := by
  have earlier := underway.readBeats_settle answers reads writes whole
  rw [read, if_neg Bool.false_ne_true] at earlier
  rw [List.range_succ, List.map_append, List.map_singleton, handed, ← earlier]

theorem Handling.faithful_of_written (write : handling.write = true)
    (issued : handling.issued = handling.reference conversion origin)
    (answers : handling.answers.length = handling.issued.length)
    (consumed : handling.consumed.length = handling.burst.beats)
    (readBeats : handling.readBeats = [])
    (writeResponses : handling.writeResponses = [handling.writeResponse]) :
    handling.Faithful conversion origin where
  issued := ⟨[], by rw [List.append_nil, issued]⟩
  consumed := Nat.le_of_eq consumed
  readBeats := by rw [readBeats]; rfl
  reads := by rw [readBeats]; exact Nat.zero_le _
  writeResponses := .inr ⟨write, writeResponses⟩
  complete := fun _ => ⟨issued, answers, fun _ => consumed⟩

theorem Handling.faithful_of_read (read : handling.write = false)
    (issued : handling.issued = handling.reference conversion origin)
    (answers : handling.answers.length = handling.issued.length)
    (consumed : handling.consumed = [])
    (readBeats : handling.readBeats =
      (List.range handling.burst.beats).map (handling.readBeat conversion origin))
    (writeResponses : handling.writeResponses = []) :
    handling.Faithful conversion origin where
  issued := ⟨[], by rw [List.append_nil, issued]⟩
  consumed := by rw [consumed]; exact Nat.zero_le _
  readBeats := by
    have length := congrArg List.length readBeats
    rw [List.length_map, List.length_range] at length
    rw [length]
    exact readBeats
  reads := by
    rw [readBeats, read, List.length_map, List.length_range]
    exact Nat.le_refl _
  writeResponses := .inl writeResponses
  complete := fun _ => ⟨issued, answers, fun write => by rw [read] at write; cases write⟩

theorem finishBeat_inflight (bridge : Inbound) (transfer : Transfer) :
    (bridge.finishBeat transfer).inflight = bridge.inflight := by
  unfold finishBeat
  dsimp only
  split <;> rfl

section

variable {past : List Handling} {answer : Response} {beatStatus : Status} {data : Data}
  {passed : List Access} {earlier replies : List Response} {entered : Inbound}
  (underway : Underway conversion origin bridge handling transfer)
  (fits : (Span.of conversion origin handling.burst transfer.beat).Fits)
  (faithful : ∀ handling ∈ past, handling.Faithful conversion origin)
  (done : { transfer with beatStatus, data }.pending = [])
  (next : ∀ reads writes, Within conversion origin (handling.settle [answer] reads writes)
    { transfer with beatStatus, data } none passed earlier replies)
  (enters : entered =
    { bridge with inflight := none }.finishBeat { transfer with beatStatus, data })

include underway fits faithful done next enters

/-- When the last access of a data beat of a write is answered, the bridge goes on to the next beat,
or the burst is complete. -/
theorem Underway.finishBeat_write (owedRead : bridge.owedRead = none)
    (write : handling.write = true) :
    Standing conversion origin entered
      (handling.settle [answer] entered.owedRead.toList entered.owedWrite.toList :: past) := by
  have issued := fun reads writes => (next reads writes).issued_of_done fits done
  have unfinished := underway.unfinished
  unfold Inbound.finishBeat at enters
  dsimp only at enters
  have consumed := fun reads writes => (next reads writes).consumed write
  rw [underway.write, write, if_pos rfl] at enters
  by_cases final : transfer.beat + 1 = transfer.burst.beats
  · -- the whole write is answered
    simp only [final, decide_true, if_true] at enters
    subst enters
    rw [underway.burst] at final
    refine .resting rfl rfl fun other mem => ?_
    rcases List.mem_cons.mp mem with rfl | mem
    · obtain ⟨_, requests, counted⟩ := issued bridge.owedRead.toList _
      refine Handling.faithful_of_written write ?_ counted ?_ ?_ ?_
      · rw [requests, final]
        rfl
      · rw [consumed, final]
        rfl
      · show handling.readBeats ++ bridge.owedRead.toList = []
        rw [underway.readBeats, write, owedRead]
        rfl
      · show handling.writeResponses ++ [_] = [Handling.writeResponse _]
        rw [underway.writeResponses, List.nil_append]
        unfold Handling.writeResponse
        rw [(next bridge.owedRead.toList _).statusOf_answers, underway.burst]
        rfl
    · exact faithful other mem
  · simp only [final, decide_false, Bool.false_eq_true, if_false] at enters
    subst enters
    rw [underway.burst] at final
    obtain ⟨_, requests, counted⟩ := issued bridge.owedRead.toList bridge.owedWrite.toList
    refine .working _ ⟨underway.running, rfl, underway.burst, write.symm, underway.size, ?_,
      underway.owedWrite, fun _ => owedRead, ?_, ?_, ?_,
      .inl ⟨rfl, done, rfl, rfl, ?_, ?_, requests, counted⟩⟩
      faithful
    · show transfer.beat + 1 < handling.burst.beats
      omega
    · show handling.writeResponses ++ bridge.owedWrite.toList = []
      rw [underway.writeResponses, underway.owedWrite]
      rfl
    · intro read
      rw [show (handling.settle _ _ _).write = handling.write from rfl, write] at read
      cases read
    · show handling.readBeats ++ bridge.owedRead.toList = if handling.write then [] else _
      rw [underway.readBeats, write, owedRead]
      rfl
    · exact (next _ _).statusOf_answers.symm
    · exact fun _ => consumed _ _

/-- When the last access of a data beat of a read is answered, the beat is handed on. -/
theorem Underway.finishBeat_read (write : handling.write = false)
    (whole : (handling.requestsBefore conversion origin transfer.beat).length ≤
      handling.answers.length) :
    Standing conversion origin entered
      (handling.settle [answer] entered.owedRead.toList entered.owedWrite.toList :: past) := by
  have issued := fun reads writes => (next reads writes).issued_of_done fits done
  have unfinished := underway.unfinished
  unfold Inbound.finishBeat at enters
  dsimp only at enters
  have beat := fun reads writes => (next reads writes).readBeat_eq fits write done
  rw [underway.write, write, if_neg Bool.false_ne_true] at enters
  by_cases final : transfer.beat + 1 = transfer.burst.beats
  · -- the whole read is answered
    simp only [final, decide_true, if_true] at enters
    subst enters
    rw [underway.burst] at final
    refine .resting rfl rfl fun other mem => ?_
    rcases List.mem_cons.mp mem with rfl | mem
    · obtain ⟨_, requests, counted⟩ := issued _ bridge.owedWrite.toList
      refine Handling.faithful_of_read write ?_ counted (underway.consumed write) ?_ ?_
      · rw [requests, final]
        rfl
      · show handling.readBeats ++ [_] = List.map _ (List.range handling.burst.beats)
        rw [← final]
        apply underway.readBeats_concat write _ _ _ whole
        rw [beat, underway.burst]
        simp [Handling.settle, final]
      · show handling.writeResponses ++ bridge.owedWrite.toList = []
        rw [underway.writeResponses, underway.owedWrite]
        rfl
    · exact faithful other mem
  · simp only [final, decide_false, Bool.false_eq_true, if_false] at enters
    subst enters
    rw [underway.burst] at final
    obtain ⟨_, requests, counted⟩ := issued
      [⟨transfer.burst.id, data, beatStatus, false⟩] bridge.owedWrite.toList
    refine .working _ ⟨underway.running, rfl, underway.burst, write.symm, underway.size, ?_,
      underway.owedWrite, ?_, ?_, underway.consumed, ?_,
      .inl ⟨rfl, done, rfl, rfl, ?_, ?_, requests, counted⟩⟩ faithful
    · show transfer.beat + 1 < handling.burst.beats
      omega
    · intro written
      rw [show (handling.settle _ _ _).write = handling.write from rfl, write] at written
      cases written
    · show handling.writeResponses ++ bridge.owedWrite.toList = []
      rw [underway.writeResponses, underway.owedWrite]
      rfl
    · show handling.readBeats ++ [_] = if handling.write then [] else _
      rw [write, if_neg Bool.false_ne_true]
      apply underway.readBeats_concat write _ _ _ whole
      rw [beat, underway.burst]
      simp [Handling.settle, final]
    · exact (next _ _).statusOf_answers.symm
    · intro written
      rw [show (handling.settle _ _ _).write = handling.write from rfl, write] at written
      cases written

end

/-- An acknowledge passes the access in flight, and may make a response due. -/
theorem Underway.absorb (regular : conversion.IsRegular)
    (inward : conversion.direction = .splitToSimple)
    (underway : Underway conversion origin bridge handling transfer) {past : List Handling}
    (faithful : ∀ handling ∈ past, handling.Faithful conversion origin)
    (inflight : bridge.inflight = some access) (answer : Response) :
    bridge.owedRead = none ∧ bridge.owedWrite = none ∧
      (bridge.absorb answer).inflight = none ∧
      Standing conversion origin (bridge.absorb answer)
        (handling.settle [answer] (bridge.absorb answer).owedRead.toList
          (bridge.absorb answer).owedWrite.toList :: past) := by
  have fits := Span.of_fits regular inward origin underway.size transfer.beat
  obtain ⟨owedRead, passed, earlier, replies, within⟩ : bridge.owedRead = none ∧
      ∃ passed earlier replies,
        Within conversion origin handling transfer (some access) passed earlier replies := by
    rcases underway.place with boundary | ⟨owed, _, passed, earlier, replies, within⟩
    · rw [boundary.inflight] at inflight
      cases inflight
    · rw [inflight] at within
      exact ⟨owed, passed, earlier, replies, within⟩
  refine ⟨owedRead, underway.owedWrite, ?_⟩
  have whole : (handling.requestsBefore conversion origin transfer.beat).length ≤
      handling.answers.length := by
    rw [within.answers, ← within.earlierLength, List.length_append]
    exact Nat.le_add_right _ _
  have gathers : handling.write = false →
      (if transfer.write then transfer.data else access.gather answer.data transfer.data) =
        access.gather answer.data transfer.data := by
    intro read
    rw [underway.write, read]
    rfl
  rw [absorb_eq inflight underway.active]
  dsimp only
  generalize payload : (if transfer.write then transfer.data else
    access.gather answer.data transfer.data) = data at gathers
  generalize merged : (if answer.error then transfer.beatStatus.merge .slaveError
    else transfer.beatStatus) = beatStatus
  have next : ∀ reads writes, Within conversion origin (handling.settle [answer] reads writes)
      { transfer with beatStatus, data } none (passed ++ [access]) earlier
        (replies ++ [answer]) := by
    intro reads writes
    rw [← merged]
    exact within.settle answer reads writes gathers
  by_cases pending : transfer.pending = []
  · -- the last access of the beat
    have done : { transfer with beatStatus, data }.pending = [] := pending
    rw [if_pos (by rw [pending]; rfl)]
    refine ⟨finishBeat_inflight _ _, ?_⟩
    cases write : handling.write with
    | true => exact underway.finishBeat_write fits faithful done next rfl owedRead write
    | false => exact underway.finishBeat_read fits faithful done next rfl write whole
  · rw [if_neg (by simpa using pending)]
    refine ⟨rfl, .working { transfer with beatStatus, data }
      ⟨underway.running, rfl, underway.burst, underway.write, underway.size, underway.unfinished,
        underway.owedWrite, underway.owedRead, ?_, underway.consumed, ?_,
        .inr ⟨owedRead, by simpa using pending, ?_⟩⟩
      faithful⟩
    · simp [Handling.settle, underway.writeResponses, underway.owedWrite]
    · show handling.readBeats ++ bridge.owedRead.toList = _
      rw [owedRead, Option.toList_none, List.append_nil]
      exact underway.readBeats_settle _ _ _ whole
    · exact ⟨_, _, _, next _ _⟩

end

section

variable {junction : Junction} {handlings : List Handling}

namespace Junction

/-- The junction when the bridge has entered an acknowledge, before it drives anything. -/
def absorbed (junction : Junction) (answer : Response) : Junction :=
  { junction with bridge := junction.bridge.absorb answer, simple := .idle }

theorem collect_of_none (waits : junction.simple.response? = none) :
    junction.collect = junction := by
  unfold collect
  rw [waits]

theorem collect_of_some {answer : Response} (answered : junction.simple.response? = some answer) :
    junction.collect = (junction.absorbed answer).flush := by
  have lowered : junction.simple.completed = .idle := by
    cases simple : junction.simple with
    | idle | answered _ _ => rfl
    | waiting request => rw [simple] at answered; cases answered
  unfold collect
  rw [answered, lowered]
  rfl

theorem reads_absorbed (owedRead : junction.bridge.owedRead = none) (answer : Response) :
    (junction.absorbed answer).reads =
      junction.reads ++ (junction.bridge.absorb answer).owedRead.toList := by
  unfold reads
  rw [owedRead, Option.toList_none, List.append_nil]
  rfl

theorem writes_absorbed (owedWrite : junction.bridge.owedWrite = none) (answer : Response) :
    (junction.absorbed answer).writes =
      junction.writes ++ (junction.bridge.absorb answer).owedWrite.toList := by
  unfold writes
  rw [owedWrite, Option.toList_none, List.append_nil]
  rfl

end Junction

/-- An acknowledge is for an access of the burst under way. -/
theorem Sound.exists_underway (sound : Sound conversion origin junction handlings)
    {answer : Response} (answered : junction.simple.response? = some answer) :
    ∃ handling past transfer access, handlings = handling :: past ∧
      Underway conversion origin junction.bridge handling transfer ∧
      junction.bridge.inflight = some access ∧
      ∀ handling ∈ past, handling.Faithful conversion origin := by
  have link := sound.link
  obtain ⟨access, inflight⟩ : ∃ access, junction.bridge.inflight = some access := by
    cases simple : junction.simple with
    | idle | waiting _ => rw [simple] at answered; cases answered
    | answered request response =>
      rw [simple] at link
      exact (Option.map_eq_some_iff.mp link.symm).imp fun _ both => both.1
  cases sound.standing with
  | resting _ empty _ => rw [empty] at inflight; cases inflight
  | working transfer underway faithful =>
    exact ⟨_, _, transfer, access, rfl, underway, inflight, faithful⟩

/-- Collecting an acknowledge settles it with the burst under way. -/
theorem Sound.collect (regular : conversion.IsRegular)
    (inward : conversion.direction = .splitToSimple)
    (sound : Sound conversion origin junction handlings) :
    ∃ reads writes, junction.collect.reads = junction.reads ++ reads ∧
      junction.collect.writes = junction.writes ++ writes ∧
      (handlings = [] → reads = [] ∧ writes = []) ∧
      Sound conversion origin junction.collect
        (handlings.modifyHead (·.settle junction.simple.response?.toList reads writes)) := by
  cases answered : junction.simple.response? with
  | none =>
    rw [Junction.collect_of_none answered]
    refine ⟨[], [], (List.append_nil _).symm, (List.append_nil _).symm, fun _ => ⟨rfl, rfl⟩, ?_⟩
    cases handlings <;> simpa using sound
  | some answer =>
    obtain ⟨handling, past, transfer, access, rfl, underway, inflight, faithful⟩ :=
      sound.exists_underway answered
    obtain ⟨owedRead, owedWrite, clear, standing⟩ :=
      underway.absorb regular inward faithful inflight answer
    rw [Junction.collect_of_some answered, Junction.reads_flush, Junction.writes_flush]
    refine ⟨(junction.bridge.absorb answer).owedRead.toList,
      (junction.bridge.absorb answer).owedWrite.toList, Junction.reads_absorbed owedRead answer,
      Junction.writes_absorbed owedWrite answer, nofun, ?_⟩
    apply Sound.flush
    exact
      { sameConversion := (absorb_conversion _ _).trans sound.sameConversion
        sameOrigin := (absorb_origin _ _).trans sound.sameOrigin
        standing
        link := congrArg (Option.map _) clear.symm }

/-- What driving owed responses and collecting an acknowledge leave alone. -/
structure Junction.Collects (before after : Junction) : Prop where
  writeAddress : after.split.writeAddress = before.split.writeAddress
  readAddress : after.split.readAddress = before.split.readAddress
  writeData : after.split.writeData = before.split.writeData
  awaiting : after.simple.awaiting? = before.simple.awaiting?
  halted : after.bridge.isHalted = before.bridge.isHalted

theorem absorb_isHalted (bridge : Inbound) (answer : Response) :
    (bridge.absorb answer).isHalted = bridge.isHalted := by
  obtain ⟨_, _, _, _, changes⟩ := bridge.absorb_changes answer
  rw [changes]

theorem Junction.collect_collects (junction : Junction) :
    Junction.Collects junction junction.collect := by
  unfold Junction.collect
  cases simple : junction.simple with
  | idle => exact ⟨rfl, rfl, rfl, rfl, rfl⟩
  | waiting request => exact ⟨rfl, rfl, rfl, rfl, rfl⟩
  | answered request response =>
    exact ⟨rfl, rfl, rfl, by rw [simple]; rfl, absorb_isHalted _ _⟩

/-! ### Taking an address -/

theorem size_of_violation? {bridge : Inbound} {burst : AddressBeat}
    (legal : bridge.violation? burst = none) :
    burst.size.toNat ≤ bridge.conversion.splitBytes.log2 := by
  unfold violation? at legal
  dsimp only at legal
  split at legal
  · cases legal
  · split at legal
    · cases legal
    · rename_i narrow
      exact Nat.le_of_not_gt narrow

theorem Handling.faithful_fresh (burst : AddressBeat) (write : Bool) :
    Handling.Faithful conversion origin { burst, write } where
  issued := List.nil_prefix
  consumed := Nat.zero_le _
  readBeats := rfl
  reads := Nat.zero_le _
  writeResponses := .inl rfl
  complete := by
    intro answered
    unfold Handling.IsAnswered at answered
    split at answered
    · exact absurd rfl answered
    · exact absurd answered (Nat.succ_ne_zero _).symm

theorem Handling.boundary_fresh (burst : AddressBeat) (write : Bool) :
    Boundary conversion origin { burst, write } { burst, write } none :=
  ⟨rfl, rfl, rfl, rfl, rfl, fun _ => rfl, rfl, rfl⟩

theorem Junction.accepted?_eq_none {before after : Junction}
    (write : after.split.writeAddress = before.split.writeAddress)
    (read : after.split.readAddress = before.split.readAddress) :
    Junction.accepted? before after = none := by
  unfold Junction.accepted? Split.Channel.isReady Split.Channel.isValid
  rw [write, read]
  cases before.split.writeAddress.beat <;> cases before.split.readAddress.beat <;> simp

theorem Junction.accepted?_write {before after : Junction} {burst : AddressBeat}
    (waiting : before.split.writeAddress.beat = some burst)
    (taken : after.split.writeAddress.beat = none) :
    Junction.accepted? before after = some { burst, write := true } := by
  unfold Junction.accepted? Split.Channel.isReady Split.Channel.isValid
  rw [waiting, taken]
  rfl

theorem Junction.accepted?_read {before after : Junction} {burst : AddressBeat}
    (write : after.split.writeAddress = before.split.writeAddress)
    (waiting : before.split.readAddress.beat = some burst)
    (taken : after.split.readAddress.beat = none) :
    Junction.accepted? before after = some { burst, write := false } := by
  unfold Junction.accepted? Split.Channel.isReady Split.Channel.isValid
  rw [waiting, taken, write]
  cases before.split.writeAddress.beat <;> rfl

/-- Nothing is done yet for an address that was just taken. -/
theorem Junction.accepted?_eq_some {before after : Junction} {handling : Handling}
    (accepted : Junction.accepted? before after = some handling) :
    ∃ burst write, handling = { burst, write } := by
  unfold Junction.accepted? at accepted
  split at accepted
  · obtain ⟨burst, _, rfl⟩ := Option.map_eq_some_iff.mp accepted
    exact ⟨burst, true, rfl⟩
  · split at accepted
    · obtain ⟨burst, _, rfl⟩ := Option.map_eq_some_iff.mp accepted
      exact ⟨burst, false, rfl⟩
    · cases accepted

def begun (bridge : Inbound) (burst : AddressBeat) (write preferRead : Bool) : Inbound :=
  match bridge.violation? burst with
  | some _ => { bridge with preferRead, isHalted := true, active := none }
  | none => { bridge with preferRead, active := some { burst, write } }

namespace Junction

def waiting? (junction : Junction) (write : Bool) : Option AddressBeat :=
  if write then junction.split.writeAddress.beat else junction.split.readAddress.beat

/-- Whose turn it is, if an address waits: the kind that was not taken last goes first. -/
def turn? (junction : Junction) : Option (Bool × AddressBeat) :=
  match junction.waiting? true, junction.waiting? false with
  | none, none => none
  | some written, none => some (true, written)
  | none, some read => some (false, read)
  | some written, some read =>
    if junction.bridge.preferRead then some (false, read) else some (true, written)

theorem turn?_eq (junction : Junction) :
    junction.turn? =
      if (if junction.split.writeAddress.isValid && junction.split.readAddress.isValid then
          junction.bridge.preferRead else junction.split.readAddress.isValid) then
        junction.split.readAddress.beat.map (false, ·)
      else junction.split.writeAddress.beat.map (true, ·) := by
  unfold turn? waiting? Split.Channel.isValid
  cases junction.split.writeAddress.beat <;> cases junction.split.readAddress.beat <;>
    cases junction.bridge.preferRead <;> rfl

theorem waiting?_of_turn {junction : Junction} {write : Bool} {burst : AddressBeat}
    (turn : junction.turn? = some (write, burst)) : junction.waiting? write = some burst := by
  unfold turn? at turn
  split at turn
  · cases turn
  · rename_i waits _
    cases turn
    exact waits
  · rename_i waits
    cases turn
    exact waits
  · rename_i waits waits'
    split at turn
    · cases turn
      exact waits'
    · cases turn
      exact waits

/-- The bridge takes the address whose turn it is, and remembers its kind. -/
theorem acceptAddress_eq (junction : Junction) :
    junction.acceptAddress.1 = match junction.turn? with
      | none => junction
      | some (true, burst) =>
        { junction with
          bridge := junction.bridge.begun burst true true
          split := { junction.split with writeAddress := junction.split.writeAddress.clear } }
      | some (false, burst) =>
        { junction with
          bridge := junction.bridge.begun burst false false
          split := { junction.split with readAddress := junction.split.readAddress.clear } } := by
  have same : ∀ preferRead burst, { junction.bridge with preferRead }.violation? burst =
    junction.bridge.violation? burst := fun _ _ => rfl
  rw [turn?_eq]
  unfold acceptAddress
  dsimp only
  generalize (if junction.split.writeAddress.isValid && junction.split.readAddress.isValid then
    junction.bridge.preferRead else junction.split.readAddress.isValid) = takesRead
  cases takesRead with
  | true =>
    simp only [if_true]
    cases waiting : junction.split.readAddress.beat with
    | none => rfl
    | some burst =>
      simp only [Option.map_some, begun, same]
      cases junction.bridge.violation? burst <;> rfl
  | false =>
    simp only [Bool.false_eq_true, if_false]
    cases waiting : junction.split.writeAddress.beat with
    | none => rfl
    | some burst =>
      simp only [Option.map_some, begun, same]
      cases junction.bridge.violation? burst <;> rfl

theorem acceptAddress_cases (junction : Junction) :
    junction.acceptAddress.1 = junction ∨
      (∃ burst, junction.split.writeAddress.beat = some burst ∧
        junction.acceptAddress.1 =
          { junction with
            bridge := junction.bridge.begun burst true true
            split := { junction.split with writeAddress := junction.split.writeAddress.clear } }) ∨
      ∃ burst, junction.split.readAddress.beat = some burst ∧
        junction.acceptAddress.1 =
          { junction with
            bridge := junction.bridge.begun burst false false
            split := { junction.split with readAddress := junction.split.readAddress.clear } } := by
  have accepts := junction.acceptAddress_eq
  cases turn : junction.turn? with
  | none =>
    rw [turn] at accepts
    exact .inl accepts
  | some next =>
    obtain ⟨write, burst⟩ := next
    have waits := waiting?_of_turn turn
    rw [turn] at accepts
    cases write with
    | true => exact .inr (.inl ⟨burst, waits, accepts⟩)
    | false => exact .inr (.inr ⟨burst, waits, accepts⟩)

end Junction

/-- The bridge takes up a burst, or gives up at a malformed one. -/
theorem Sound.begun (sound : Sound conversion origin junction handlings)
    (running : junction.bridge.isHalted = false) (idle : junction.bridge.active = none)
    (owedWrite : junction.bridge.owedWrite = none) (owedRead : junction.bridge.owedRead = none)
    (burst : AddressBeat) (write preferRead : Bool)
    (split : Split.Link) :
    Sound conversion origin
      { junction with bridge := junction.bridge.begun burst write preferRead, split }
      ({ burst, write } :: handlings) := by
  have link := sound.link
  cases sound.standing with
  | working transfer underway _ => rw [underway.active] at idle; cases idle
  | resting _ empty faithful =>
    unfold Inbound.begun
    cases legal : junction.bridge.violation? burst with
    | some kind =>
      refine ⟨sound.sameConversion, sound.sameOrigin, .resting rfl empty ?_, link⟩
      intro handling mem
      rcases List.mem_cons.mp mem with rfl | mem
      · exact Handling.faithful_fresh burst write
      · exact faithful handling mem
    | none =>
      have size := size_of_violation? legal
      rw [sound.sameConversion] at size
      refine ⟨sound.sameConversion, sound.sameOrigin, .working _ ⟨running, rfl, rfl, rfl, size,
        Nat.succ_pos _, owedWrite, fun _ => owedRead, rfl, fun _ => rfl, ?_, .inl ?_⟩ faithful,
        link⟩
      · cases write <;> rfl
      · show Boundary conversion origin _ _ junction.bridge.inflight
        rw [empty]
        exact Handling.boundary_fresh burst write

theorem Sound.acceptAddress (sound : Sound conversion origin junction handlings)
    (running : junction.bridge.isHalted = false) (idle : junction.bridge.active = none)
    (owedWrite : junction.bridge.owedWrite = none)
    (owedRead : junction.bridge.owedRead = none) :
    Sound conversion origin junction.acceptAddress.1
      ((Junction.accepted? junction junction.acceptAddress.1).toList ++ handlings) := by
  rcases junction.acceptAddress_cases with same | ⟨burst, waiting, taken⟩ | ⟨burst, waiting, taken⟩
  · rw [same, Junction.accepted?_eq_none rfl rfl]
    exact sound
  · rw [taken, Junction.accepted?_write waiting rfl]
    exact sound.begun running idle owedWrite owedRead burst true true _
  · have seen : Junction.accepted? junction junction.acceptAddress.1 =
        some { burst, write := false } := by
      refine Junction.accepted?_read ?_ waiting ?_ <;> rw [taken]
      rfl
    rw [seen, taken]
    exact sound.begun running idle owedWrite owedRead burst false false _

/-- What taking an address leaves alone. -/
structure Junction.Accepts (before after : Junction) : Prop where
  writeData : after.split.writeData = before.split.writeData
  simple : after.simple = before.simple
  reads : after.reads = before.reads
  writes : after.writes = before.writes

theorem begun_reads (junction : Junction) (burst : AddressBeat) (write preferRead : Bool) :
    (junction.bridge.begun burst write preferRead).owedRead = junction.bridge.owedRead ∧
      (junction.bridge.begun burst write preferRead).owedWrite = junction.bridge.owedWrite := by
  unfold Inbound.begun
  split <;> exact ⟨rfl, rfl⟩

theorem Junction.acceptAddress_accepts (junction : Junction) :
    Junction.Accepts junction junction.acceptAddress.1 := by
  rcases junction.acceptAddress_cases with same | ⟨burst, _, taken⟩ | ⟨burst, _, taken⟩
  · rw [same]
    exact ⟨rfl, rfl, rfl, rfl⟩
  all_goals
    rw [taken]
    refine ⟨rfl, rfl, ?_, ?_⟩
    · unfold Junction.reads
      rw [(begun_reads junction burst _ _).1]
    · unfold Junction.writes
      rw [(begun_reads junction burst _ _).2]

/-! ### Going on with a burst -/

/-- Either nothing is planned, or a write takes its data beat, or a read goes on. -/
theorem Junction.prepare_cases {after : Junction} (prepared : junction.prepare = .ok after) :
    after = junction ∨
      ∃ transfer, junction.bridge.active = some transfer ∧ transfer.pending = [] ∧
        ((∃ data, transfer.write = true ∧ junction.split.writeData.beat = some data ∧
          after =
            { junction with
              bridge := { junction.bridge with
                active := some { transfer with
                  pending := (junction.bridge.planBeat transfer.burst transfer.beat).map
                    (·.write data) } }
              split := { junction.split with writeData := junction.split.writeData.clear } }) ∨
        transfer.write = false ∧ junction.bridge.owedRead = none ∧
          after =
            { junction with
              bridge := { junction.bridge with
                active := some { transfer with pending := junction.bridge.nextRead transfer } } }) := by
  unfold Junction.prepare at prepared
  cases active : junction.bridge.active with
  | none =>
    simp only [active, Except.ok.injEq] at prepared
    exact .inl prepared.symm
  | some transfer =>
    simp only [active] at prepared
    by_cases pending : transfer.pending = []
    · rw [if_neg (by simp [pending])] at prepared
      cases write : transfer.write with
      | true =>
        rw [if_pos write] at prepared
        cases waiting : junction.split.writeData.beat with
        | none =>
          simp only [waiting, Except.ok.injEq] at prepared
          exact .inl prepared.symm
        | some data =>
          simp only [waiting] at prepared
          refine .inr ⟨transfer, rfl, pending, .inl ⟨data, write, rfl, ?_⟩⟩
          unfold nextWrite at prepared
          dsimp only at prepared
          split at prepared
          · cases prepared
          · split at prepared
            · cases prepared
            · simp only [Except.map, Except.ok.injEq] at prepared
              exact prepared.symm
      | false =>
        rw [if_neg (by simp [write])] at prepared
        cases owed : junction.bridge.owedRead with
        | some beat =>
          rw [if_pos (by simp [owed])] at prepared
          exact .inl (Except.ok.inj prepared).symm
        | none =>
          rw [if_neg (by simp [owed])] at prepared
          exact .inr ⟨transfer, rfl, pending, .inr ⟨write, rfl, (Except.ok.inj prepared).symm⟩⟩
    · rw [if_pos (by simpa using pending)] at prepared
      exact .inl (Except.ok.inj prepared).symm

/-- Either nothing is raised, or the first pending access is. -/
theorem Junction.issue_cases (junction : Junction) :
    junction.issue = junction ∨
      ∃ transfer access pending, junction.bridge.active = some transfer ∧
        transfer.pending = access :: pending ∧ junction.simple = .idle ∧
        junction.issue =
          { junction with
            bridge := { junction.bridge with
              active := some { transfer with pending }, inflight := some access }
            simple := .waiting access.request } := by
  unfold Junction.issue
  cases active : junction.bridge.active with
  | none => exact .inl rfl
  | some transfer =>
    dsimp only
    cases left : transfer.pending with
    | nil => exact .inl rfl
    | cons access pending =>
      cases simple : junction.simple with
      | idle => exact .inr ⟨transfer, access, pending, rfl, left, rfl, rfl⟩
      | waiting request => exact .inl rfl
      | answered request response => exact .inl rfl

theorem Junction.issue_split (junction : Junction) : junction.issue.split = junction.split := by
  rcases junction.issue_cases with same | ⟨_, _, _, _, _, _, raised⟩
  · rw [same]
  · rw [raised]

/-- A data beat that is planned and of which nothing was raised yet. -/
theorem Boundary.within {handling : Handling} {transfer : Transfer} {inflight : Option Access}
    (boundary : Boundary conversion origin handling transfer inflight) {consumed : List WriteBeat}
    {pending : List Access}
    (taken : handling.write = true → consumed.length = 1)
    (plan : pending =
      (handling.engage consumed []).accessesOf conversion origin transfer.beat) :
    Within conversion origin (handling.engage consumed []) { transfer with pending } inflight []
      handling.answers [] := by
  have before : (handling.engage consumed []).requestsBefore conversion origin transfer.beat =
      handling.requestsBefore conversion origin transfer.beat :=
    handling.requestsBefore_engage _ _ fun write => Nat.le_of_eq (boundary.consumed write).symm
  rw [boundary.inflight]
  refine ⟨plan, ?_, ?_, ?_, ?_, rfl, fun _ => boundary.data, boundary.beatStatus,
    boundary.burstStatus⟩
  · intro write
    show (handling.consumed ++ consumed).length = _
    rw [List.length_append, boundary.consumed write, taken write]
  · show handling.issued ++ [] = _
    rw [boundary.issued, before]
    rfl
  · exact (List.append_nil _).symm
  · rw [boundary.answers, boundary.issued, before]

theorem Junction.consumed?_eq_none {before after : Junction}
    (same : after.split.writeData = before.split.writeData) :
    Junction.consumed? before after = none := by
  unfold Junction.consumed? Split.Channel.isReady
  rw [same]
  cases before.split.writeData.beat <;> rfl

theorem Junction.consumed?_self (junction : Junction) :
    Junction.consumed? junction junction = none :=
  Junction.consumed?_eq_none rfl

theorem Underway.planned {bridge : Inbound} {handling : Handling} {transfer : Transfer}
    {consumed : List WriteBeat} {pending : List Access}
    (underway : Underway conversion origin bridge handling transfer)
    (boundary : Boundary conversion origin handling transfer bridge.inflight)
    (owedRead : bridge.owedRead = none)
    (taken : consumed.length = if handling.write then 1 else 0)
    (plan : pending = (handling.engage consumed []).accessesOf conversion origin transfer.beat)
    (some_ : pending ≠ []) :
    Underway conversion origin { bridge with active := some { transfer with pending } }
      (handling.engage consumed []) { transfer with pending } := by
  have untaken : handling.write = false → consumed = [] := by
    intro read
    rw [read, if_neg Bool.false_ne_true] at taken
    exact List.length_eq_zero_iff.mp taken
  refine ⟨underway.running, rfl, underway.burst, underway.write, underway.size,
    underway.unfinished, underway.owedWrite, fun _ => owedRead, underway.writeResponses, ?_, ?_,
    .inr ⟨owedRead, ?_, [], handling.answers, [], boundary.within (fun write => ?_) plan⟩⟩
  · intro read
    show handling.consumed ++ consumed = []
    rw [underway.consumed read, untaken read]
    rfl
  · have readBeats := underway.readBeats
    cases write : handling.write with
    | true =>
      rw [write] at readBeats
      rw [show (handling.engage _ _).write = handling.write from rfl, write, if_pos rfl]
      exact readBeats
    | false =>
      rw [untaken write, Handling.engage_nil]
      exact readBeats
  · rw [boundary.inflight]
    exact some_
  · rw [taken, if_pos write]

theorem Sound.prepare (regular : conversion.IsRegular)
    (inward : conversion.direction = .splitToSimple)
    (sound : Sound conversion origin junction handlings)
    (inflight : junction.bridge.inflight = none) {after : Junction}
    (prepared : junction.prepare = .ok after) :
    Sound conversion origin after (handlings.modifyHead
      (·.engage (Junction.consumed? junction after).toList [])) := by
  rcases Junction.prepare_cases prepared with rfl | ⟨transfer, active, empty, kinds⟩
  · rw [Junction.consumed?_self]
    cases handlings <;> simpa using sound
  · have link := sound.link
    obtain ⟨handling, past, rfl, underway, faithful⟩ := sound.standing.exists_underway active
    have fits := Span.of_fits regular inward origin underway.size transfer.beat
    have planned := planBeat_eq sound.sameConversion sound.sameOrigin fits
    have some_ : junction.bridge.planBeat transfer.burst transfer.beat ≠ [] := by
      rw [underway.burst, planned]
      exact fun none_ => fits.words_ne_nil (List.map_eq_nil_iff.mp none_)
    have boundary : Boundary conversion origin handling transfer junction.bridge.inflight := by
      rcases underway.place with boundary | ⟨_, unfinished, _⟩
      · exact boundary
      · rw [inflight] at unfinished
        exact absurd empty unfinished
    rcases kinds with ⟨data, write, waiting, rfl⟩ | ⟨read, owedRead, rfl⟩
    · have taken : Junction.consumed? junction { junction with
          bridge := { junction.bridge with
            active := some { transfer with
              pending := (junction.bridge.planBeat transfer.burst transfer.beat).map
                (·.write data) } }
          split := { junction.split with writeData := junction.split.writeData.clear } } =
          some data := waiting
      rw [taken]
      rw [underway.write] at write
      have plan : (junction.bridge.planBeat transfer.burst transfer.beat).map (·.write data) =
          (handling.engage [data] []).accessesOf conversion origin transfer.beat := by
        have here : (handling.consumed ++ [data])[transfer.beat]? = some data := by
          rw [← boundary.consumed write]
          simp
        unfold Handling.accessesOf Handling.engage
        simp only [write, if_true, here]
        rw [underway.burst, planned, List.map_map]
        rfl
      have inside := underway.planned boundary (underway.owedRead write)
        (show [data].length = _ by rw [write]; rfl) plan
        (fun none_ => some_ (List.map_eq_nil_iff.mp none_))
      exact ⟨sound.sameConversion, sound.sameOrigin, .working _ inside faithful, link⟩
    · have taken : ∀ next,
          Junction.consumed? junction { junction with bridge := next } = none :=
        fun _ => Junction.consumed?_eq_none rfl
      rw [taken]
      rw [underway.write] at read
      have plan : junction.bridge.nextRead transfer =
          (handling.engage [] []).accessesOf conversion origin transfer.beat := by
        unfold nextRead Handling.accessesOf
        rw [Handling.engage_nil, underway.burst, planned, List.map_map]
        simp only [read, Bool.false_eq_true, if_false]
        rfl
      have inside := underway.planned boundary owedRead
        (show [].length = _ by rw [read]; rfl) plan
        (fun none_ => some_ (List.map_eq_nil_iff.mp none_))
      exact ⟨sound.sameConversion, sound.sameOrigin, .working _ inside faithful, link⟩

theorem Sound.issue (sound : Sound conversion origin junction handlings)
    (inflight : junction.bridge.inflight = none) :
    Sound conversion origin junction.issue (handlings.modifyHead
      (·.engage [] (junction.simple.raised? junction.issue.simple).toList)) := by
  rcases junction.issue_cases with same | ⟨transfer, access, pending, active, left, idle, raised⟩
  · rw [same, Simple.Link.raised?_self]
    cases handlings <;> simpa using sound
  · have request : junction.simple.raised? junction.issue.simple = some access.request := by
      rw [raised, idle]
      rfl
    rw [request]
    obtain ⟨handling, past, rfl, underway, faithful⟩ := sound.standing.exists_underway active
    have place := underway.place
    rw [inflight] at place
    rcases place with boundary | ⟨owedRead, _, passed, earlier, replies, within⟩
    · rw [boundary.pending] at left
      cases left
    · have plan := within.plan
      have issued := within.issued
      rw [Option.toList_none, List.append_nil] at plan issued
      have entered : handling.engage [] [access.request] =
          { handling with issued := handling.issued ++ [access.request] } := by
        simp [Handling.engage]
      show Sound conversion origin junction.issue
        (handling.engage [] [access.request] :: past)
      rw [raised, entered]
      refine ⟨sound.sameConversion, sound.sameOrigin, .working _ ⟨underway.running, rfl,
        underway.burst, underway.write, underway.size, underway.unfinished, underway.owedWrite,
        underway.owedRead, underway.writeResponses, underway.consumed, underway.readBeats,
        .inr ⟨owedRead, by simp, passed, earlier, replies, ?_, within.consumed, ?_,
          within.answers, within.earlierLength, within.replyLength, within.data,
          within.beatStatus, within.burstStatus⟩⟩ faithful, rfl⟩
      · show passed ++ [access] ++ pending =
          handling.accessesOf conversion origin transfer.beat
        rw [← plan, left, List.append_assoc]
        rfl
      · show handling.issued ++ [access.request] =
          handling.requestsBefore conversion origin transfer.beat ++
            (passed ++ [access]).map (·.request)
        rw [issued, List.map_append, List.append_assoc]
        rfl

/-- Giving up leaves the burst carried out as far as it went. -/
theorem Sound.halt (regular : conversion.IsRegular)
    (inward : conversion.direction = .splitToSimple)
    (sound : Sound conversion origin junction handlings)
    (inflight : junction.bridge.inflight = none) :
    Sound conversion origin junction.halt handlings :=
  ⟨sound.sameConversion, sound.sameOrigin,
    .resting rfl inflight (sound.standing.faithful regular inward), sound.link⟩

theorem Handling.engage_engage (handling : Handling) (consumed : List WriteBeat)
    (issued : List Request) :
    (handling.engage consumed []).engage [] issued = handling.engage consumed issued := by
  simp [Handling.engage]

/-- What preparing and issuing leave alone. -/
structure Junction.Advances (before after : Junction) : Prop where
  writeAddress : after.split.writeAddress = before.split.writeAddress
  readAddress : after.split.readAddress = before.split.readAddress
  reads : after.reads = before.reads
  writes : after.writes = before.writes

theorem Junction.prepare_inflight {after : Junction} (prepared : junction.prepare = .ok after) :
    after.bridge.inflight = junction.bridge.inflight := by
  rcases Junction.prepare_cases prepared with rfl | ⟨_, _, _, ⟨_, _, _, rfl⟩ | ⟨_, _, rfl⟩⟩ <;> rfl

theorem Junction.prepare_advances {after : Junction} (prepared : junction.prepare = .ok after) :
    Junction.Advances junction after := by
  rcases Junction.prepare_cases prepared with rfl | ⟨_, _, _, ⟨_, _, _, rfl⟩ | ⟨_, _, rfl⟩⟩ <;>
    exact ⟨rfl, rfl, rfl, rfl⟩

theorem Junction.advance_advances (junction : Junction) :
    Junction.Advances junction junction.advance.1 := by
  unfold Junction.advance
  cases prepared : junction.prepare with
  | error kind => exact ⟨rfl, rfl, rfl, rfl⟩
  | ok next =>
    have first := Junction.prepare_advances prepared
    have second : Junction.Advances next next.issue := by
      rcases next.issue_cases with same | ⟨_, _, _, _, _, _, raised⟩
      · rw [same]
        exact ⟨rfl, rfl, rfl, rfl⟩
      · rw [raised]
        exact ⟨rfl, rfl, rfl, rfl⟩
    exact ⟨second.writeAddress.trans first.writeAddress, second.readAddress.trans first.readAddress,
      second.reads.trans first.reads, second.writes.trans first.writes⟩

theorem Junction.advance_of_idle (idle : junction.bridge.active = none) :
    junction.advance.1 = junction := by
  unfold Junction.advance Junction.prepare
  rw [idle]
  dsimp only
  unfold Junction.issue
  rw [idle]

/-- Going on with a burst consumes at most one data beat and raises at most one request. -/
theorem Sound.advance (regular : conversion.IsRegular)
    (inward : conversion.direction = .splitToSimple)
    (sound : Sound conversion origin junction handlings)
    (inflight : junction.bridge.inflight = none) :
    Sound conversion origin junction.advance.1 (handlings.modifyHead
      (·.engage (Junction.consumed? junction junction.advance.1).toList
        (junction.simple.raised? junction.advance.1.simple).toList)) := by
  unfold Junction.advance
  cases prepared : junction.prepare with
  | error kind =>
    have consumed : Junction.consumed? junction junction.halt = none := junction.consumed?_self
    have raised : junction.simple.raised? junction.halt.simple = none :=
      junction.simple.raised?_self
    have halted := sound.halt regular inward inflight
    dsimp only
    rw [consumed, raised]
    cases handlings <;> simpa using halted
  | ok next =>
    have first := sound.prepare regular inward inflight prepared
    have clear : next.bridge.inflight = none :=
      (Junction.prepare_inflight prepared).trans inflight
    have second := first.issue clear
    have consumed : Junction.consumed? junction next.issue = Junction.consumed? junction next := by
      unfold Junction.consumed?
      rw [next.issue_split]
    have raised : junction.simple.raised? next.issue.simple =
        next.simple.raised? next.issue.simple := by
      rw [Junction.prepare_simple prepared]
    dsimp only
    rw [consumed, raised]
    rw [List.modifyHead_modifyHead] at second
    cases handlings with
    | nil => exact second
    | cons handling past =>
      simp only [List.modifyHead_cons, Function.comp_apply, Handling.engage_engage] at second
      exact second

end

end BusFabric.Bridge.Inbound
