import BusFabric.Proofs.Bridge.InboundBursts
import BusFabric.Proofs.Split.Handshake

set_option autoImplicit false

namespace BusFabric.Bridge.Inbound

open Simple (Request Response)
open Split (AddressBeat ReadBeat Status WriteBeat WriteResponse)

variable {conversion : Conversion} {origin : Address}

inductive Reply where
  | write (response : WriteResponse)
  | read (beat : ReadBeat)
  deriving DecidableEq

namespace Junction

/-- The responses that came into their channels between two states. -/
def placed (before after : Junction) : List Reply :=
  (before.split.writeResponse.driven? after.split.writeResponse).toList.map .write ++
    (before.split.readData.driven? after.split.readData).toList.map .read

/-- The responses that the bridge holds until their channels are free. -/
def owed (junction : Junction) : List Reply :=
  junction.bridge.owedWrite.toList.map .write ++ junction.bridge.owedRead.toList.map .read

end Junction

namespace Handling

variable (handling : Handling)

def replies : List Reply :=
  if handling.write then handling.writeResponses.map .write else handling.readBeats.map .read

def IsComplete : Prop :=
  if handling.write then
    handling.writeResponses.length = 1 ∧ handling.consumed.length = handling.burst.beats
  else handling.readBeats.length = handling.burst.beats

end Handling

namespace Junction

variable {junction : Junction}

def OwesOne (junction : Junction) : Prop :=
  junction.bridge.owedWrite = none ∨ junction.bridge.owedRead = none

theorem OwesOne.length_owed (one : junction.OwesOne) : junction.owed.length ≤ 1 := by
  unfold owed
  rcases one with none_ | none_
  · rw [none_]
    cases junction.bridge.owedRead <;> simp
  · rw [none_]
    cases junction.bridge.owedWrite <;> simp

theorem placed_flush (one : junction.OwesOne) :
    junction.placed junction.flush ++ junction.flush.owed = junction.owed := by
  have writes : (junction.split.writeResponse.driven? junction.flush.split.writeResponse).toList ++
      junction.flush.bridge.owedWrite.toList = junction.bridge.owedWrite.toList :=
    junction.split.writeResponse.driven?_settle junction.bridge.owedWrite
  have reads : (junction.split.readData.driven? junction.flush.split.readData).toList ++
      junction.flush.bridge.owedRead.toList = junction.bridge.owedRead.toList :=
    junction.split.readData.driven?_settle junction.bridge.owedRead
  unfold placed owed
  rcases one with none_ | none_
  · rw [none_, Option.toList_none] at writes ⊢
    obtain ⟨driven, left⟩ := List.append_eq_nil_iff.mp writes
    rw [driven, left, ← reads, List.map_append]
    rfl
  · rw [none_, Option.toList_none] at reads ⊢
    obtain ⟨driven, left⟩ := List.append_eq_nil_iff.mp reads
    rw [driven, left, ← writes, List.map_append]
    simp only [List.map_nil, List.append_nil]

/-- A bridge that owes nothing drives no response. -/
theorem flush_of_clear (owedWrite : junction.bridge.owedWrite = none)
    (owedRead : junction.bridge.owedRead = none) : junction.flush = junction := by
  obtain ⟨⟨_, _, _, _, _, _, _, _, _⟩, _, _⟩ := junction
  dsimp only at owedWrite owedRead
  subst owedWrite owedRead
  rfl

theorem flush_collect_of_some (owedWrite : junction.bridge.owedWrite = none)
    (owedRead : junction.bridge.owedRead = none) {answer : Response}
    (answered : junction.simple.response? = some answer) :
    junction.flush.collect = (junction.absorbed answer).flush := by
  rw [flush_of_clear owedWrite owedRead]
  exact collect_of_some answered

/-- The response channels, and what is owed to them, are left alone. -/
structure Holds (before after : Junction) : Prop where
  writeResponse : after.split.writeResponse = before.split.writeResponse
  readData : after.split.readData = before.split.readData
  owedWrite : after.bridge.owedWrite = before.bridge.owedWrite
  owedRead : after.bridge.owedRead = before.bridge.owedRead

theorem Holds.trans {first second third : Junction} (before : Holds first second)
    (after : Holds second third) : Holds first third :=
  ⟨after.writeResponse.trans before.writeResponse, after.readData.trans before.readData,
    after.owedWrite.trans before.owedWrite, after.owedRead.trans before.owedRead⟩

theorem Holds.placed_eq {before middle after : Junction} (holds : Holds middle after) :
    before.placed after = before.placed middle := by
  unfold placed
  rw [holds.writeResponse, holds.readData]

theorem Holds.owed_eq {before after : Junction} (holds : Holds before after) :
    after.owed = before.owed := by
  unfold owed
  rw [holds.owedWrite, holds.owedRead]

theorem acceptAddress_holds (junction : Junction) : Holds junction junction.acceptAddress.1 := by
  rcases junction.acceptAddress_cases with same | ⟨burst, _, taken⟩ | ⟨burst, _, taken⟩
  · rw [same]
    exact ⟨rfl, rfl, rfl, rfl⟩
  all_goals
    rw [taken]
    exact ⟨rfl, rfl, (begun_reads junction burst _ _).2, (begun_reads junction burst _ _).1⟩

theorem advance_holds (junction : Junction) : Holds junction junction.advance.1 := by
  unfold advance
  cases prepared : junction.prepare with
  | error kind => exact ⟨rfl, rfl, rfl, rfl⟩
  | ok next =>
    have first : Holds junction next := by
      rcases prepare_cases prepared with rfl | ⟨_, _, _, ⟨_, _, _, rfl⟩ | ⟨_, _, rfl⟩⟩ <;>
        exact ⟨rfl, rfl, rfl, rfl⟩
    have second : Holds next next.issue := by
      rcases next.issue_cases with same | ⟨_, _, _, _, _, _, raised⟩
      · rw [same]
        exact ⟨rfl, rfl, rfl, rfl⟩
      · rw [raised]
        exact ⟨rfl, rfl, rfl, rfl⟩
    exact first.trans second

end Junction

/-- An acknowledge leaves the burst under way, or ends it with a response. -/
theorem absorb_cases {bridge : Inbound} {access : Access} {transfer : Transfer}
    (inflight : bridge.inflight = some access) (active : bridge.active = some transfer)
    (answer : Response) :
    (bridge.absorb answer).active.isSome = true ∨
      transfer.pending = [] ∧ transfer.beat + 1 = transfer.burst.beats ∧
        if transfer.write then (bridge.absorb answer).owedWrite.isSome = true
        else (bridge.absorb answer).owedRead.isSome = true := by
  rw [absorb_eq inflight active]
  dsimp only
  by_cases pending : transfer.pending = []
  · rw [if_pos (by rw [pending]; rfl)]
    unfold finishBeat
    dsimp only
    by_cases final : transfer.beat + 1 = transfer.burst.beats
    · refine .inr ⟨pending, final, ?_⟩
      cases transfer.write <;> simp [final]
    · left
      cases transfer.write <;> simp [final]
  · rw [if_neg (by simpa using pending)]
    exact .inl rfl

/-- What is known of the bursts of a log besides how they are carried out. -/
structure Tidy (junction : Junction) (handlings : List Handling) : Prop where
  one : junction.OwesOne
  past : ∀ handling ∈ handlings.tail, handling.IsComplete
  /-- A bridge that does nothing, and has not given up, has everything behind it. -/
  idle : junction.bridge.active = none → junction.bridge.isHalted = false →
    ∀ handling ∈ handlings, handling.IsComplete
  reads : ∀ handling ∈ handlings, handling.write = false → handling.consumed = []

section

variable {junction : Junction} {handlings : List Handling}

theorem Underway.isComplete_absorb {bridge : Inbound} {handling : Handling} {transfer : Transfer}
    {access : Access} (underway : Underway conversion origin bridge handling transfer)
    (inflight : bridge.inflight = some access) (answer : Response)
    (idle : (bridge.absorb answer).active = none) :
    (handling.settle [answer] (bridge.absorb answer).owedRead.toList
      (bridge.absorb answer).owedWrite.toList).IsComplete := by
  rcases absorb_cases inflight underway.active answer with busy | ⟨_, final, owes⟩
  · rw [idle] at busy
    cases busy
  · rw [underway.burst] at final
    rw [underway.write] at owes
    unfold Handling.IsComplete Handling.settle
    dsimp only
    cases write : handling.write with
    | true =>
      rw [write, if_pos rfl] at owes
      obtain ⟨response, owed⟩ := Option.isSome_iff_exists.mp owes
      rw [if_pos rfl, underway.writeResponses, owed]
      refine ⟨rfl, ?_⟩
      rcases underway.place with boundary | ⟨_, _, passed, earlier, replies, within⟩
      · rw [boundary.inflight] at inflight
        cases inflight
      · rw [within.consumed write, final]
    | false =>
      rw [write, if_neg Bool.false_ne_true] at owes
      obtain ⟨beat, owed⟩ := Option.isSome_iff_exists.mp owes
      rw [if_neg Bool.false_ne_true, underway.readBeats, write, owed, List.length_append]
      simpa using final

theorem Tidy.flush (tidy : Tidy junction handlings) : Tidy junction.flush handlings where
  one := tidy.one.imp (settle_snd_of_none _) (settle_snd_of_none _)
  past := tidy.past
  idle := tidy.idle
  reads := tidy.reads

/-- Driving what is owed and collecting an acknowledge: `more` is what becomes due. -/
structure Collected (junction : Junction) (handlings settled : List Handling)
    (more : List Reply) : Prop where
  tidy : Tidy junction.flush.collect settled
  due : junction.placed junction.flush.collect ++ junction.flush.collect.owed =
    junction.owed ++ more
  replies : settled.reverse.flatMap (·.replies) = handlings.reverse.flatMap (·.replies) ++ more
  single : (junction.owed ++ more).length ≤ 1

theorem Handling.replies_settle {handling : Handling} {answers : List Response}
    {reads : List ReadBeat} {writes : List WriteResponse}
    (apart : if handling.write then reads = [] else writes = []) :
    (handling.settle answers reads writes).replies =
      handling.replies ++ (writes.map .write ++ reads.map .read) := by
  unfold replies settle
  dsimp only
  cases write : handling.write with
  | true =>
    rw [write, if_pos rfl] at apart
    rw [if_pos rfl, if_pos rfl, apart, List.map_append, List.map_nil, List.append_nil]
  | false =>
    rw [write, if_neg Bool.false_ne_true] at apart
    rw [if_neg Bool.false_ne_true, if_neg Bool.false_ne_true, apart, List.map_append]
    rfl

/-- A burst is given responses on one of the two channels only. -/
theorem Handling.Faithful.apart {handling : Handling} {answers : List Response}
    {read : Option ReadBeat} {write : Option WriteResponse}
    (faithful : (handling.settle answers read.toList write.toList).Faithful conversion origin) :
    if handling.write then read = none else write = none := by
  cases kind : handling.write with
  | true =>
    have few := faithful.reads
    rw [show (handling.settle _ _ _).write = handling.write from rfl, kind, if_pos rfl,
      show (handling.settle _ _ _).readBeats = handling.readBeats ++ _ from rfl,
      List.length_append] at few
    rw [if_pos rfl]
    cases read with
    | none => rfl
    | some beat => rw [Option.toList_some, List.length_singleton] at few; omega
  | false =>
    rw [if_neg Bool.false_ne_true]
    rcases faithful.writeResponses with none_ | ⟨written, _⟩
    · have both : handling.writeResponses ++ write.toList = [] := none_
      exact Option.toList_eq_nil_iff.mp (List.append_eq_nil_iff.mp both).2
    · exact absurd (kind.symm.trans written) (by decide)

/-- Without an acknowledge, only what is owed is driven. -/
theorem Tidy.collect_of_none (tidy : Tidy junction handlings)
    (waits : junction.simple.response? = none) : Collected junction handlings handlings [] := by
  have same : junction.flush.collect = junction.flush :=
    Junction.collect_of_none (show junction.flush.simple.response? = none from waits)
  refine ⟨?_, ?_, (List.append_nil _).symm, ?_⟩
  · rw [same]
    exact tidy.flush
  · rw [same, Junction.placed_flush tidy.one, List.append_nil]
  · rw [List.append_nil]
    exact tidy.one.length_owed

section

variable {handling : Handling} {past : List Handling} {transfer : Transfer} {access : Access}
  {answer : Response} (tidy : Tidy junction (handling :: past))
  (underway : Underway conversion origin junction.bridge handling transfer)
  (inflight : junction.bridge.inflight = some access)
  (apart : if handling.write then (junction.bridge.absorb answer).owedRead = none
    else (junction.bridge.absorb answer).owedWrite = none)

include tidy underway inflight apart

/-- What an acknowledge makes due completes the burst that it ends. -/
theorem Tidy.absorbed :
    Tidy (junction.absorbed answer)
      (handling.settle [answer] (junction.bridge.absorb answer).owedRead.toList
        (junction.bridge.absorb answer).owedWrite.toList :: past) where
  one := by
    cases write : handling.write with
    | true => rw [write, if_pos rfl] at apart; exact .inr apart
    | false => rw [write, if_neg Bool.false_ne_true] at apart; exact .inl apart
  past := tidy.past
  idle := by
    intro idle _ other there
    rcases List.mem_cons.mp there with rfl | earlier
    · exact underway.isComplete_absorb inflight answer idle
    · exact tidy.past other earlier
  reads := by
    intro other there read
    rcases List.mem_cons.mp there with rfl | earlier
    · exact tidy.reads handling List.mem_cons_self read
    · exact tidy.reads other (List.mem_cons_of_mem _ earlier) read

theorem Tidy.collect_of_some (answered : junction.simple.response? = some answer)
    (owedRead : junction.bridge.owedRead = none) (owedWrite : junction.bridge.owedWrite = none) :
    Collected junction (handling :: past)
      (handling.settle [answer] (junction.bridge.absorb answer).owedRead.toList
        (junction.bridge.absorb answer).owedWrite.toList :: past)
      (junction.absorbed answer).owed := by
  have absorbed := tidy.absorbed underway inflight apart
  have none_ : junction.owed = [] := by
    unfold Junction.owed
    rw [owedWrite, owedRead]
    rfl
  have collected := Junction.flush_collect_of_some owedWrite owedRead answered
  refine ⟨?_, ?_, ?_, ?_⟩
  · rw [collected]
    exact absorbed.flush
  · rw [collected, none_]
    exact Junction.placed_flush absorbed.one
  · rw [List.reverse_cons, List.reverse_cons, List.flatMap_append, List.flatMap_append,
      List.flatMap_singleton, List.flatMap_singleton, List.append_assoc, Handling.replies_settle]
    · rfl
    · cases write : handling.write with
      | true => rw [write, if_pos rfl] at apart; rw [apart]; rfl
      | false => rw [write, if_neg Bool.false_ne_true] at apart; rw [apart]; rfl
  · rw [none_]
    exact absorbed.one.length_owed

end

theorem Tidy.collect (regular : conversion.IsRegular)
    (inward : conversion.direction = .splitToSimple)
    (sound : Sound conversion origin junction handlings) (tidy : Tidy junction handlings)
    {reads : List ReadBeat} {writes : List WriteResponse}
    (moreReads : junction.flush.collect.reads = junction.reads ++ reads)
    (moreWrites : junction.flush.collect.writes = junction.writes ++ writes) :
    ∃ more, Collected junction handlings
      (handlings.modifyHead (·.settle junction.simple.response?.toList reads writes)) more := by
  cases answered : junction.simple.response? with
  | none =>
    have same : junction.flush.collect = junction.flush :=
      Junction.collect_of_none (show junction.flush.simple.response? = none from answered)
    rw [same, Junction.reads_flush] at moreReads
    rw [same, Junction.writes_flush] at moreWrites
    obtain rfl := List.self_eq_append_right.mp moreReads
    obtain rfl := List.self_eq_append_right.mp moreWrites
    have unchanged : handlings.modifyHead (·.settle [] [] []) = handlings := by
      cases handlings with
      | nil => rfl
      | cons handling past => rw [List.modifyHead_cons, Handling.settle_nil]
    rw [Option.toList_none, unchanged]
    exact ⟨[], tidy.collect_of_none answered⟩
  | some answer =>
    obtain ⟨handling, past, transfer, access, rfl, underway, inflight, faithful⟩ :=
      sound.exists_underway answered
    obtain ⟨owedRead, owedWrite, _, standing⟩ :=
      underway.absorb regular inward faithful inflight answer
    -- what the acknowledge makes due is what the log enters
    have collected := Junction.flush_collect_of_some owedWrite owedRead answered
    rw [collected, Junction.reads_flush, Junction.reads_absorbed owedRead] at moreReads
    rw [collected, Junction.writes_flush, Junction.writes_absorbed owedWrite] at moreWrites
    obtain rfl := List.append_cancel_left moreReads
    obtain rfl := List.append_cancel_left moreWrites
    have settled := standing.faithful regular inward _ List.mem_cons_self
    exact ⟨_, tidy.collect_of_some underway inflight settled.apart answered owedRead owedWrite⟩

/-- Taking an address finds everything before it complete. -/
theorem Tidy.acceptAddress (tidy : Tidy junction handlings)
    (running : junction.bridge.isHalted = false) (idle : junction.bridge.active = none) :
    Tidy junction.acceptAddress.1
        ((Junction.accepted? junction junction.acceptAddress.1).toList ++ handlings) ∧
      (∀ handling, Junction.accepted? junction junction.acceptAddress.1 = some handling →
        ∀ earlier ∈ handlings, earlier.IsComplete) := by
  have complete := tidy.idle idle running
  refine ⟨?_, fun _ _ => complete⟩
  have begins : ∀ (burst : AddressBeat) (write preferRead : Bool) (split : Split.Link),
      Tidy { junction with bridge := junction.bridge.begun burst write preferRead, split }
        ({ burst, write } :: handlings) := by
    intro burst write preferRead split
    obtain ⟨owedRead, owedWrite⟩ := begun_reads junction burst write preferRead
    refine ⟨?_, complete, ?_, ?_⟩
    · exact tidy.one.imp owedWrite.trans owedRead.trans
    · unfold begun
      cases junction.bridge.violation? burst with
      | some kind => exact fun _ halted => nomatch halted
      | none => exact fun idle _ => nomatch idle
    · intro other there
      rcases List.mem_cons.mp there with rfl | earlier
      · exact fun _ => rfl
      · exact tidy.reads other earlier
  rcases junction.acceptAddress_cases with same | ⟨burst, waiting, taken⟩ | ⟨burst, waiting, taken⟩
  · rw [same, Junction.accepted?_eq_none rfl rfl]
    exact tidy
  · rw [taken, Junction.accepted?_write waiting rfl]
    exact begins burst true true _
  · have seen : Junction.accepted? junction junction.acceptAddress.1 =
        some { burst, write := false } := by
      refine Junction.accepted?_read ?_ waiting ?_ <;> rw [taken]
      rfl
    rw [seen, taken]
    exact begins burst false false _

theorem Junction.advance_writeData (junction : Junction) :
    junction.advance.1.split.writeData = junction.split.writeData ∨
      junction.advance.1.split.writeData.beat = none := by
  unfold Junction.advance
  cases prepared : junction.prepare with
  | error kind => exact .inl rfl
  | ok next =>
    dsimp only
    rw [next.issue_split]
    rcases Junction.prepare_cases prepared with
      rfl | ⟨_, _, _, ⟨_, _, _, rfl⟩ | ⟨_, _, rfl⟩⟩
    · exact .inl rfl
    · exact .inr rfl
    · exact .inl rfl

theorem tail_modifyHead {α : Type} (list : List α) (change : α → α) :
    (list.modifyHead change).tail = list.tail := by
  cases list <;> rfl

theorem Tidy.prepare (sound : Sound conversion origin junction handlings)
    (tidy : Tidy junction handlings) {after : Junction} (prepared : junction.prepare = .ok after) :
    Tidy after
      (handlings.modifyHead (·.engage (Junction.consumed? junction after).toList [])) := by
  rcases Junction.prepare_cases prepared with rfl | ⟨transfer, active, _, kinds⟩
  · rw [Junction.consumed?_self, Option.toList_none, modifyHead_engage_nil]
    exact tidy
  · obtain ⟨handling, past, rfl, underway, _⟩ := sound.standing.exists_underway active
    rcases kinds with ⟨data, write, _, rfl⟩ | ⟨_, _, rfl⟩
    · refine ⟨tidy.one, tidy.past, nofun, fun other there read => ?_⟩
      rcases List.mem_cons.mp there with rfl | earlier
      · have both : handling.write = true := underway.write.symm.trans write
        exact absurd (both.symm.trans read) (by decide)
      · exact tidy.reads other (List.mem_cons_of_mem _ earlier) read
    · have none_ : ∀ next,
          Junction.consumed? junction { junction with bridge := next } = none :=
        fun _ => junction.consumed?_self
      rw [none_, Option.toList_none, modifyHead_engage_nil]
      exact ⟨tidy.one, tidy.past, nofun, tidy.reads⟩

theorem Handling.isComplete_engage (handling : Handling) (issued : List Request) :
    (handling.engage [] issued).IsComplete ↔ handling.IsComplete := by
  simp [IsComplete, engage]

theorem Tidy.issue (tidy : Tidy junction handlings) (issued : List Request) :
    Tidy junction.issue (handlings.modifyHead (·.engage [] issued)) := by
  have complete {handlings : List Handling} (all : ∀ handling ∈ handlings, handling.IsComplete) :
      ∀ handling ∈ handlings.modifyHead (·.engage [] issued), handling.IsComplete := by
    cases handlings with
    | nil => exact all
    | cons newest past =>
      intro handling there
      rcases List.mem_cons.mp there with rfl | earlier
      · exact (newest.isComplete_engage issued).mpr (all newest List.mem_cons_self)
      · exact all handling (List.mem_cons_of_mem _ earlier)
  have reads : ∀ handling ∈ handlings.modifyHead (·.engage [] issued),
      handling.write = false → handling.consumed = [] := by
    cases handlings with
    | nil => exact tidy.reads
    | cons newest past =>
      intro handling there read
      rcases List.mem_cons.mp there with rfl | earlier
      · exact List.append_eq_nil_iff.mpr ⟨tidy.reads newest List.mem_cons_self read, rfl⟩
      · exact tidy.reads handling (List.mem_cons_of_mem _ earlier) read
  have past : ∀ handling ∈ (handlings.modifyHead (·.engage [] issued)).tail,
      handling.IsComplete := by
    rw [tail_modifyHead]
    exact tidy.past
  rcases junction.issue_cases with same | ⟨_, _, _, _, _, _, raised⟩
  · rw [same]
    exact ⟨tidy.one, past, fun idle running => complete (tidy.idle idle running), reads⟩
  · rw [raised]
    exact ⟨tidy.one, past, nofun, reads⟩

theorem Tidy.advance (sound : Sound conversion origin junction handlings)
    (tidy : Tidy junction handlings) :
    Tidy junction.advance.1 (handlings.modifyHead
      (·.engage (Junction.consumed? junction junction.advance.1).toList
        (junction.simple.raised? junction.advance.1.simple).toList)) := by
  unfold Junction.advance
  cases prepared : junction.prepare with
  | error kind =>
    have consumed : Junction.consumed? junction junction.halt = none := junction.consumed?_self
    have raised : junction.simple.raised? junction.halt.simple = none :=
      junction.simple.raised?_self
    dsimp only
    rw [consumed, raised, Option.toList_none, Option.toList_none, modifyHead_engage_nil]
    exact ⟨tidy.one, tidy.past, nofun, tidy.reads⟩
  | ok next =>
    have consumed : Junction.consumed? junction next.issue = Junction.consumed? junction next := by
      unfold Junction.consumed?
      rw [next.issue_split]
    have second := (tidy.prepare sound prepared).issue
      (junction.simple.raised? next.issue.simple).toList
    dsimp only
    rw [consumed]
    rw [List.modifyHead_modifyHead] at second
    cases handlings with
    | nil => exact second
    | cons handling past =>
      simp only [List.modifyHead_cons, Function.comp_apply, Handling.engage_engage] at second
      exact second

theorem Tidy.congr {after : Junction} (tidy : Tidy junction handlings)
    (same : after.bridge = junction.bridge) : Tidy after handlings := by
  refine ⟨?_, tidy.past, ?_, tidy.reads⟩
  · unfold Junction.OwesOne
    rw [same]
    exact tidy.one
  · rw [same]
    exact tidy.idle

/-- What is known of the bursts, once an acknowledge was collected and an address taken, or none. -/
theorem Junction.Stages.tidy {log : Log} {after : Junction} {reads : List ReadBeat}
    {writes : List WriteResponse} (regular : conversion.IsRegular)
    (inward : conversion.direction = .splitToSimple)
    (stages : Junction.Stages conversion origin log junction junction.entered.1 after reads writes)
    (frame : Junction.Advances junction.entered.1 after)
    (sound : Sound conversion origin junction log.handlings)
    (running : junction.bridge.isHalted = false) (tidy : Tidy junction log.handlings) :
    let settled :=
      log.handlings.modifyHead (·.settle junction.simple.response?.toList reads writes)
    ∃ more, Collected junction log.handlings settled more ∧
      Tidy junction.entered.1
        ((Junction.accepted? junction.flush.collect junction.entered.1).toList ++ settled) ∧
      ∀ handling,
        Junction.accepted? junction.flush.collect junction.entered.1 = some handling →
          junction.entered.1.owed = [] ∧ ∀ earlier ∈ settled, earlier.IsComplete := by
  intro settled
  have accepts := junction.entered_accepts
  obtain ⟨more, collected⟩ := tidy.collect regular inward sound
    ((frame.reads.trans accepts.reads).symm.trans stages.moreReads)
    ((frame.writes.trans accepts.writes).symm.trans stages.moreWrites)
  refine ⟨more, collected, ?_⟩
  have enters := junction.step_cases.1
  generalize junction.entered.1 = middle at enters ⊢
  rcases enters with rfl | ⟨idle, owedWrite, owedRead, rfl⟩
  · rw [Junction.accepted?_eq_none rfl rfl]
    exact ⟨collected.tidy, nofun⟩
  · obtain ⟨next, complete⟩ := collected.tidy.acceptAddress
      (junction.flush.collect_collects.halted.trans running) idle
    refine ⟨next, fun handling taken => ⟨?_, complete handling taken⟩⟩
    rw [junction.flush.collect.acceptAddress_holds.owed_eq]
    unfold Junction.owed
    rw [owedWrite, owedRead]
    rfl

end

end BusFabric.Bridge.Inbound
