import BusFabric.Proofs.Bridge.Handshake
import BusFabric.Proofs.Bridge.InboundLog

set_option autoImplicit false

namespace BusFabric.Bridge.Inbound

open Simple (Request Response)
open Split (AddressBeat ReadBeat Status WriteBeat WriteResponse)

variable {conversion : Conversion} {origin : Address}

theorem statusOf_append (first second : List Response) :
    statusOf (first ++ second) = (statusOf first).merge (statusOf second) := by
  unfold statusOf
  rw [List.any_append]
  cases first.any (·.error) <;> rfl

theorem statusOf_concat (answers : List Response) (answer : Response) :
    statusOf (answers ++ [answer]) =
      if answer.error then (statusOf answers).merge .slaveError else statusOf answers := by
  rw [statusOf_append]
  unfold statusOf
  cases failed : answer.error <;> cases earlier : answers.any (·.error) <;>
    simp [failed, Status.merge, Status.isOkay]

namespace Handling

variable {handling : Handling}

theorem requestsBefore_succ (conversion : Conversion) (origin : Address) (handling : Handling)
    (beats : Nat) :
    handling.requestsBefore conversion origin (beats + 1) =
      handling.requestsBefore conversion origin beats ++
        handling.requestsOf conversion origin beats := by
  unfold requestsBefore
  rw [List.range_succ, List.flatMap_append, List.flatMap_singleton]

theorem requestsBefore_prefix (conversion : Conversion) (origin : Address) (handling : Handling)
    {first second : Nat} (le : first ≤ second) :
    handling.requestsBefore conversion origin first <+:
      handling.requestsBefore conversion origin second := by
  induction le with
  | refl => exact List.prefix_rfl
  | step _ ih =>
    rw [requestsBefore_succ]
    exact ih.trans (List.prefix_append _ _)

/-- Write data that comes later does not change what earlier data asked for. -/
theorem requestsOf_engage (handling : Handling) (consumed : List WriteBeat) (issued : List Request)
    {beat : Nat} (taken : handling.write = true → beat < handling.consumed.length) :
    (handling.engage consumed issued).requestsOf conversion origin beat =
      handling.requestsOf conversion origin beat := by
  unfold requestsOf engage
  dsimp only
  cases write : handling.write with
  | false => rfl
  | true => rw [List.getElem?_append_left (taken write)]

theorem requestsBefore_engage (handling : Handling) (consumed : List WriteBeat)
    (issued : List Request) {beats : Nat}
    (taken : handling.write = true → beats ≤ handling.consumed.length) :
    (handling.engage consumed issued).requestsBefore conversion origin beats =
      handling.requestsBefore conversion origin beats := by
  induction beats with
  | zero => rfl
  | succ beats ih =>
    rw [requestsBefore_succ, requestsBefore_succ,
      ih fun write => Nat.le_of_succ_le (taken write),
      requestsOf_engage handling consumed issued taken]

/-- Read data that is complete is not changed by later acknowledges. -/
theorem readBeat_settle (handling : Handling) (answers : List Response) (reads : List ReadBeat)
    (writes : List WriteResponse) {beat : Nat}
    (whole : (handling.requestsBefore conversion origin (beat + 1)).length ≤
      handling.answers.length) :
    (handling.settle answers reads writes).readBeat conversion origin beat =
      handling.readBeat conversion origin beat := by
  have same : (handling.settle answers reads writes).answersOf conversion origin beat =
      handling.answersOf conversion origin beat := by
    rw [requestsBefore_succ, List.length_append] at whole
    show List.take (handling.requestsOf conversion origin beat).length
      (List.drop (handling.requestsBefore conversion origin beat).length
        (handling.answers ++ answers)) = _
    rw [List.drop_append_of_le_length (by omega),
      List.take_append_of_le_length (by rw [List.length_drop]; omega)]
    rfl
  unfold readBeat
  rw [same]
  rfl

def accessesOf (conversion : Conversion) (origin : Address) (handling : Handling) (beat : Nat) :
    List Access :=
  let span := Span.of conversion origin handling.burst beat
  if handling.write then
    match handling.consumed[beat]? with
    | some data => span.words.map fun word => (span.lanesOf word).write data
    | none => []
  else span.words.map fun word => (span.lanesOf word).read

theorem requests_accessesOf (handling : Handling) {beat : Nat}
    (fits : (Span.of conversion origin handling.burst beat).Fits) :
    (handling.accessesOf conversion origin beat).map (·.request) =
      handling.requestsOf conversion origin beat := by
  unfold accessesOf requestsOf
  dsimp only
  split
  · cases handling.consumed[beat]? with
    | none => rfl
    | some data =>
      dsimp only
      rw [List.map_map]
      exact List.map_congr_left fun word _ => fits.write_request data word
  · rw [List.map_map]
    exact List.map_congr_left fun word _ => fits.read_request word

end Handling

/-- Between two data beats, all that was asked for is answered. -/
structure Boundary (conversion : Conversion) (origin : Address) (handling : Handling)
    (transfer : Transfer) (inflight : Option Access) : Prop where
  inflight : inflight = none
  pending : transfer.pending = []
  data : transfer.data = 0
  beatStatus : transfer.beatStatus = .okay
  burstStatus : transfer.burstStatus = statusOf handling.answers
  consumed : handling.write = true → handling.consumed.length = transfer.beat
  issued : handling.issued = handling.requestsBefore conversion origin transfer.beat
  answers : handling.answers.length = handling.issued.length

/-- Inside a data beat, its accesses are the answered ones, the one in flight and the pending. -/
structure Within (conversion : Conversion) (origin : Address) (handling : Handling)
    (transfer : Transfer) (inflight : Option Access) (passed : List Access)
    (earlier replies : List Response) : Prop where
  plan : passed ++ inflight.toList ++ transfer.pending =
    handling.accessesOf conversion origin transfer.beat
  consumed : handling.write = true → handling.consumed.length = transfer.beat + 1
  issued : handling.issued = handling.requestsBefore conversion origin transfer.beat ++
    (passed ++ inflight.toList).map (·.request)
  answers : handling.answers = earlier ++ replies
  earlierLength : earlier.length =
    (handling.requestsBefore conversion origin transfer.beat).length
  replyLength : replies.length = passed.length
  data : handling.write = false → transfer.data = gathered passed replies
  beatStatus : transfer.beatStatus = statusOf replies
  burstStatus : transfer.burstStatus = statusOf earlier

/-- The newest burst of the log is the one that the bridge works on. -/
structure Underway (conversion : Conversion) (origin : Address) (bridge : Inbound)
    (handling : Handling) (transfer : Transfer) : Prop where
  running : bridge.isHalted = false
  active : bridge.active = some transfer
  burst : transfer.burst = handling.burst
  write : transfer.write = handling.write
  size : handling.burst.size.toNat ≤ conversion.splitBytes.log2
  unfinished : transfer.beat < handling.burst.beats
  owedWrite : bridge.owedWrite = none
  owedRead : handling.write = true → bridge.owedRead = none
  writeResponses : handling.writeResponses = []
  consumed : handling.write = false → handling.consumed = []
  readBeats : handling.readBeats = if handling.write then [] else
    (List.range transfer.beat).map (handling.readBeat conversion origin)
  place : Boundary conversion origin handling transfer bridge.inflight ∨
    bridge.owedRead = none ∧ bridge.inflight.toList ++ transfer.pending ≠ [] ∧
      ∃ passed earlier replies,
        Within conversion origin handling transfer bridge.inflight passed earlier replies

/-- What the bridge is doing, given the log of its bursts. -/
inductive Standing (conversion : Conversion) (origin : Address) (bridge : Inbound) :
    List Handling → Prop
  /-- It does nothing, or has given up. -/
  | resting {handlings : List Handling} (active : bridge.active = none)
      (inflight : bridge.inflight = none)
      (faithful : ∀ handling ∈ handlings, handling.Faithful conversion origin) :
      Standing conversion origin bridge handlings
  | working {handling : Handling} {past : List Handling} (transfer : Transfer)
      (underway : Underway conversion origin bridge handling transfer)
      (faithful : ∀ handling ∈ past, handling.Faithful conversion origin) :
      Standing conversion origin bridge (handling :: past)

/-- The link between a junction and the log of its bursts. -/
structure Sound (conversion : Conversion) (origin : Address) (junction : Junction)
    (handlings : List Handling) : Prop where
  sameConversion : junction.bridge.conversion = conversion
  sameOrigin : junction.bridge.origin = origin
  standing : Standing conversion origin junction.bridge handlings
  /-- The simple link carries the access in flight. -/
  link : junction.simple.request? = junction.bridge.inflight.map (·.request)

section

variable {handling : Handling} {transfer : Transfer} {passed : List Access}
  {earlier replies : List Response}

theorem Within.settle {access : Access}
    (within : Within conversion origin handling transfer (some access) passed earlier replies)
    (answer : Response) (reads : List ReadBeat) (writes : List WriteResponse) {data : Data}
    (gathers : handling.write = false → data = access.gather answer.data transfer.data) :
    Within conversion origin (handling.settle [answer] reads writes)
      { transfer with
        beatStatus :=
          if answer.error then transfer.beatStatus.merge .slaveError else transfer.beatStatus
        data }
      none (passed ++ [access]) earlier (replies ++ [answer]) where
  plan := by
    have plan := within.plan
    simp only [Option.toList_some, Option.toList_none, List.append_nil] at plan ⊢
    exact plan
  consumed := within.consumed
  issued := by
    have issued := within.issued
    simp only [Option.toList_some, Option.toList_none, List.append_nil] at issued ⊢
    exact issued
  answers := by
    show handling.answers ++ [answer] = _
    rw [within.answers, List.append_assoc]
  earlierLength := within.earlierLength
  replyLength := by rw [List.length_append, List.length_append, within.replyLength]; rfl
  data := by
    intro read
    rw [gathered_append passed replies access answer within.replyLength.symm, ← within.data read]
    exact gathers read
  beatStatus := by rw [statusOf_concat, ← within.beatStatus]
  burstStatus := within.burstStatus

theorem Within.issued_of_done
    (within : Within conversion origin handling transfer none passed earlier replies)
    (fits : (Span.of conversion origin handling.burst transfer.beat).Fits)
    (done : transfer.pending = []) :
    passed = handling.accessesOf conversion origin transfer.beat ∧
      handling.issued = handling.requestsBefore conversion origin (transfer.beat + 1) ∧
      handling.answers.length = handling.issued.length := by
  have plan := within.plan
  have issued := within.issued
  simp only [Option.toList_none, List.append_nil, done] at plan issued
  have requests : handling.issued =
      handling.requestsBefore conversion origin (transfer.beat + 1) := by
    rw [issued, plan, handling.requests_accessesOf fits, Handling.requestsBefore_succ]
  refine ⟨plan, requests, ?_⟩
  rw [issued, within.answers, List.length_append, List.length_append, List.length_map,
    within.earlierLength, within.replyLength]

theorem Within.statusOf_answers
    (within : Within conversion origin handling transfer none passed earlier replies) :
    statusOf handling.answers = transfer.burstStatus.merge transfer.beatStatus := by
  rw [within.answers, statusOf_append, within.burstStatus, within.beatStatus]

/-- The read beat that a bridge hands on is the one that belongs to the data beat. -/
theorem Within.readBeat_eq
    (within : Within conversion origin handling transfer none passed earlier replies)
    (fits : (Span.of conversion origin handling.burst transfer.beat).Fits)
    (read : handling.write = false) (done : transfer.pending = []) :
    handling.readBeat conversion origin transfer.beat =
      ⟨handling.burst.id, transfer.data, transfer.beatStatus,
        transfer.beat + 1 = handling.burst.beats⟩ := by
  obtain ⟨plan, _, _⟩ := within.issued_of_done fits done
  have count : (handling.requestsOf conversion origin transfer.beat).length =
      replies.length := by
    rw [← handling.requests_accessesOf fits, ← plan, List.length_map, within.replyLength]
  have own : handling.answersOf conversion origin transfer.beat = replies := by
    unfold Handling.answersOf
    rw [within.answers, ← within.earlierLength, List.drop_left, count, List.take_length]
  have words : passed = (Span.of conversion origin handling.burst transfer.beat).words.map
      fun word => ((Span.of conversion origin handling.burst transfer.beat).lanesOf word).read := by
    rw [plan]
    unfold Handling.accessesOf
    simp only [read, Bool.false_eq_true, if_false]
  have whole : replies.length =
      (Span.of conversion origin handling.burst transfer.beat).words.length := by
    rw [within.replyLength, words, List.length_map]
  unfold Handling.readBeat
  dsimp only
  rw [own, within.data read, within.beatStatus, words, fits.gathered_eq whole]

/-- A burst under way is carried out as far as it goes. -/
theorem Underway.faithful {bridge : Inbound}
    (underway : Underway conversion origin bridge handling transfer)
    (fits : (Span.of conversion origin handling.burst transfer.beat).Fits) :
    handling.Faithful conversion origin := by
  have unfinished := underway.unfinished
  have order : handling.requestsBefore conversion origin (transfer.beat + 1) <+:
      handling.reference conversion origin :=
    handling.requestsBefore_prefix conversion origin (by omega)
  have reads : handling.readBeats.length = if handling.write then 0 else transfer.beat := by
    rw [underway.readBeats]
    split
    · rfl
    · rw [List.length_map, List.length_range]
  refine ⟨?_, ?_, ?_, ?_, .inl underway.writeResponses, ?_⟩
  · rcases underway.place with boundary | ⟨_, _, passed, _, _, within⟩
    · rw [boundary.issued]
      exact handling.requestsBefore_prefix conversion origin (by omega)
    · rw [Handling.requestsBefore_succ, ← handling.requests_accessesOf fits, ← within.plan,
        List.map_append, ← List.append_assoc, ← within.issued] at order
      exact (List.prefix_append _ _).trans order
  · cases write : handling.write with
    | false => rw [underway.consumed write]; exact Nat.zero_le _
    | true =>
      rcases underway.place with boundary | ⟨_, _, passed, _, _, within⟩
      · rw [boundary.consumed write]
        omega
      · rw [within.consumed write]
        omega
  · rw [reads]
    have readBeats := underway.readBeats
    cases write : handling.write with
    | true => simpa [write] using readBeats
    | false => simpa [write] using readBeats
  · rw [reads]
    split
    · exact Nat.le_refl _
    · omega
  · intro answered
    unfold Handling.IsAnswered at answered
    split at answered
    · exact absurd underway.writeResponses answered
    · rename_i read
      rw [reads, if_neg read] at answered
      omega

end

theorem Standing.faithful {bridge : Inbound} {handlings : List Handling}
    (regular : conversion.IsRegular) (inward : conversion.direction = .splitToSimple)
    (standing : Standing conversion origin bridge handlings) :
    ∀ handling ∈ handlings, handling.Faithful conversion origin := by
  cases standing with
  | resting _ _ faithful => exact faithful
  | working transfer underway faithful =>
    intro handling mem
    rcases List.mem_cons.mp mem with rfl | mem
    · exact underway.faithful (Span.of_fits regular inward origin underway.size _)
    · exact faithful handling mem

/-- Only what a bridge works on, and that it owes nothing meanwhile, matters to where it stands. -/
theorem Standing.congr {bridge next : Inbound} {handlings : List Handling}
    (standing : Standing conversion origin bridge handlings)
    (halted : next.isHalted = bridge.isHalted) (active : next.active = bridge.active)
    (inflight : next.inflight = bridge.inflight)
    (owedWrite : bridge.owedWrite = none → next.owedWrite = none)
    (owedRead : bridge.owedRead = none → next.owedRead = none) :
    Standing conversion origin next handlings := by
  cases standing with
  | resting idle empty faithful =>
    exact .resting (active.trans idle) (inflight.trans empty) faithful
  | working transfer underway faithful =>
    refine .working _ ⟨halted.trans underway.running, active.trans underway.active,
      underway.burst, underway.write, underway.size, underway.unfinished,
      owedWrite underway.owedWrite, fun write => owedRead (underway.owedRead write),
      underway.writeResponses, underway.consumed, underway.readBeats, ?_⟩ faithful
    rw [inflight]
    rcases underway.place with boundary | ⟨owed, within⟩
    · exact .inl boundary
    · exact .inr ⟨owedRead owed, within⟩

theorem Standing.exists_underway {bridge : Inbound} {handlings : List Handling}
    {transfer : Transfer} (standing : Standing conversion origin bridge handlings)
    (active : bridge.active = some transfer) :
    ∃ handling past, handlings = handling :: past ∧
      Underway conversion origin bridge handling transfer ∧
      ∀ handling ∈ past, handling.Faithful conversion origin := by
  cases standing with
  | resting idle _ _ => rw [idle] at active; cases active
  | working present underway faithful =>
    cases underway.active.symm.trans active
    exact ⟨_, _, rfl, underway, faithful⟩

theorem Standing.inflight_of_halted {bridge : Inbound} {handlings : List Handling}
    (standing : Standing conversion origin bridge handlings) (halted : bridge.isHalted = true) :
    bridge.inflight = none := by
  cases standing with
  | resting _ inflight _ => exact inflight
  | working transfer underway _ => exact absurd (underway.running.symm.trans halted) (by decide)

theorem Standing.active_of_halted {bridge : Inbound} {handlings : List Handling}
    (standing : Standing conversion origin bridge handlings) (halted : bridge.isHalted = true) :
    bridge.active = none := by
  cases standing with
  | resting idle _ _ => exact idle
  | working transfer underway _ => exact absurd (underway.running.symm.trans halted) (by decide)

end BusFabric.Bridge.Inbound
