import BusFabric.Proofs.Bridge.InboundHalts
import BusFabric.Proofs.Bridge.InboundScenes

set_option autoImplicit false

namespace BusFabric.Bridge.Inbound

open Split (AddressBeat ReadBeat WriteBeat WriteResponse)

variable {conversion : Conversion} {origin : Address}

namespace Handling

variable (conversion : Conversion) (origin : Address)

/-- All requests of the data beats so far were raised and acknowledged. -/
structure IsSettled (handling : Handling) : Prop where
  issued : handling.issued = handling.requestsBefore conversion origin handling.consumed.length
  answers : handling.answers.length = handling.issued.length

structure AwaitsData (handling : Handling) : Prop where
  write : handling.write = true
  unfinished : handling.consumed.length < handling.burst.beats
  settled : handling.IsSettled conversion origin

end Handling

/-- The newest burst awaits data, and the data at hand is marked wrongly: as the last beat although
more are to come, or not as the last although it is. -/
def IsMismarked (conversion : Conversion) (origin : Address) (handlings : List Handling)
    (data? : Option WriteBeat) : Prop :=
  ∃ handling data, handlings.head? = some handling ∧ handling.AwaitsData conversion origin ∧
    data? = some data ∧
      data.last ≠ decide (handling.consumed.length + 1 = handling.burst.beats)

theorem begun_isHalted (bridge : Inbound) (burst : AddressBeat) (write preferRead : Bool) :
    (bridge.begun burst write preferRead).isHalted =
      (bridge.isHalted || (bridge.violation? burst).isSome) := by
  unfold begun
  cases bridge.violation? burst with
  | none => exact (Bool.or_false _).symm
  | some kind => exact (Bool.or_true _).symm

section

variable {junction : Junction} {handlings : List Handling}

/-- Taking an address is a fault just when its burst does not suit the port. -/
theorem Junction.acceptAddress_fault_iff (running : junction.bridge.isHalted = false)
    (some_ : junction.bridge.conversion.splitBytes ≠ 0) :
    junction.acceptAddress.2.isSome = true ↔
      ∃ handling, Junction.accepted? junction junction.acceptAddress.1 = some handling ∧
        ¬ handling.burst.Suits junction.bridge.conversion.source
          junction.bridge.conversion.splitBytes := by
  have halts := junction.acceptAddress_reports.halts
  rw [running, Bool.false_or] at halts
  have faulty (burst : AddressBeat) (write preferRead : Bool) :
      (junction.bridge.begun burst write preferRead).isHalted = true ↔
        ¬ burst.Suits junction.bridge.conversion.source
          junction.bridge.conversion.splitBytes := by
    rw [begun_isHalted, running, Bool.false_or, ← violation?_eq_none_iff some_]
    cases junction.bridge.violation? burst <;> simp
  rw [← halts]
  rcases junction.acceptAddress_cases with same | ⟨burst, waiting, taken⟩ | ⟨burst, waiting, taken⟩
  · rw [same, Junction.accepted?_eq_none rfl rfl, running]
    exact ⟨nofun, nofun⟩
  · rw [taken, Junction.accepted?_write waiting rfl]
    simp [faulty]
  · have seen : Junction.accepted? junction junction.acceptAddress.1 =
        some { burst, write := false } := by
      refine Junction.accepted?_read ?_ waiting ?_ <;> rw [taken]
      rfl
    rw [seen, taken]
    simp [faulty]

/-- A data beat is refused for its last-beat mark, except on a lite port. -/
theorem nextWrite_error_iff (bridge : Inbound) (transfer : Transfer) (data : WriteBeat) :
    (∃ kind, bridge.nextWrite transfer data = .error kind) ↔
      bridge.conversion.source ≠ .wideSplitLite ∧
        data.last ≠ decide (transfer.beat + 1 = transfer.burst.beats) := by
  unfold nextWrite isLite
  dsimp only
  by_cases lite : bridge.conversion.source = .wideSplitLite
  · simp [lite]
  · by_cases final : transfer.beat + 1 = transfer.burst.beats <;> cases data.last <;>
      simp [lite, final]

/-- A burst that awaits data is one that the bridge is at, between two data beats. -/
theorem Standing.boundary_of_awaits (regular : conversion.IsRegular)
    (inward : conversion.direction = .splitToSimple)
    (standing : Standing conversion origin junction.bridge handlings)
    (tidy : Tidy junction handlings) (running : junction.bridge.isHalted = false)
    {handling : Handling} (newest : handlings.head? = some handling)
    (awaits : handling.AwaitsData conversion origin) :
    ∃ transfer, Underway conversion origin junction.bridge handling transfer ∧
      Boundary conversion origin handling transfer junction.bridge.inflight := by
  cases standing with
  | resting idle _ _ =>
    have complete := tidy.idle idle running handling (List.mem_of_head? newest)
    unfold Handling.IsComplete at complete
    rw [if_pos awaits.write] at complete
    have unfinished := awaits.unfinished
    omega
  | working transfer underway _ =>
    cases newest
    refine ⟨transfer, underway, ?_⟩
    rcases underway.place with boundary | ⟨_, more, passed, earlier, replies, within⟩
    · exact boundary
    · -- inside a data beat, a request of it is still to be acknowledged
      have fits := Span.of_fits regular inward origin underway.size transfer.beat
      have planned := congrArg List.length within.plan
      have left : 0 < (junction.bridge.inflight.toList ++ transfer.pending).length :=
        List.length_pos_iff.mpr more
      have raised := awaits.settled.issued
      have answered := awaits.settled.answers
      rw [within.consumed awaits.write, Handling.requestsBefore_succ,
        ← handling.requests_accessesOf fits] at raised
      rw [raised, within.answers, List.length_append, List.length_append, List.length_map,
        within.earlierLength, within.replyLength, ← planned] at answered
      simp only [List.length_append] at answered left
      omega

theorem Junction.prepare_error_iff (junction : Junction) :
    (∃ kind, junction.prepare = .error kind) ↔
      ∃ transfer data, junction.bridge.active = some transfer ∧ transfer.pending = [] ∧
        transfer.write = true ∧ junction.split.writeData.beat = some data ∧
          ∃ kind, junction.bridge.nextWrite transfer data = .error kind := by
  unfold prepare
  cases active : junction.bridge.active with
  | none => simp
  | some transfer =>
    by_cases pending : transfer.pending = []
    · cases write : transfer.write with
      | false => by_cases owed : junction.bridge.owedRead.isSome = true <;> simp [pending, write, owed]
      | true =>
        cases waiting : junction.split.writeData.beat with
        | none => simp [pending, write]
        | some data =>
          cases planned : junction.bridge.nextWrite transfer data <;>
            simp [pending, write, planned, Except.map]
    · simp [pending]

/-- A bridge that could go on halts just at data that is marked wrongly. -/
theorem Sound.prepare_error_iff (regular : conversion.IsRegular)
    (inward : conversion.direction = .splitToSimple)
    (sound : Sound conversion origin junction handlings) (tidy : Tidy junction handlings)
    (running : junction.bridge.isHalted = false) (inflight : junction.bridge.inflight = none) :
    (∃ kind, junction.prepare = .error kind) ↔ conversion.source ≠ .wideSplitLite ∧
      IsMismarked conversion origin handlings junction.split.writeData.beat := by
  rw [junction.prepare_error_iff]
  constructor
  · rintro ⟨transfer, data, active, pending, write, waiting, refused⟩
    obtain ⟨full, wrong⟩ := (junction.bridge.nextWrite_error_iff transfer data).mp refused
    rw [sound.sameConversion] at full
    obtain ⟨handling, past, rfl, underway, _⟩ := sound.standing.exists_underway active
    have written := underway.write.symm.trans write
    rcases underway.place with boundary | ⟨_, more, _⟩
    · have consumed := boundary.consumed written
      refine ⟨full, handling, data, rfl, ⟨written, ?_, ?_, boundary.answers⟩, waiting, ?_⟩
      · rw [consumed]
        exact underway.unfinished
      · rw [consumed]
        exact boundary.issued
      · rw [consumed, ← underway.burst]
        exact wrong
    · rw [inflight, pending] at more
      exact absurd rfl more
  · rintro ⟨full, handling, data, newest, awaits, waiting, wrong⟩
    obtain ⟨transfer, underway, boundary⟩ :=
      sound.standing.boundary_of_awaits regular inward tidy running newest awaits
    refine ⟨transfer, data, underway.active, boundary.pending, underway.write.trans awaits.write,
      waiting, (junction.bridge.nextWrite_error_iff transfer data).mpr ⟨?_, ?_⟩⟩
    · rw [sound.sameConversion]
      exact full
    · rw [← boundary.consumed awaits.write, underway.burst]
      exact wrong

theorem Junction.advance_fault_iff (junction : Junction) :
    junction.advance.2.isSome = true ↔ ∃ kind, junction.prepare = .error kind := by
  unfold advance
  cases junction.prepare <;> simp

theorem Junction.entered_reports (junction : Junction) : Reports junction junction.entered := by
  have collected := junction.flush_reports.trans junction.flush.collect_reports
  rcases junction.entered_cases with same | ⟨_, _, _, same⟩
  · rw [same]
    exact ⟨collected.port, collected.conversion, collected.halts⟩
  · rw [same]
    exact collected.trans junction.flush.collect.acceptAddress_reports

theorem Junction.entered_fault_iff (regular : conversion.IsRegular)
    (same : junction.bridge.conversion = conversion) (running : junction.bridge.isHalted = false) :
    junction.entered.2.isSome = true ↔
      ∃ handling, Junction.accepted? junction.flush.collect junction.entered.1 = some handling ∧
        ¬ handling.burst.Suits conversion.source conversion.splitBytes := by
  have collected := junction.flush_reports.trans junction.flush.collect_reports
  have conversions := collected.conversion.trans same
  have goes : junction.flush.collect.bridge.isHalted = false := by
    rw [collected.halts, running]
    rfl
  rcases junction.entered_cases with entered | ⟨_, _, _, entered⟩
  · rw [entered, Junction.accepted?_eq_none rfl rfl]
    exact ⟨nofun, nofun⟩
  · have some_ : junction.flush.collect.bridge.conversion.splitBytes ≠ 0 := by
      rw [conversions]
      exact Nat.ne_of_gt regular.splitBytes.positive
    rw [entered, Junction.acceptAddress_fault_iff goes some_, conversions]

theorem Junction.Stages.fault_iff {log : Log} {after : Junction} {reads : List ReadBeat}
    {writes : List WriteResponse} (regular : conversion.IsRegular)
    (inward : conversion.direction = .splitToSimple)
    (stages : Junction.Stages conversion origin log junction junction.entered.1 after reads writes)
    (tidy : Tidy junction.entered.1 (log.entered junction after))
    (same : junction.bridge.conversion = conversion)
    (running : junction.bridge.isHalted = false) :
    junction.step.2.isSome = true ↔
      (∃ handling, Junction.accepted? junction after = some handling ∧
        ¬ handling.burst.Suits conversion.source conversion.splitBytes) ∨
      conversion.source ≠ .wideSplitLite ∧
        IsMismarked conversion origin (log.entered junction after)
          junction.split.writeData.beat := by
  have unsuited := junction.entered_fault_iff regular same running
  have halts := junction.entered_reports.halts
  have sound := stages.accepted
  rw [← stages.entered_eq] at sound
  rw [stages.address, step_eq]
  rw [running, Bool.false_or] at halts
  by_cases fault : junction.entered.2.isSome = true
  · rw [if_pos (by rw [fault]; rfl)]
    exact ⟨fun _ => .inl (unsuited.mp fault), fun _ => fault⟩
  · have goes : junction.entered.1.bridge.isHalted = false := by
      rw [halts]
      exact Bool.eq_false_iff.mpr fault
    rw [← unsuited, or_iff_right fault, ← junction.entered_writeData]
    cases inflight : junction.entered.1.bridge.inflight with
    | none =>
      rw [if_neg (by simpa using fault), Junction.advance_fault_iff]
      exact sound.prepare_error_iff regular inward tidy goes inflight
    | some access =>
      -- whatever is marked wrongly, it is not due while an access is in flight
      rw [if_pos (by rw [Option.isSome_some, Bool.or_true])]
      refine ⟨fun faulty => absurd faulty fault, fun ⟨_, handling, _, newest, awaits, _⟩ => ?_⟩
      obtain ⟨_, _, boundary⟩ :=
        sound.standing.boundary_of_awaits regular inward tidy goes newest awaits
      rw [boundary.inflight] at inflight
      cases inflight

theorem Junction.fault_cases (fault : junction.step.2.isSome = true) :
    (junction.entered.2.isSome = true ∧ junction.step.1 = junction.entered.1) ∨
      (∃ kind, junction.entered.1.prepare = .error kind) ∧
        junction.step.1 = junction.entered.1.halt := by
  rw [step_eq] at fault ⊢
  by_cases stops : (junction.entered.2.isSome || junction.entered.1.bridge.inflight.isSome) = true
  · rw [if_pos stops] at fault ⊢
    exact .inl ⟨fault, rfl⟩
  · rw [if_neg stops] at fault ⊢
    obtain ⟨kind, refused⟩ := junction.entered.1.advance_fault_iff.mp fault
    refine .inr ⟨⟨kind, refused⟩, ?_⟩
    unfold advance
    rw [refused]

/-- No write data is taken and no request is raised in the tick of a fault. -/
theorem Junction.fault_leaves (fault : junction.step.2.isSome = true) :
    junction.step.1.split.writeData = junction.split.writeData ∧
      junction.step.1.simple = junction.simple.completed := by
  have data := junction.entered_writeData
  have link := junction.entered_accepts.simple.trans junction.flush.collect_simple
  rcases junction.fault_cases fault with ⟨_, same⟩ | ⟨_, same⟩
  · rw [same]
    exact ⟨data, link⟩
  · rw [same]
    exact ⟨data, link⟩

/-- A bridge owes nothing when it gives up: it takes no address before all is delivered, and a write
owes its response only when all its data beats are done. -/
theorem Junction.fault_owes
    (sound : Sound conversion origin junction.entered.1 handlings)
    (fault : junction.step.2.isSome = true) :
    junction.step.1.bridge.owedWrite = none ∧ junction.step.1.bridge.owedRead = none := by
  rcases junction.fault_cases fault with ⟨faulty, same⟩ | ⟨refused, same⟩
  · rw [same]
    rcases junction.entered_cases with entered | ⟨_, owedWrite, owedRead, entered⟩
    · rw [entered] at faulty
      cases faulty
    · have holds := junction.flush.collect.acceptAddress_holds
      rw [entered]
      exact ⟨holds.owedWrite.trans owedWrite, holds.owedRead.trans owedRead⟩
  · obtain ⟨transfer, _, active, _, write, _⟩ := junction.entered.1.prepare_error_iff.mp refused
    rw [same]
    obtain ⟨handling, past, rfl, underway, _⟩ := sound.standing.exists_underway active
    exact ⟨underway.owedWrite, underway.owedRead (underway.write.symm.trans write)⟩

end

/-- What surrounds a bridge that gave up does not reach it. -/
theorem face_of_halted {bridge : Inbound} (halted : bridge.isHalted = true)
    (inflight : bridge.inflight = none) (log : Log) (scenes : List Scene) :
    (bridge.face log scenes).1 = bridge := by
  induction scenes generalizing log with
  | nil => rfl
  | cons scene rest ih =>
    have still := (scene.around bridge).tick_of_halted halted inflight
    unfold face
    dsimp only
    rw [still]
    exact ih _

/-- How a bridge gives up between two states, and goes on afterwards. -/
structure Junction.GivesUp (conversion : Conversion) (origin : Address) (log : Log)
    (before after : Junction) : Prop where
  halted : after.bridge.isHalted = true
  idle : after.bridge.isIdle = true
  /-- No request is left on the simple link, unless others have one there. -/
  simple : after.simple = .idle ∨ before.bridge.inflight = none ∧ after.simple = before.simple
  /-- Write data stays in its channel, and none is written. -/
  writeData : after.split.writeData = before.split.writeData
  observed : (log.observe before.own after.own).handlings = log.entered before.own after.own
  /-- What the data beats of the burst asked for up to then is acknowledged. -/
  settled : ∀ handling ∈ (log.entered before.own after.own).head?,
    handling.IsSettled conversion origin
  /-- Whatever happens later, the bridge stays where it is, takes nothing and drives nothing. -/
  later : ∀ (scenes : List Scene) (next : Scene),
    let (bridge, _) := after.bridge.face (log.observe before.own after.own) scenes
    bridge.isHalted = true ∧ bridge.isIdle = true ∧
      (next.around bridge).tick next.cycle =
        ({ next.around bridge with simple := next.simple.completed }, none)

section

variable {log : Log} {bridge : Inbound} (regular : conversion.IsRegular)
  (inward : conversion.direction = .splitToSimple)
  (follows : log.Follows conversion origin bridge) (scene : Scene)
  (running : bridge.isHalted = false)

include regular inward follows running

theorem Log.Follows.step_fault_iff :
    let before := scene.around bridge
    let after := before.step.1
    before.step.2.isSome = true ↔
      (∃ handling, Junction.accepted? before after = some handling ∧
        ¬ handling.burst.Suits conversion.source conversion.splitBytes) ∨
      conversion.source ≠ .wideSplitLite ∧
        IsMismarked conversion origin (log.entered before.own after.own)
          scene.split.writeData.beat := by
  intro before after
  obtain ⟨_, _, stages, tidy⟩ := follows.stages regular inward scene running
  rw [before.own_step.1]
  have faulty := stages.fault_iff regular inward tidy
    (follows.sound scene.split scene.simple).sameConversion running
  exact faulty

theorem Log.Follows.settled_of_fault :
    let before := scene.around bridge
    let after := before.step.1
    before.step.2.isSome = true → ∀ handling ∈ (log.entered before.own after.own).head?,
      handling.IsSettled conversion origin := by
  intro before after fault handling newest
  rcases (follows.step_fault_iff regular inward scene running).mp fault with
    ⟨fresh, accepted, _⟩ | ⟨_, awaiting, _, same, awaits, _⟩
  · obtain ⟨burst, write, rfl⟩ := Junction.accepted?_eq_some accepted
    have first : (log.entered before.own after.own).head? = some { burst, write } := by
      unfold Log.entered
      rw [show Junction.accepted? before.own after.own = some { burst, write } from accepted]
      rfl
    rw [first] at newest
    cases newest
    exact ⟨rfl, rfl⟩
  · rw [same] at newest
    cases newest
    exact awaits.settled

theorem Log.Follows.step_givesUp :
    let before := scene.around bridge
    let after := before.step.1
    before.step.2.isSome = true → Junction.GivesUp conversion origin log before after := by
  intro before after fault
  have sameFault := before.own_step.1
  have ownFault : before.own.step.2.isSome = true := sameFault ▸ fault
  have same : after.own = before.own.step.1 := by
    rcases before.own_step.2 with same | ⟨quiet, _⟩
    · exact same
    · rw [quiet] at fault
      cases fault
  obtain ⟨_, _, stages, tidy⟩ := follows.stages regular inward scene running
  have sound := (stages.follows regular inward tidy before.own_step_cases).1
  -- the bridge halted, so it rests
  have halted : after.bridge.isHalted = true := by
    have halts := before.step_reports.halts
    rw [fault, Bool.or_true] at halts
    exact halts
  have active : after.bridge.active = none := sound.standing.active_of_halted halted
  have inflight : after.bridge.inflight = none := sound.standing.inflight_of_halted halted
  obtain ⟨owedWrite, owedRead⟩ := before.own.fault_owes stages.accepted ownFault
  rw [← same] at owedWrite owedRead
  have idle : after.bridge.isIdle = true := by
    unfold isIdle
    rw [active, inflight, show after.bridge.owedWrite = none from owedWrite,
      show after.bridge.owedRead = none from owedRead]
    rfl
  obtain ⟨writeData, link⟩ := before.fault_leaves fault
  obtain ⟨ownData, ownLink⟩ := before.own.fault_leaves ownFault
  rw [← same] at ownData ownLink
  refine ⟨halted, idle, ?_, writeData, ?_, ?_, ?_⟩
  · rw [link]
    cases simple : before.simple with
    | idle | answered _ _ => exact .inl rfl
    | waiting request =>
      refine .inr ⟨?_, rfl⟩
      cases asks : before.bridge.inflight with
      | none => rfl
      | some access =>
        -- a request of its own that waits would still be up
        have held : before.own.simple = .waiting access.request := by
          unfold Junction.own
          rw [asks, simple]
          rfl
        have none_ := after.own_request?
        rw [ownLink, held, inflight] at none_
        cases none_
  · rw [Log.handlings_observe, Junction.consumed?_eq_none ownData, ownLink,
      Simple.Link.raised?_completed, Option.toList_none, Option.toList_none, modifyHead_engage_nil]
  · exact follows.settled_of_fault regular inward scene running fault
  · intro scenes next
    have stays := face_of_halted halted inflight (log.observe before.own after.own) scenes
    dsimp only
    rw [stays]
    exact ⟨halted, idle,
      (next.around after.bridge).tick_of_halted halted inflight next.cycle⟩

end

section

variable {log : Log} {bridge : Inbound} (regular : conversion.IsRegular)
  (inward : conversion.direction = .splitToSimple)
  (follows : log.Follows conversion origin bridge) (scene : Scene)

include regular inward follows

/-- A tick reports a fault just when an address or write data is malformed, and none once the bridge
gave up. -/
theorem Log.Follows.fault_iff :
    let before := scene.around bridge
    let after := (before.tick scene.cycle).1
    (before.tick scene.cycle).2.isSome = true ↔
      (∃ handling, Junction.accepted? before after = some handling ∧
        ¬ handling.burst.Suits conversion.source conversion.splitBytes) ∨
      bridge.isHalted = false ∧ conversion.source ≠ .wideSplitLite ∧
        IsMismarked conversion origin (log.entered before.own after.own)
          scene.split.writeData.beat := by
  intro before after
  cases halted : bridge.isHalted with
  | true =>
    have inflight := (follows.sound scene.split scene.simple).standing.inflight_of_halted halted
    have still := before.tick_of_halted halted inflight scene.cycle
    have nothing : Junction.accepted? before after = none :=
      Junction.accepted?_eq_none (by rw [show after = _ from congrArg Prod.fst still])
        (by rw [show after = _ from congrArg Prod.fst still])
    rw [still, nothing]
    refine ⟨nofun, ?_⟩
    rintro (⟨_, taken, _⟩ | ⟨running, _⟩)
    · cases taken
    · cases running
  | false =>
    have stepped := before.tick_of_running halted scene.cycle
    have same : after = before.step.1 := congrArg Prod.fst stepped
    rw [same, stepped, Option.isSome_map]
    exact (follows.step_fault_iff regular inward scene halted).trans
      (or_congr_right ⟨fun wrong => ⟨rfl, wrong⟩, And.right⟩)

theorem Log.Follows.givesUp :
    let before := scene.around bridge
    let after := (before.tick scene.cycle).1
    (before.tick scene.cycle).2.isSome = true →
      Junction.GivesUp conversion origin log before after := by
  intro before after fault
  obtain ⟨reported, there⟩ := Option.isSome_iff_exists.mp fault
  have running := ((before.tick_reports scene.cycle).2 reported there).2
  have stepped := before.tick_of_running running scene.cycle
  have same : after = before.step.1 := congrArg Prod.fst stepped
  rw [stepped, Option.isSome_map] at fault
  rw [same]
  exact follows.step_givesUp regular inward scene running fault

end

/-- Whatever happens around an inbound bridge, a tick reports a fault just when it takes a burst
that the port cannot carry, or the bridge runs and the write data that is due is marked wrongly. The
bridge then has given up between two data beats, with nothing left to do, for good. -/
theorem halts_on_malformed_traffic {source target : Protocol} {sourceWidth targetWidth : Nat}
    {conversion : Conversion}
    (built : Conversion.between source sourceWidth target targetWidth = .ok conversion)
    (inward : conversion.direction = .splitToSimple) (port : PortId) (origin : Address)
    (scenes : List Scene) (scene : Scene) :
    let run := Inbound.face { port, conversion, origin } {} scenes
    let before := scene.around run.1
    let after := (before.tick scene.cycle).1
    let fault := (before.tick scene.cycle).2
    (fault.isSome = true ↔
      (∃ handling, Junction.accepted? before after = some handling ∧
        ¬ handling.burst.Suits conversion.source conversion.splitBytes) ∨
      run.1.isHalted = false ∧ conversion.source ≠ .wideSplitLite ∧
        IsMismarked conversion origin (run.2.entered before.own after.own)
          scene.split.writeData.beat) ∧
    (fault.isSome = true → Junction.GivesUp conversion origin run.2 before after) := by
  have regular := Conversion.isRegular_of_between built
  have follows := (Log.Follows.fresh port conversion origin).face regular inward scenes
  exact ⟨follows.fault_iff regular inward scene, follows.givesUp regular inward scene⟩

/-- The second data beat of a write is not marked as its last, while another master used the simple
link at first: the first beat was written by then, and the second is a fault. -/
theorem unmarked_second_beat_halts :
    let conversion : Conversion := ⟨.wideSplit, 8, .simpleSync, 8⟩
    let scenes : List Scene :=
      [{ split :=
          { writeAddress := ⟨some (.incr 7 0x10 0 2)⟩, writeData := ⟨some ⟨0x11, 1, false⟩⟩ }
         simple := .waiting (.read 0x40 1)
         cycle := 0 },
        { split := {}, simple := .answered (.read 0x40 1) (.ok 0x33), cycle := 1 }]
    let scene : Scene :=
      { split := { writeData := ⟨some ⟨0x22, 1, false⟩⟩ }
        simple := .answered ⟨0x10, 0x11, 1, true⟩ (.ok 0)
        cycle := 2 }
    let run := Inbound.face { port := ⟨1⟩, conversion, origin := 0 } {} scenes
    let before := scene.around run.1
    let after := (before.tick scene.cycle).1
    let fault := (before.tick scene.cycle).2
    Conversion.between .wideSplit 8 .simpleSync 8 = .ok conversion ∧
      conversion.direction = .splitToSimple ∧
      fault = some ⟨⟨1⟩, 2, .missingLast 1⟩ ∧
      (fault.isSome = true ↔
        (∃ handling, Junction.accepted? before after = some handling ∧
          ¬ handling.burst.Suits conversion.source conversion.splitBytes) ∨
        run.1.isHalted = false ∧ conversion.source ≠ .wideSplitLite ∧
          IsMismarked conversion 0 (run.2.entered before.own after.own)
            scene.split.writeData.beat) ∧
      (fault.isSome = true → Junction.GivesUp conversion 0 run.2 before after) := by
  intro conversion scenes scene
  have built : Conversion.between .wideSplit 8 .simpleSync 8 = .ok conversion := rfl
  exact ⟨built, rfl, by decide, halts_on_malformed_traffic built rfl ⟨1⟩ 0 scenes scene⟩

end BusFabric.Bridge.Inbound
