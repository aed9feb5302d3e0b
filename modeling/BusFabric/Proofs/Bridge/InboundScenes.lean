import BusFabric.Proofs.Bridge.InboundCompletion

set_option autoImplicit false

namespace BusFabric.Bridge.Inbound

open Simple (Request Response)
open Split (AddressBeat ReadBeat WriteBeat WriteResponse)

variable {conversion : Conversion} {origin : Address}

/-- What a tick finds on the two links. -/
structure Scene where
  split : Split.Link
  simple : Simple.Link
  cycle : Nat

def Scene.around (scene : Scene) (bridge : Inbound) : Junction :=
  ⟨bridge, scene.split, scene.simple⟩

/-- The junction as the bridge sees it: the simple link carries its own request and the acknowledge
for it, and what others do there does not show. -/
def Junction.own (junction : Junction) : Junction :=
  { junction with
    simple :=
      match junction.bridge.inflight, junction.simple.response? with
      | none, _ => .idle
      | some access, none => .waiting access.request
      | some access, some response => .answered access.request response }

/-- The bridge and its log after some ticks, with any change of the links before each of them. -/
def face (bridge : Inbound) (log : Log) : List Scene → Inbound × Log
  | [] => (bridge, log)
  | scene :: scenes =>
    let before := scene.around bridge
    let after := (before.tick scene.cycle).1
    after.bridge.face (log.observe before.own after.own) scenes

/-- The bursts once a tick collected an acknowledge and took an address, before it goes on with the
newest. -/
def Log.entered (log : Log) (before after : Junction) : List Handling :=
  (Junction.accepted? before after).toList ++ log.handlings.modifyHead fun handling =>
    handling.settle before.simple.response?.toList
      (after.reads.drop before.reads.length) (after.writes.drop before.writes.length)

theorem Log.handlings_observe (log : Log) (before after : Junction) :
    (log.observe before after).handlings = (log.entered before after).modifyHead
      (·.engage (Junction.consumed? before after).toList
        (before.simple.raised? after.simple).toList) :=
  rfl

theorem absorb_inflight (bridge : Inbound) (response : Response) :
    (bridge.absorb response).inflight = none := by
  unfold absorb
  split
  · dsimp only
    split
    · exact finishBeat_inflight _ _
    · rfl
  · rfl

namespace Junction

variable {junction : Junction}

@[simp] theorem own_bridge (junction : Junction) : junction.own.bridge = junction.bridge := rfl

@[simp] theorem own_split (junction : Junction) : junction.own.split = junction.split := rfl

theorem own_request? (junction : Junction) :
    junction.own.simple.request? = junction.bridge.inflight.map (·.request) := by
  unfold own
  cases junction.bridge.inflight with
  | none => rfl
  | some access => cases junction.simple.response? <;> rfl

/-- There is nothing to hide on a link that carries the bridge's request and no other. -/
theorem own_of_request?
    (alone : junction.simple.request? = junction.bridge.inflight.map (·.request)) :
    junction.own = junction := by
  unfold own
  obtain ⟨⟨_, _, _, _, inflight, _, _, _, _⟩, _, simple⟩ := junction
  cases inflight <;> cases simple <;> simp_all [Simple.Link.request?, Simple.Link.response?]

theorem flush_flush (junction : Junction) : junction.flush.flush = junction.flush := by
  obtain ⟨⟨_, _, _, _, _, owedWrite, owedRead, _, _⟩, ⟨_, _, ⟨write⟩, _, ⟨read⟩⟩, _⟩ := junction
  cases owedWrite <;> cases owedRead <;> cases write <;> cases read <;> rfl

/-- An acknowledge for others only leaves the link. -/
theorem absorbed_of_idle (inflight : junction.bridge.inflight = none) (response : Response) :
    junction.absorbed response = { junction with simple := .idle } := by
  obtain ⟨⟨_, _, _, _, _, _, _, _, _⟩, _, _⟩ := junction
  cases inflight
  rfl

/-- A bridge that has driven what it can does not see whether others are answered. -/
theorem own_collect (driven : junction.flush = junction) :
    junction.collect.own = junction.own.collect := by
  cases answered : junction.simple.response? with
  | none =>
    have waits : junction.own.simple.response? = none := by
      unfold own
      rw [answered]
      cases junction.bridge.inflight <;> rfl
    rw [collect_of_none answered, collect_of_none waits]
  | some response =>
    rw [collect_of_some answered]
    cases inflight : junction.bridge.inflight with
    | none =>
      have hidden : junction.own = { junction with simple := .idle } := by
        unfold own
        rw [inflight]
      rw [absorbed_of_idle inflight, hidden, collect_of_none rfl]
      calc own (flush { junction with simple := .idle })
        _ = own { junction.flush with simple := .idle } := rfl
        _ = own { junction with simple := .idle } := by rw [driven]
        _ = { junction with simple := .idle } := by
          unfold own
          rw [inflight]
    | some access =>
      have seen : junction.own.simple.response? = some response := by
        unfold own
        rw [inflight, answered]
        rfl
      rw [collect_of_some seen]
      refine own_of_request? ?_
      show none = Option.map _ (junction.bridge.absorb response).inflight
      rw [absorb_inflight]
      rfl

theorem own_acceptAddress (junction : Junction) :
    junction.own.acceptAddress = (junction.acceptAddress.1.own, junction.acceptAddress.2) := by
  unfold acceptAddress
  dsimp only [own_bridge, own_split]
  split
  · rfl
  · split <;> rfl

theorem own_prepare (junction : Junction) : junction.own.prepare = junction.prepare.map own := by
  obtain ⟨⟨_, _, _, active, _, _, owedRead, _, _⟩, ⟨_, ⟨data⟩, _, _, _⟩, _⟩ := junction
  unfold own prepare
  dsimp only
  cases active with
  | none => rfl
  | some transfer =>
    dsimp only
    by_cases pending : (!transfer.pending.isEmpty) = true
    · rw [if_pos pending, if_pos pending]
      rfl
    · rw [if_neg pending, if_neg pending]
      by_cases write : transfer.write = true
      · rw [if_pos write, if_pos write]
        cases data with
        | none => rfl
        | some beat =>
          dsimp only
          cases nextWrite _ transfer beat <;> rfl
      · rw [if_neg write, if_neg write]
        cases owedRead <;> rfl

theorem own_entered (junction : Junction) :
    junction.own.entered = (junction.entered.1.own, junction.entered.2) := by
  have collected : junction.own.flush.collect = junction.flush.collect.own :=
    (own_collect junction.flush_flush).symm
  unfold entered
  rw [collected]
  generalize junction.flush.collect = settled
  show (if settled.bridge.active.isNone && settled.bridge.owedWrite.isNone &&
    settled.bridge.owedRead.isNone then settled.own.acceptAddress else (settled.own, none)) = _
  dsimp only
  split
  · exact own_acceptAddress settled
  · rfl

theorem own_advance {middle : Junction} (inflight : middle.bridge.inflight = none) :
    middle.advance.2 = middle.own.advance.2 ∧
      (middle.advance.1.own = middle.own.advance.1 ∨
        middle.advance.2 = none ∧ middle.own.prepare = .ok middle.advance.1.own) := by
  unfold advance
  rw [own_prepare]
  cases prepared : middle.prepare with
  | error kind => exact ⟨rfl, .inl rfl⟩
  | ok next =>
    refine ⟨rfl, ?_⟩
    have empty : next.bridge.inflight = none := (prepare_inflight prepared).trans inflight
    dsimp only [Except.map]
    cases simple : next.simple with
    | idle =>
      have alone : next.own = next := own_of_request? (by rw [simple, empty]; rfl)
      left
      rw [alone]
      apply own_of_request?
      rcases next.issue_cases with same | ⟨_, _, _, _, _, _, raised⟩
      · rw [same, simple, empty]
        rfl
      · rw [raised]
        rfl
    | waiting request | answered request response =>
      right
      have held : next.issue = next := by
        rcases next.issue_cases with same | ⟨_, _, _, _, _, idle, _⟩
        · exact same
        · rw [simple] at idle
          cases idle
      rw [held]
      exact ⟨rfl, rfl⟩

/-- Others at the simple link do not change what a bridge makes of a tick, except that they may keep
it from raising a request. -/
theorem own_step (junction : Junction) :
    junction.step.2 = junction.own.step.2 ∧
      (junction.step.1.own = junction.own.step.1 ∨
        junction.step.2 = none ∧ junction.own.entered.1.bridge.inflight = none ∧
          junction.own.entered.1.prepare = .ok junction.step.1.own) := by
  rw [step_eq, step_eq, own_entered]
  generalize junction.entered = entered
  obtain ⟨middle, fault⟩ := entered
  show _ = Prod.snd (if fault.isSome || middle.bridge.inflight.isSome then _ else _) ∧
    (_ = Prod.fst (if fault.isSome || middle.bridge.inflight.isSome then _ else _) ∨ _)
  dsimp only
  split
  · exact ⟨rfl, .inl rfl⟩
  · rename_i goes
    simp only [Bool.or_eq_true, not_or, Bool.not_eq_true, Option.isSome_eq_false_iff,
      Option.isNone_iff_eq_none] at goes
    obtain ⟨same, kinds⟩ := own_advance goes.2
    exact ⟨same, kinds.imp_right fun ⟨quiet, prepared⟩ => ⟨quiet, goes.2, prepared⟩⟩

end Junction

/-- A log fits a bridge, whatever is on its links. -/
structure Log.Follows (conversion : Conversion) (origin : Address) (log : Log)
    (bridge : Inbound) : Prop where
  sound : ∀ split simple,
    Sound conversion origin (Junction.own ⟨bridge, split, simple⟩) log.handlings
  tidy : ∀ split simple, Tidy (Junction.own ⟨bridge, split, simple⟩) log.handlings

theorem Log.Follows.of_own {log : Log} {junction : Junction}
    (sound : Sound conversion origin junction.own log.handlings)
    (tidy : Tidy junction.own log.handlings) : log.Follows conversion origin junction.bridge where
  sound _ _ := ⟨sound.sameConversion, sound.sameOrigin, sound.standing, Junction.own_request? _⟩
  tidy _ _ := tidy.congr rfl

theorem Log.Follows.fresh (port : PortId) (conversion : Conversion) (origin : Address) :
    Log.Follows conversion origin {} { port, conversion, origin } := by
  have tidy : Tidy (Junction.fresh port conversion origin).own ({} : Log).handlings :=
    ⟨.inl rfl, nofun, fun _ _ => nofun, nofun⟩
  have accounts := Log.Accounts.fresh port conversion origin
  exact .of_own accounts.sound tidy

section

variable {junction middle after : Junction} {log : Log} {reads : List ReadBeat}
  {writes : List WriteResponse}

theorem Junction.Stages.entered_eq
    (stages : Junction.Stages conversion origin log junction middle after reads writes) :
    log.entered junction after =
      (Junction.accepted? junction.flush.collect middle).toList ++
        log.handlings.modifyHead (·.settle junction.simple.response?.toList reads writes) := by
  unfold Log.entered
  rw [stages.moreReads, stages.moreWrites, List.drop_left, List.drop_left, stages.address]

/-- However a bridge goes on with a burst, its log goes along. -/
theorem Junction.Stages.follows (regular : conversion.IsRegular)
    (inward : conversion.direction = .splitToSimple)
    (stages : Junction.Stages conversion origin log junction middle after reads writes)
    (tidy : Tidy middle (log.entered junction after))
    (advances : after = middle ∨ middle.bridge.inflight = none ∧
      (after = middle.advance.1 ∨ middle.prepare = .ok after)) :
    Sound conversion origin after (log.observe junction after).handlings ∧
      Tidy after (log.observe junction after).handlings := by
  have sound := stages.accepted
  rw [stages.entered_eq] at tidy
  rw [stages.observed]
  rcases advances with rfl | ⟨inflight, rfl | prepared⟩
  · rw [Junction.consumed?_self, Simple.Link.raised?_self, Option.toList_none, Option.toList_none,
      modifyHead_engage_nil]
    exact ⟨sound, tidy⟩
  · exact ⟨sound.advance regular inward inflight, tidy.advance sound⟩
  · rw [Junction.prepare_simple prepared, Simple.Link.raised?_self, Option.toList_none]
    exact ⟨sound.prepare regular inward inflight prepared, tidy.prepare sound prepared⟩

/-- What a bridge goes on with in a tick, as it sees it itself. -/
theorem Junction.own_step_cases (junction : Junction) :
    junction.step.1.own = junction.own.entered.1 ∨
      junction.own.entered.1.bridge.inflight = none ∧
        (junction.step.1.own = junction.own.entered.1.advance.1 ∨
          junction.own.entered.1.prepare = .ok junction.step.1.own) := by
  rcases junction.own_step.2 with same | ⟨_, inflight, prepared⟩
  · rw [same]
    exact junction.own.step_cases.2.imp_right fun both => ⟨both.1, .inl both.2⟩
  · exact .inr ⟨inflight, .inr prepared⟩

theorem Junction.own_step_advances (junction : Junction) :
    Junction.Advances junction.own.entered.1 junction.step.1.own := by
  rcases junction.own_step.2 with same | ⟨_, _, prepared⟩
  · rw [same]
    exact junction.own.step_advances
  · exact Junction.prepare_advances prepared

end

/-- A bridge that gave up sees acknowledges off its link, and does nothing else. -/
theorem Junction.tick_of_halted (junction : Junction) (halted : junction.bridge.isHalted = true)
    (inflight : junction.bridge.inflight = none) (cycle : Nat) :
    junction.tick cycle = ({ junction with simple := junction.simple.completed }, none) := by
  obtain ⟨⟨_, _, _, _, _, _, _, _, _⟩, _, simple⟩ := junction
  cases halted
  cases inflight
  cases simple <;> rfl

theorem Junction.tick_of_running (junction : Junction) (running : junction.bridge.isHalted = false)
    (cycle : Nat) :
    junction.tick cycle = (junction.step.1,
      junction.step.2.map fun kind => ⟨junction.step.1.bridge.port, cycle, kind⟩) := by
  unfold Junction.tick
  rw [running]
  rfl

section

variable {log : Log} {bridge : Inbound} (regular : conversion.IsRegular)
  (inward : conversion.direction = .splitToSimple)
  (follows : log.Follows conversion origin bridge) (scene : Scene)

include regular inward follows

theorem Log.Follows.stages (running : bridge.isHalted = false) :
    let before := scene.around bridge
    let middle := before.own.entered.1
    ∃ reads writes,
      Junction.Stages conversion origin log before.own middle before.step.1.own reads writes ∧
        Tidy middle (log.entered before.own before.step.1.own) := by
  intro before middle
  have sound := follows.sound scene.split scene.simple
  have frame := before.own_step_advances
  obtain ⟨reads, writes, enters⟩ := sound.stages regular inward running
  have stages := enters before.step.1.own frame
  obtain ⟨_, _, tidy, _⟩ :=
    stages.tidy regular inward frame sound running (follows.tidy scene.split scene.simple)
  rw [← stages.entered_eq] at tidy
  exact ⟨reads, writes, stages, tidy⟩

/-- A tick keeps the log in step with the bridge, whatever is on the links. -/
theorem Log.Follows.tick :
    let before := scene.around bridge
    let after := (before.tick scene.cycle).1
    (log.observe before.own after.own).Follows conversion origin after.bridge := by
  intro before after
  cases halted : bridge.isHalted with
  | true =>
    have sound : Sound conversion origin before.own log.handlings :=
      follows.sound scene.split scene.simple
    have inflight : bridge.inflight = none := sound.standing.inflight_of_halted halted
    have still : after = { before with simple := before.simple.completed } := by
      show (before.tick scene.cycle).1 = _
      rw [before.tick_of_halted halted inflight]
    have same : after.own = before.own := by
      rw [still]
      unfold Junction.own
      rw [show before.bridge.inflight = none from inflight]
    apply Log.Follows.of_own
    · rw [same, (sound.drain halted).2]
      exact sound
    · rw [same, (sound.drain halted).2]
      exact follows.tidy scene.split scene.simple
  | false =>
    have same : after = before.step.1 := by
      show (before.tick scene.cycle).1 = _
      rw [before.tick_of_running halted]
    obtain ⟨reads, writes, stages, tidy⟩ := follows.stages regular inward scene halted
    rw [same]
    have both := stages.follows regular inward tidy before.own_step_cases
    exact .of_own both.1 both.2

theorem Log.Follows.face (scenes : List Scene) :
    (bridge.face log scenes).2.Follows conversion origin (bridge.face log scenes).1 := by
  induction scenes generalizing bridge log with
  | nil => exact follows
  | cons scene rest ih => exact ih (follows.tick regular inward scene)

end

end BusFabric.Bridge.Inbound
