import BusFabric.Proofs.Bridge.OutboundExchanges

set_option autoImplicit false

namespace BusFabric.Bridge

open Simple (Request Response)
open Split (AddressBeat Channel ReadBeat Status WriteBeat WriteResponse)

namespace Outbound

/-! ### The log of a run -/

/-- How the bridge, its simple link and the exchanges so far stand to each other between two
moves. -/
inductive Standing (bridge : Outbound) (junction : Junction) : List Exchange → Prop
  | resting {past : List Exchange} (idle : junction.bridge.active = none)
      (settled : junction.simple.awaiting? = none)
      (closed : ∀ exchange ∈ past, exchange.InOrder bridge ∧ exchange.isOpen = false) :
      Standing bridge junction past
  | waiting {request : Request} {past : List Exchange} (idle : junction.bridge.active = none)
      (waits : junction.simple = .waiting request)
      (closed : ∀ exchange ∈ past, exchange.InOrder bridge ∧ exchange.isOpen = false) :
      Standing bridge junction ({ request } :: past)
  | working {plan carrier : Carrier} {exchange : Exchange} {past : List Exchange}
      (running : junction.bridge.isHalted = false) (active : junction.bridge.active = some carrier)
      (waits : junction.simple = .waiting exchange.request)
      (planned : Planned bridge exchange.request plan)
      (underway : Underway plan exchange carrier)
      (closed : ∀ exchange ∈ past, exchange.InOrder bridge ∧ exchange.isOpen = false) :
      Standing bridge junction (exchange :: past)

structure Log.Accounts (bridge : Outbound) (log : Log) (junction : Junction) : Prop where
  port : junction.bridge.port = bridge.port
  conversion : junction.bridge.conversion = bridge.conversion
  windowBase : junction.bridge.windowBase = bridge.windowBase
  standing : Standing bridge junction log.exchanges
  faults : log.faults.length = if junction.bridge.isHalted then 1 else 0

section

variable {bridge : Outbound} {junction after : Junction} {exchange : Exchange}
  {past : List Exchange} {result : Junction × Option ProtocolFault} {cycle : Nat}

theorem Exchange.observe_silent (same : after.simple = junction.simple) :
    exchange.observe junction after = exchange.pass junction.split after.split := by
  unfold observe
  rw [same, Simple.Link.acknowledged?_self, Option.map_none, Option.toList_none]
  unfold answer
  rw [List.append_nil]

theorem Exchange.observe_answered {request : Request} {response : Response}
    (waits : junction.simple = .waiting request)
    (answered : after.simple = .answered request response) :
    exchange.observe junction after =
      (exchange.pass junction.split after.split).answer [⟨response, after.bridge.isHalted⟩] := by
  unfold observe
  rw [waits, answered]
  rfl

/-- A tick that changes neither link leaves the log as it is. -/
theorem observe_unchanged (split : after.split = junction.split)
    (simple : after.simple = junction.simple) (exchanges : List Exchange) :
    exchanges.modifyHead (·.observe junction after) = exchanges := by
  cases exchanges with
  | nil => rfl
  | cons exchange past =>
    rw [List.modifyHead_cons, Exchange.observe_silent simple, split, Exchange.pass_self]

theorem Standing.answered {next : Exchange} {response : Response}
    (waits : junction.simple = .waiting exchange.request)
    (answered : after.simple = .answered exchange.request response)
    (idle : after.bridge.active = none)
    (passes : exchange.pass junction.split after.split = next)
    (inOrder : (next.answer [⟨response, after.bridge.isHalted⟩]).InOrder bridge)
    (closed : ∀ exchange ∈ past, exchange.InOrder bridge ∧ exchange.isOpen = false) :
    Standing bridge after ((exchange :: past).modifyHead (·.observe junction after)) := by
  rw [List.modifyHead_cons, Exchange.observe_answered waits answered, passes]
  refine .resting idle (by rw [answered]; rfl) ?_
  intro other there
  rcases List.mem_cons.mp there with rfl | earlier
  · exact ⟨inOrder, Exchange.isOpen_answer _ _⟩
  · exact closed other earlier

/-- A tick that does not acknowledge the request keeps its exchange open. -/
theorem Standing.goesOn {next : Exchange} {plan carrier : Carrier}
    (simple : after.simple = junction.simple)
    (running : after.bridge.isHalted = false) (active : after.bridge.active = some carrier)
    (waits : junction.simple = .waiting exchange.request)
    (planned : Planned bridge exchange.request plan)
    (passes : exchange.pass junction.split after.split = next)
    (same : next.request = exchange.request) (underway : Underway plan next carrier)
    (closed : ∀ exchange ∈ past, exchange.InOrder bridge ∧ exchange.isOpen = false) :
    Standing bridge after ((exchange :: past).modifyHead (·.observe junction after)) := by
  rw [List.modifyHead_cons, Exchange.observe_silent simple, passes]
  rw [← same] at waits planned
  exact .working running active (simple.trans waits) planned underway closed

theorem Standing.refused {exchanges : List Exchange} (regular : bridge.conversion.IsRegular)
    (standing : Standing bridge junction exchanges)
    (simple : after.simple = junction.simple.acknowledge .refused)
    (split : after.split = junction.split) (idle : after.bridge.active = none)
    (halted : after.bridge.isHalted = true) :
    Standing bridge after (exchanges.modifyHead (·.observe junction after)) := by
  cases standing with
  | resting _ settled closed =>
    have same : after.simple = junction.simple := by
      rw [simple]
      cases link : junction.simple with
      | idle | answered _ _ => rfl
      | waiting request => rw [link] at settled; cases settled
    rw [observe_unchanged split same]
    exact .resting idle (by rw [same]; exact settled) closed
  | @waiting request _ _ waits closed =>
    have answered : after.simple = .answered request .refused := by rw [simple, waits]; rfl
    have planned : Planned bridge request (bridge.plan request) :=
      .of_plan regular rfl rfl request
    refine .answered waits answered idle (by rw [split, Exchange.pass_self]) ?_ closed
    rw [halted]
    exact .refused planned (Underway.start request rfl).follows rfl
  | working _ _ waits planned underway closed =>
    have answered := by rw [waits] at simple; exact simple
    refine .answered waits answered idle (by rw [split, Exchange.pass_self]) ?_ closed
    rw [halted]
    exact .refused planned underway.follows underway.replies

theorem Standing.idle_of_halted {exchanges : List Exchange}
    (standing : Standing bridge junction exchanges) (halted : junction.bridge.isHalted = true) :
    junction.bridge.active = none := by
  cases standing with
  | resting idle _ _ => exact idle
  | waiting idle _ _ => exact idle
  | working running _ _ _ _ _ => exact absurd (running.symm.trans halted) (by decide)

/-- A bridge that works on a burst works for the newest exchange. -/
theorem Standing.exists_underway {exchanges : List Exchange} {carrier : Carrier}
    (standing : Standing bridge junction exchanges)
    (active : junction.bridge.active = some carrier) :
    ∃ plan exchange past, exchanges = exchange :: past ∧
      junction.simple = .waiting exchange.request ∧ Planned bridge exchange.request plan ∧
      Underway plan exchange carrier ∧
      ∀ exchange ∈ past, exchange.InOrder bridge ∧ exchange.isOpen = false := by
  cases standing with
  | resting idle _ _ | waiting idle _ _ => exact absurd (idle.symm.trans active) (by simp)
  | working _ present waits planned underway closed =>
    cases present.symm.trans active
    exact ⟨_, _, _, rfl, waits, planned, underway, closed⟩

theorem Standing.turn {exchanges : List Exchange} (regular : bridge.conversion.IsRegular)
    (conversion : junction.bridge.conversion = bridge.conversion)
    (windowBase : junction.bridge.windowBase = bridge.windowBase)
    (standing : Standing bridge junction exchanges) (turn : junction.Turn cycle result) :
    Standing bridge result.1 (exchanges.modifyHead (·.observe junction result.1)) := by
  cases turn with
  | refuse halted =>
    exact standing.refused regular rfl rfl (standing.idle_of_halted halted) halted
  | halt _ _ => exact standing.refused regular rfl rfl rfl rfl
  | idle _ _ _ _ =>
    rw [observe_unchanged rfl rfl]
    exact standing
  | @send running _ carrier accepted _ =>
    cases standing with
    | resting idle settled _ =>
      unfold Junction.accept at accepted
      rw [idle, settled] at accepted
      exact absurd (idle.symm.trans accepted) (by simp)
    | @waiting request past idle waits closed =>
      have planned : Planned bridge request (junction.bridge.plan request) :=
        .of_plan regular conversion windowBase request
      have taken : junction.bridge.plan request = carrier := by
        rw [Junction.accepted_of_awaiting idle (by rw [waits]; rfl)] at accepted
        exact Option.some.inj accepted
      have runs : junction.accept.bridge.isHalted = false := by
        unfold Junction.accept
        rw [idle, waits]
        exact running
      subst taken
      exact .goesOn junction.accept_simple runs rfl waits planned rfl rfl
        ((Underway.start request rfl).send junction.split) closed
    | working running active waits planned underway closed =>
      have same := Junction.accept_of_active active
      rw [same, active] at accepted
      cases accepted
      rw [same]
      exact .goesOn rfl running rfl waits planned rfl rfl (underway.send junction.split) closed
  | @respond running _ carrier active expects response there _ =>
    obtain ⟨plan, exchange, past, rfl, waits, planned, underway, closed⟩ :=
      standing.exists_underway active
    obtain ⟨write, sent, left⟩ := Carrier.of_expectsWrite expects
    rw [underway.write] at write
    have passes := exchange.pass_writeResponse junction.split junction.split.writeResponse.clear
    rw [Channel.taken?_clear, there] at passes
    refine .answered waits (congrArg (Simple.Link.acknowledge · _) waits) rfl passes ?_ closed
    show Exchange.InOrder (Exchange.answer _ [⟨_, junction.bridge.isHalted⟩]) bridge
    rw [running, ← underway.response_write write response]
    exact .done planned (underway.completed_write planned.whole write sent left response)
      underway.replies
  | @absorb running _ carrier active expects beat there unmarked more =>
    obtain ⟨plan, exchange, past, rfl, waits, planned, underway, closed⟩ :=
      standing.exists_underway active
    obtain ⟨read, sent⟩ := Carrier.of_expectsRead expects
    rw [underway.write] at read
    rw [underway.received planned, underway.burst] at more
    have passes := exchange.pass_readData junction.split junction.split.readData.clear
    rw [Channel.taken?_clear, there] at passes
    exact .goesOn rfl running rfl waits planned passes rfl
      (underway.absorb read sent unmarked more) closed
  | @complete running _ carrier active expects beat there marked all =>
    obtain ⟨plan, exchange, past, rfl, waits, planned, underway, closed⟩ :=
      standing.exists_underway active
    obtain ⟨read, sent⟩ := Carrier.of_expectsRead expects
    rw [underway.write] at read
    rw [underway.received planned, underway.burst] at all
    have passes := exchange.pass_readData junction.split junction.split.readData.clear
    rw [Channel.taken?_clear, there] at passes
    refine .answered waits (congrArg (Simple.Link.acknowledge · _) waits) rfl passes ?_ closed
    show Exchange.InOrder (Exchange.answer _ [⟨_, junction.bridge.isHalted⟩]) bridge
    rw [running, ← underway.response_read planned read beat]
    exact .done planned (underway.completed_read planned.whole read sent marked all)
      underway.replies
  | @misread running _ carrier active expects beat there wrong =>
    obtain ⟨plan, exchange, past, rfl, waits, planned, underway, closed⟩ :=
      standing.exists_underway active
    obtain ⟨read, _⟩ := Carrier.of_expectsRead expects
    rw [underway.write] at read
    have passes := exchange.pass_readData junction.split junction.split.readData.clear
    rw [Channel.taken?_clear, there] at passes
    refine .answered waits (congrArg (Simple.Link.acknowledge · _) waits) rfl passes ?_ closed
    have follows := underway.follows
    have taken :
        Exchange.Follows plan { exchange with readData := exchange.readData ++ [beat] } :=
      { follows with
        readData := by
          rw [read, List.length_append, List.length_singleton]
          exact underway.readData }
    exact .refused planned taken underway.replies

theorem Standing.congr {exchanges : List Exchange} (standing : Standing bridge junction exchanges)
    (same : after.bridge = junction.bridge) (simple : after.simple = junction.simple) :
    Standing bridge after exchanges := by
  cases standing with
  | resting idle settled closed =>
    exact .resting (by rw [same]; exact idle) (by rw [simple]; exact settled) closed
  | waiting idle waits closed =>
    exact .waiting (by rw [same]; exact idle) (simple.trans waits) closed
  | working running active waits planned underway closed =>
    exact .working (by rw [same]; exact running) (by rw [same]; exact active)
      (simple.trans waits) planned underway closed

theorem Standing.more {exchanges : List Exchange} (standing : Standing bridge junction exchanges)
    (carrier : Carrier) (active : junction.bridge.active = some carrier) :
    carrier.received < carrier.burst.beats := by
  obtain ⟨_, _, _, rfl, _, planned, underway, _⟩ := standing.exists_underway active
  rw [underway.received planned, underway.burst]
  exact underway.readData

theorem Standing.open_ {exchanges : List Exchange} (standing : Standing bridge junction exchanges) :
    (exchanges.filter (·.isOpen)).map (·.request) = junction.simple.awaiting?.toList := by
  have none_ : ∀ {past : List Exchange},
      (∀ exchange ∈ past, exchange.InOrder bridge ∧ exchange.isOpen = false) →
        past.filter (·.isOpen) = [] := by
    intro past closed
    rw [List.filter_eq_nil_iff]
    intro exchange there
    rw [(closed exchange there).2]
    exact Bool.false_ne_true
  cases standing with
  | resting _ settled closed =>
    rw [none_ closed, settled]
    rfl
  | @waiting request past _ waits closed =>
    rw [waits, List.filter_cons_of_pos rfl, none_ closed]
    rfl
  | @working _ _ exchange past _ _ waits _ underway closed =>
    have waiting : exchange.isOpen = true := by
      unfold Exchange.isOpen
      rw [underway.replies]
      rfl
    rw [waits, List.filter_cons_of_pos waiting, none_ closed]
    rfl

theorem Standing.inOrder {exchanges : List Exchange} (regular : bridge.conversion.IsRegular)
    (standing : Standing bridge junction exchanges) :
    ∀ exchange ∈ exchanges, exchange.InOrder bridge := by
  cases standing with
  | resting _ _ closed => exact fun exchange there => (closed exchange there).1
  | @waiting request past _ _ closed =>
    intro exchange there
    rcases List.mem_cons.mp there with rfl | earlier
    · exact .unanswered (.of_plan regular rfl rfl request) (Underway.start request rfl).follows rfl
    · exact (closed exchange earlier).1
  | working _ _ _ planned underway closed =>
    intro exchange there
    rcases List.mem_cons.mp there with rfl | earlier
    · exact .unanswered planned underway.follows underway.replies
    · exact (closed exchange earlier).1

theorem Junction.accept_setting (junction : Junction) :
    junction.accept.bridge.port = junction.bridge.port ∧
      junction.accept.bridge.conversion = junction.bridge.conversion ∧
      junction.accept.bridge.windowBase = junction.bridge.windowBase ∧
      junction.accept.bridge.isHalted = junction.bridge.isHalted := by
  unfold accept
  split <;> exact ⟨rfl, rfl, rfl, rfl⟩

theorem Junction.Turn.setting (turn : junction.Turn cycle result) :
    result.1.bridge.port = junction.bridge.port ∧
      result.1.bridge.conversion = junction.bridge.conversion ∧
      result.1.bridge.windowBase = junction.bridge.windowBase := by
  cases turn with
  | send _ _ _ _ =>
    obtain ⟨port, conversion, windowBase, _⟩ := junction.accept_setting
    exact ⟨port, conversion, windowBase⟩
  | _ => exact ⟨rfl, rfl, rfl⟩

/-- A bridge halts exactly with a fault, and for good. -/
theorem Junction.Turn.isHalted (turn : junction.Turn cycle result) :
    result.1.bridge.isHalted = (junction.bridge.isHalted || result.2.isSome) ∧
      (junction.bridge.isHalted = true → result.2 = none) := by
  cases turn with
  | refuse halted => exact ⟨by simp, fun _ => rfl⟩
  | halt running _ | misread running _ _ _ _ _ =>
    exact ⟨by rw [running]; rfl, fun halted => absurd (running.symm.trans halted) (by decide)⟩
  | send running _ _ _ =>
    exact ⟨by simp [junction.accept_setting.2.2.2], fun _ => rfl⟩
  | idle _ _ _ _ | respond _ _ _ _ _ _ | absorb _ _ _ _ _ _ _ | complete _ _ _ _ _ _ _ =>
    exact ⟨(Bool.or_false _).symm, fun _ => rfl⟩

theorem Log.Accounts.turn {log : Log} (accounts : log.Accounts bridge junction) (cycle : Nat) :
    junction.Turn cycle (junction.tick cycle) :=
  junction.tick_turn accounts.standing.more cycle

theorem Log.Accounts.tick {log : Log} (regular : bridge.conversion.IsRegular)
    (accounts : log.Accounts bridge junction) (cycle : Nat) :
    (log.act junction (.tick cycle)).Accounts bridge (junction.act (.tick cycle)) := by
  have turn := accounts.turn cycle
  obtain ⟨port, conversion, windowBase⟩ := turn.setting
  obtain ⟨halts, silent⟩ := turn.isHalted
  exact {
    port := port.trans accounts.port
    conversion := conversion.trans accounts.conversion
    windowBase := windowBase.trans accounts.windowBase
    standing :=
      accounts.standing.turn regular accounts.conversion accounts.windowBase turn
    faults := by
      show (log.faults ++ (junction.tick cycle).2.toList).length =
        if (junction.tick cycle).1.bridge.isHalted then 1 else 0
      rw [List.length_append, accounts.faults, halts]
      cases halted : junction.bridge.isHalted with
      | true => rw [silent halted]; rfl
      | false => cases (junction.tick cycle).2 <;> rfl }

/-- What the surroundings do keeps the log in step with the junction. -/
theorem Log.Accounts.act {log : Log} (regular : bridge.conversion.IsRegular)
    (accounts : log.Accounts bridge junction) (move : Move) :
    (log.act junction move).Accounts bridge (junction.act move) := by
  have standing := accounts.standing
  cases move with
  | tick cycle => exact accounts.tick regular cycle
  | sendWriteResponse _ | sendReadData _ | takeWriteAddress | takeWriteData | takeReadAddress =>
    exact { accounts with standing := standing.congr rfl rfl }
  | complete =>
    refine { accounts with standing := ?_ }
    show Standing bridge { junction with simple := junction.simple.completed } log.exchanges
    cases link : junction.simple with
    | idle | waiting _ => exact standing.congr rfl link.symm
    | answered request response =>
      generalize log.exchanges = exchanges at standing
      cases standing with
      | resting idle settled closed => exact .resting idle rfl closed
      | waiting _ waits _ | working _ _ waits _ _ _ => exact nomatch link.symm.trans waits
  | raise request =>
    cases link : junction.simple with
    | waiting _ | answered _ _ =>
      unfold Log.act Junction.act
      rw [link]
      exact { accounts with standing := standing.congr rfl link.symm }
    | idle =>
      unfold Log.act Junction.act
      rw [link]
      refine { accounts with standing := ?_ }
      show Standing bridge { junction with simple := .waiting request }
        ({ request } :: log.exchanges)
      generalize log.exchanges = exchanges at standing
      cases standing with
      | resting idle _ closed => exact .waiting idle rfl closed
      | waiting _ waits _ | working _ _ waits _ _ _ => exact nomatch link.symm.trans waits

theorem Log.Accounts.play {log : Log} (regular : bridge.conversion.IsRegular)
    (accounts : log.Accounts bridge junction) (moves : List Move) :
    (junction.play log moves).2.Accounts bridge (junction.play log moves).1 := by
  induction moves generalizing junction log with
  | nil => exact accounts
  | cons move rest ih => exact ih (accounts.act regular move)

/-! ### What the next tick does -/

theorem Standing.expects {exchanges : List Exchange}
    (standing : Standing bridge junction exchanges) :
    exchanges.head?.any (·.expectsWrite) = junction.bridge.active.any Carrier.expectsWrite ∧
      exchanges.head?.any (·.expectsRead) = junction.bridge.active.any Carrier.expectsRead := by
  cases standing with
  | resting idle _ closed =>
    rw [idle]
    cases exchanges with
    | nil => exact ⟨rfl, rfl⟩
    | cons exchange past =>
      have shut := (closed exchange List.mem_cons_self).2
      constructor
      · show (exchange.isOpen && _) = false
        rw [shut, Bool.false_and]
      · show (exchange.isOpen && _) = false
        rw [shut, Bool.false_and]
  | waiting idle _ _ =>
    rw [idle]
    exact ⟨rfl, rfl⟩
  | working _ active _ planned underway _ =>
    rw [active]
    exact ⟨underway.expectsWrite planned, underway.expectsRead⟩

theorem Standing.expectsLast {exchanges : List Exchange} {carrier : Carrier}
    (standing : Standing bridge junction exchanges) (active : junction.bridge.active = some carrier)
    (expects : carrier.expectsRead = true) :
    exchanges.head?.any (·.expectsLast) = decide (carrier.received + 1 = carrier.burst.beats) := by
  obtain ⟨_, _, _, rfl, _, planned, underway, _⟩ := standing.exists_underway active
  exact underway.expectsLast planned expects

theorem Log.Accounts.isViolated_iff {log : Log} (accounts : log.Accounts bridge junction) :
    log.IsViolated junction.split ↔
      ¬(junction.bridge.unexpected? junction.split = none ∧
        ∀ beat, junction.split.readData.beat = some beat →
          beat.last = log.exchanges.head?.any (·.expectsLast)) := by
  obtain ⟨writes, reads⟩ := accounts.standing.expects
  rw [unexpected?_eq_none]
  unfold Log.IsViolated
  rw [writes, reads]
  unfold Channel.isValid
  cases junction.bridge.active.any Carrier.expectsWrite <;>
    cases junction.bridge.active.any Carrier.expectsRead <;>
    cases junction.split.writeResponse.beat <;> cases junction.split.readData.beat <;> simp

/-- A fault is reported exactly when the slave did what was not expected of it. -/
theorem Log.Accounts.fault_iff {log : Log} (accounts : log.Accounts bridge junction)
    (running : junction.bridge.isHalted = false) (turn : junction.Turn cycle result) :
    result.2.isSome ↔ log.IsViolated junction.split := by
  rw [accounts.isViolated_iff]
  cases turn with
  | refuse halted => exact absurd (running.symm.trans halted) (by decide)
  | halt _ unexpected => simp [unexpected]
  | idle _ expected idle _ =>
    have noRead : junction.split.readData.beat = none := by
      apply Option.not_isSome_iff_eq_none.mp
      intro there
      have asked := ((unexpected?_eq_none _ _).mp expected).2 there
      rw [idle] at asked
      cases asked
    simp [expected, noRead]
  | send _ expected _ noRead | respond _ expected _ _ _ noRead => simp [expected, noRead]
  | absorb _ expected active expects there unmarked more =>
    have last := accounts.standing.expectsLast active expects
    simp [expected, there, last, unmarked, more]
  | complete _ expected active expects there marked all =>
    have last := accounts.standing.expectsLast active expects
    simp [expected, there, last, marked, all]
  | misread _ expected active expects there wrong =>
    have last := accounts.standing.expectsLast active expects
    simp [expected, there, last, wrong]

theorem acknowledge_refused (link : Simple.Link) :
    (∀ request, link.awaiting? = some request →
      link.acknowledge .refused = .answered request .refused) ∧
    (link.acknowledge .refused).awaiting? = none := by
  cases link with
  | idle | answered _ _ => exact ⟨nofun, rfl⟩
  | waiting request =>
    refine ⟨?_, rfl⟩
    intro other waits
    cases waits
    rfl

/-- A bridge that has halted, or halts now, refuses the request that waits. -/
theorem Junction.Turn.simple_of_halted (turn : junction.Turn cycle result)
    (halted : result.1.bridge.isHalted = true) :
    result.1.simple = junction.simple.acknowledge .refused := by
  obtain ⟨halts, _⟩ := turn.isHalted
  rw [halts] at halted
  cases turn with
  | refuse _ => rfl
  | halt _ _ | misread _ _ _ _ _ _ => rfl
  | idle running _ _ _ | send running _ _ _ | respond running _ _ _ _ _
  | absorb running _ _ _ _ _ _ | complete running _ _ _ _ _ _ =>
    rw [running] at halted
    cases halted

/-- Without a request that waits, nothing is driven. -/
theorem Log.Accounts.rests {log : Log} (accounts : log.Accounts bridge junction)
    (settled : junction.simple.awaiting? = none) (turn : junction.Turn cycle result) :
    result.1.split = junction.split := by
  have idle : junction.bridge.active = none := by
    have standing := accounts.standing
    generalize log.exchanges = exchanges at standing
    cases standing with
    | resting idle _ _ => exact idle
    | waiting _ waits _ | working _ _ waits _ _ _ => rw [waits] at settled; cases settled
  cases turn with
  | refuse _ | halt _ _ | idle _ _ _ _ => rfl
  | send _ _ accepted _ =>
    unfold Junction.accept at accepted
    rw [idle, settled] at accepted
    exact absurd (idle.symm.trans accepted) (by simp)
  | respond _ _ active _ _ _ | absorb _ _ active _ _ _ _ | complete _ _ active _ _ _ _
  | misread _ _ active _ _ _ => exact absurd (idle.symm.trans active) (by simp)

theorem Log.Accounts.reacts {log : Log} (accounts : log.Accounts bridge junction) (cycle : Nat) :
    junction.Reacts log cycle := by
  have turn := accounts.turn cycle
  obtain ⟨halts, silent⟩ := turn.isHalted
  exact {
    fault := fun running => accounts.fault_iff running turn
    halts := by
      intro fault reported
      have halted : (junction.tick cycle).1.bridge.isHalted = true := by
        rw [halts, reported, Option.isSome_some, Bool.or_true]
      refine ⟨?_, ?_, halted⟩
      · generalize junction.tick cycle = result at turn reported
        cases turn <;> cases reported <;> rfl
      · generalize junction.tick cycle = result at turn reported
        cases turn <;> cases reported <;> rfl
    refuses := by
      intro halted
      rw [turn.simple_of_halted halted]
      exact acknowledge_refused junction.simple
    silent := by
      intro halted
      rw [Junction.tick_refuse halted]
      exact ⟨rfl, rfl, rfl⟩
    rests := fun settled => accounts.rests settled turn }

end

theorem Log.Accounts.fresh (port : PortId) (conversion : Conversion) (windowBase : Address) :
    Log.Accounts { port, conversion, windowBase } {} (Junction.fresh port conversion windowBase) :=
  ⟨rfl, rfl, rfl, .resting rfl rfl nofun, rfl⟩

theorem Junction.stays_halted {junction : Junction} (halted : junction.bridge.isHalted = true)
    (log : Log) (moves : List Move) : (junction.play log moves).1.bridge.isHalted = true := by
  induction moves generalizing junction log with
  | nil => exact halted
  | cons move rest ih =>
    refine ih ?_ _
    cases move with
    | tick cycle =>
      show (junction.tick cycle).1.bridge.isHalted = true
      rw [tick_refuse halted]
      exact halted
    | _ => exact halted

/-- Whatever the slave does, every request is answered once: with what came of its whole burst, or
with a refusal by a bridge that met something unexpected. Only the request raised last can still be
waiting, each further tick reacts to what lies in the slave's channels, and a bridge that halted
stays so. -/
theorem requests_answered_once {simpleWidth splitWidth : Nat} {conversion : Conversion}
    (built : Conversion.between .simpleSync simpleWidth .wideSplit splitWidth = .ok conversion)
    (port : PortId) (windowBase : Address) (moves : List Move) :
    let (junction, log) := (Junction.fresh port conversion windowBase).play {} moves
    (∀ exchange ∈ log.exchanges, exchange.InOrder { port, conversion, windowBase }) ∧
      (log.exchanges.filter (·.isOpen)).map (·.request) = junction.simple.awaiting?.toList ∧
      (∀ cycle, junction.Reacts log cycle) ∧
      junction.bridge.port = port ∧
      log.faults.length = (if junction.bridge.isHalted then 1 else 0) ∧
      (junction.bridge.isHalted = true →
        ∀ later, (junction.play log later).1.bridge.isHalted = true) := by
  have regular := Conversion.isRegular_of_between built
  have accounts := (Log.Accounts.fresh port conversion windowBase).play regular moves
  exact ⟨accounts.standing.inOrder regular, accounts.standing.open_, accounts.reacts,
    accounts.port, accounts.faults, fun halted => Junction.stays_halted halted _⟩

/-- A write that its slave refuses, a read whose only beat is not marked as the last, and a write
after that: the first reply says what the slave said, the other two are the bridge's own. -/
theorem requests_answered_once_faulty :
    let conversion : Conversion := ⟨.simpleSync, 32, .wideSplit, 32⟩
    let moves : List Move :=
      [.raise ⟨0x1000, 0x44332211, 0xf, true⟩, .tick 0, .takeWriteAddress, .takeWriteData,
        .sendWriteResponse ⟨9, .slaveError⟩, .tick 1, .complete, .raise (.read 0x1004 0xf),
        .tick 2, .takeReadAddress, .sendReadData ⟨9, 0, .okay, false⟩, .tick 3, .complete,
        .raise ⟨0x1008, 0, 0xf, true⟩, .tick 4]
    Conversion.between .simpleSync 32 .wideSplit 32 = .ok conversion ∧
      let (junction, log) := (Junction.fresh ⟨1⟩ conversion 0x1000).play {} moves
      (log.exchanges.map (·.replies) =
          [[⟨.refused, true⟩], [⟨.refused, true⟩], [⟨⟨0, true⟩, false⟩]] ∧
        log.faults = [⟨⟨1⟩, 3, .readLength 1 1⟩]) ∧
      (∀ exchange ∈ log.exchanges, exchange.InOrder ⟨⟨1⟩, conversion, 0x1000, 0, none, false⟩) ∧
      (log.exchanges.filter (·.isOpen)).map (·.request) = junction.simple.awaiting?.toList ∧
      (∀ cycle, junction.Reacts log cycle) ∧
      junction.bridge.port = ⟨1⟩ ∧
      log.faults.length = (if junction.bridge.isHalted then 1 else 0) ∧
      (junction.bridge.isHalted = true →
        ∀ later, (junction.play log later).1.bridge.isHalted = true) := by
  intro conversion moves
  have built : Conversion.between .simpleSync 32 .wideSplit 32 = .ok conversion := rfl
  exact ⟨built, by decide, requests_answered_once built ⟨1⟩ 0x1000 moves⟩

end Outbound

end BusFabric.Bridge
