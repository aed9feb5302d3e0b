import BusFabric.Proofs.Bridge.InboundBursts
import BusFabric.Proofs.Split.Handshake

set_option autoImplicit false

namespace BusFabric.Bridge.Inbound

open Split (AddressBeat)

namespace Junction

/-- The bridge can take an address in its next cycle: it runs, and once it has driven what it owes
and collected the acknowledge, it has no burst and owes nothing. -/
def isFree (junction : Junction) : Bool :=
  let bridge := junction.flush.collect.bridge
  !junction.bridge.isHalted && bridge.active.isNone && bridge.owedWrite.isNone &&
    bridge.owedRead.isNone

/-- The addresses taken between two states, each with whether it is that of a write. -/
def admitted (before after : Junction) : List (Bool × AddressBeat) :=
  (before.split.writeAddress.taken? after.split.writeAddress).toList.map (true, ·) ++
    (before.split.readAddress.taken? after.split.readAddress).toList.map (false, ·)

/-- The addresses that the bridge takes during some moves, in order. -/
def admissions (junction : Junction) : List Move → List (Bool × AddressBeat)
  | [] => []
  | move :: moves => junction.admitted (junction.act move) ++ (junction.act move).admissions moves

def after (junction : Junction) (moves : List Move) : Junction :=
  moves.foldl act junction

/-- The same addresses wait, and the same kind goes first. -/
structure Agrees (before after : Junction) : Prop where
  waiting : ∀ write, after.waiting? write = before.waiting? write
  prefers : after.bridge.preferRead = before.bridge.preferRead

theorem Agrees.trans {first second third : Junction} (before : Agrees first second)
    (after : Agrees second third) : Agrees first third :=
  ⟨fun write => (after.waiting write).trans (before.waiting write),
    after.prefers.trans before.prefers⟩

theorem Agrees.of_split {before after : Junction}
    (write : after.split.writeAddress = before.split.writeAddress)
    (read : after.split.readAddress = before.split.readAddress)
    (prefers : after.bridge.preferRead = before.bridge.preferRead) : Agrees before after := by
  refine ⟨fun kind => ?_, prefers⟩
  unfold waiting?
  rw [write, read]

theorem Agrees.turn? {before after : Junction} (agrees : Agrees before after) :
    after.turn? = before.turn? := by
  unfold Junction.turn?
  rw [agrees.waiting, agrees.waiting, agrees.prefers]

theorem absorb_preferRead (bridge : Inbound) (answer : Simple.Response) :
    (bridge.absorb answer).preferRead = bridge.preferRead := by
  obtain ⟨_, _, _, _, changes⟩ := bridge.absorb_changes answer
  rw [changes]

theorem collect_agrees (junction : Junction) : Agrees junction junction.flush.collect := by
  have collects := junction.flush.collect_collects
  refine .of_split collects.writeAddress collects.readAddress ?_
  unfold collect
  cases junction.flush.simple.response? with
  | none => rfl
  | some answer => exact absorb_preferRead _ answer

theorem advance_preferRead (junction : Junction) :
    junction.advance.1.bridge.preferRead = junction.bridge.preferRead := by
  unfold advance
  cases prepared : junction.prepare with
  | error kind => rfl
  | ok next =>
    have planned : next.bridge.preferRead = junction.bridge.preferRead := by
      rcases prepare_cases prepared with rfl | ⟨_, _, _, ⟨_, _, _, rfl⟩ | ⟨_, _, rfl⟩⟩ <;> rfl
    refine Eq.trans ?_ planned
    show next.issue.bridge.preferRead = next.bridge.preferRead
    rcases next.issue_cases with same | ⟨_, _, _, _, _, _, raised⟩
    · rw [same]
    · rw [raised]

theorem step_agrees (junction : Junction) : Agrees junction.entered.1 junction.step.1 := by
  have advances := junction.step_advances
  refine .of_split advances.writeAddress advances.readAddress ?_
  rcases junction.step_cases.2 with same | ⟨_, same⟩
  · rw [same]
  · rw [same, advance_preferRead]

theorem entered_of_free {junction : Junction} (free : junction.isFree = true) :
    junction.entered = junction.flush.collect.acceptAddress := by
  simp only [isFree, Bool.and_eq_true] at free
  simp only [entered, free, Bool.and_true, if_true]

theorem tick_of_busy {junction : Junction} (busy : junction.isFree = false) (cycle : Nat) :
    Agrees junction (junction.tick cycle).1 := by
  unfold tick
  cases halted : junction.bridge.isHalted with
  | true =>
    rw [if_pos rfl]
    unfold drain
    split <;> exact ⟨fun _ => rfl, rfl⟩
  | false =>
    rw [if_neg Bool.false_ne_true]
    have enters : junction.entered = (junction.flush.collect, none) := by
      simp only [isFree, halted, Bool.not_false, Bool.true_and] at busy
      simp only [entered, busy, Bool.false_eq_true, if_false]
    have steps := junction.step_agrees
    rw [enters] at steps
    exact junction.collect_agrees.trans steps

/-- In a free bridge, the rest of a cycle leaves alone what taking an address made. -/
theorem tick_of_free {junction : Junction} (free : junction.isFree = true) (cycle : Nat) :
    Agrees junction.flush.collect.acceptAddress.1 (junction.tick cycle).1 := by
  have runs : junction.bridge.isHalted = false := by
    simp only [isFree, Bool.and_eq_true, Bool.not_eq_true'] at free
    exact free.1.1.1
  unfold tick
  rw [runs, if_neg Bool.false_ne_true, ← entered_of_free free]
  exact junction.step_agrees

/-- No address is taken: those that wait go on waiting, and the same kind goes first. -/
structure Keeps (before after : Junction) : Prop where
  waiting : ∀ write burst, before.waiting? write = some burst → after.waiting? write = some burst
  prefers : after.bridge.preferRead = before.bridge.preferRead

/-- An address is taken. The other kind goes first the next time. -/
structure Takes (before after : Junction) (write : Bool) (burst : AddressBeat) : Prop where
  turn : before.turn? = some (write, burst)
  taken : after.waiting? write = none
  other : after.waiting? (!write) = before.waiting? (!write)
  prefers : after.bridge.preferRead = write

theorem Agrees.keeps {before after : Junction} (agrees : Agrees before after) :
    Keeps before after :=
  ⟨fun write _ waits => (agrees.waiting write).trans waits, agrees.prefers⟩

theorem taken?_eq_none {α : Type} {before after : Split.Channel α}
    (keeps : ∀ beat, before.beat = some beat → after.beat = some beat) :
    before.taken? after = none := by
  unfold Split.Channel.taken? Split.Channel.isReady
  cases held : before.beat with
  | none => exact ite_self _
  | some beat => rw [keeps beat held]; rfl

theorem Keeps.admitted {before after : Junction} (keeps : Keeps before after) :
    before.admitted after = [] := by
  unfold Junction.admitted
  rw [taken?_eq_none (keeps.waiting true), taken?_eq_none (keeps.waiting false)]
  rfl

theorem Takes.admitted {before after : Junction} {write : Bool} {burst : AddressBeat}
    (takes : Takes before after write burst) : before.admitted after = [(write, burst)] := by
  have waits := waiting?_of_turn takes.turn
  have other : ∀ beat, before.waiting? (!write) = some beat → after.waiting? (!write) = some beat :=
    fun _ held => takes.other.trans held
  have gone : ∀ {held left : Split.Channel AddressBeat}, held.beat = some burst →
      left.beat = none → held.taken? left = some burst := by
    intro held left full empty
    unfold Split.Channel.taken? Split.Channel.isReady
    rw [empty]
    exact full
  unfold Junction.admitted
  cases write with
  | true =>
    rw [taken?_eq_none other, gone waits takes.taken]
    rfl
  | false =>
    rw [taken?_eq_none other, gone waits takes.taken]
    rfl

theorem begun_preferRead (bridge : Inbound) (burst : AddressBeat) (write preferRead : Bool) :
    (bridge.begun burst write preferRead).preferRead = preferRead := by
  unfold begun
  split <;> rfl

theorem tick_takes {junction : Junction} {write : Bool} {burst : AddressBeat}
    (free : junction.isFree = true) (turn : junction.turn? = some (write, burst)) (cycle : Nat) :
    Takes junction (junction.tick cycle).1 write burst := by
  have collects := junction.collect_agrees
  have rest := tick_of_free free cycle
  have accepts := junction.flush.collect.acceptAddress_eq
  rw [collects.turn?, turn] at accepts
  refine ⟨turn, (rest.waiting _).trans ?_, (rest.waiting _).trans ?_, rest.prefers.trans ?_⟩
  · rw [accepts]
    cases write <;> rfl
  · refine Eq.trans ?_ (collects.waiting _)
    rw [accepts]
    cases write <;> rfl
  · rw [accepts]
    cases write <;> exact begun_preferRead ..

/-- A bridge that is not free takes no address, and there may be none to take. -/
theorem tick_keeps {junction : Junction}
    (none_ : junction.isFree = false ∨ junction.turn? = none) (cycle : Nat) :
    Keeps junction (junction.tick cycle).1 := by
  cases free : junction.isFree with
  | false => exact (tick_of_busy free cycle).keeps
  | true =>
    rw [free] at none_
    have turn := none_.resolve_left Bool.noConfusion
    have accepts := junction.flush.collect.acceptAddress_eq
    rw [junction.collect_agrees.turn?, turn] at accepts
    have rest := tick_of_free free cycle
    rw [accepts] at rest
    exact (junction.collect_agrees.trans rest).keeps

/-- A cycle takes the address whose turn it is if the bridge is free, and no address otherwise. -/
theorem admitted_tick (junction : Junction) (cycle : Nat) :
    junction.admitted (junction.act (.tick cycle)) =
      if junction.isFree then junction.turn?.toList else [] := by
  show junction.admitted (junction.tick cycle).1 = _
  cases free : junction.isFree with
  | false => exact (tick_keeps (.inl free) cycle).admitted
  | true =>
    rw [if_pos rfl]
    cases turn : junction.turn? with
    | none => exact (tick_keeps (.inr turn) cycle).admitted
    | some next => exact (tick_takes free turn cycle).admitted

theorem getD_send_of_held {α : Type} {channel : Split.Channel α} {held : α} (sent : α)
    (waits : channel.beat = some held) :
    ((channel.send? sent).getD channel).beat = some held := by
  obtain ⟨_ | _⟩ := channel
  · cases waits
  · exact waits

/-- No move but a cycle takes an address, and nothing can be sent in the place of one that waits. -/
theorem act_keeps_or_takes (junction : Junction) (move : Move) :
    Keeps junction (junction.act move) ∨
      ∃ write burst, Takes junction (junction.act move) write burst := by
  cases move with
  | sendWriteAddress sent =>
    refine .inl ⟨fun write burst waits => ?_, rfl⟩
    cases write with
    | true => exact getD_send_of_held sent waits
    | false => exact waits
  | sendReadAddress sent =>
    refine .inl ⟨fun write burst waits => ?_, rfl⟩
    cases write with
    | true => exact waits
    | false => exact getD_send_of_held sent waits
  | sendWriteData | takeWriteResponse | takeReadData | acknowledge =>
    exact .inl ⟨fun _ _ waits => waits, rfl⟩
  | tick cycle =>
    cases free : junction.isFree with
    | false => exact .inl (tick_keeps (.inl free) cycle)
    | true =>
      cases turn : junction.turn? with
      | none => exact .inl (tick_keeps (.inr turn) cycle)
      | some next => exact .inr ⟨_, _, tick_takes free turn cycle⟩

/-- An address of the other kind goes before one that waits only if the other kind goes first. -/
theorem prefers_of_turn {junction : Junction} {write : Bool} {burst other : AddressBeat}
    (waits : junction.waiting? write = some burst)
    (turn : junction.turn? = some (!write, other)) : junction.bridge.preferRead = write := by
  have passes := waiting?_of_turn turn
  unfold Junction.turn? at turn
  cases write with
  | true =>
    rw [waits, show junction.waiting? false = _ from passes] at turn
    cases prefers : junction.bridge.preferRead with
    | true => rfl
    | false =>
      rw [prefers] at turn
      cases turn
  | false =>
    rw [waits, show junction.waiting? true = _ from passes] at turn
    cases prefers : junction.bridge.preferRead with
    | true =>
      rw [prefers] at turn
      cases turn
    | false => rfl

/-- An address that waits is passed by at most one of the other kind, and by none if its own kind
goes first. -/
theorem passed_by_one {junction : Junction} {write : Bool} {burst : AddressBeat}
    (waits : junction.waiting? write = some burst) (moves : List Move) :
    ∃ passing : List AddressBeat,
      passing.length ≤ (if junction.bridge.preferRead = write then 1 else 0) ∧
      ((junction.after moves).waiting? write = some burst ∧
          junction.admissions moves = passing.map (!write, ·) ∨
        ∃ later, junction.admissions moves =
          passing.map (!write, ·) ++ (write, burst) :: later) := by
  -- the bound depends on whose turn it is, so that one address of the other kind uses it up
  induction moves generalizing junction with
  | nil => exact ⟨[], Nat.zero_le _, .inl ⟨waits, rfl⟩⟩
  | cons move moves ih =>
    show ∃ passing : List AddressBeat, _ ∧
      (((junction.act move).after moves).waiting? write = some burst ∧
          junction.admitted (junction.act move) ++ (junction.act move).admissions moves = _ ∨
        ∃ later, junction.admitted (junction.act move) ++ (junction.act move).admissions moves = _)
    rcases junction.act_keeps_or_takes move with keeps | ⟨kind, taken, takes⟩
    · rw [keeps.admitted, List.nil_append, ← keeps.prefers]
      exact ih (keeps.waiting write burst waits)
    · rw [takes.admitted]
      by_cases own : kind = write
      · subst own
        have same : some burst = some taken := waits.symm.trans (waiting?_of_turn takes.turn)
        cases same
        exact ⟨[], Nat.zero_le _, .inr ⟨_, rfl⟩⟩
      · obtain rfl : kind = !write := Bool.eq_not.mpr own
        have prefers := prefers_of_turn waits takes.turn
        have still : (junction.act move).waiting? write = some burst := by
          have other := takes.other
          rw [Bool.not_not] at other
          exact other.trans waits
        obtain ⟨passing, bound, goes⟩ := ih still
        rw [takes.prefers, if_neg (by cases write <;> decide)] at bound
        obtain rfl : passing = [] := List.length_eq_zero_iff.mp (Nat.le_zero.mp bound)
        refine ⟨[taken], by rw [if_pos prefers]; exact Nat.le_refl 1, ?_⟩
        rcases goes with ⟨still, none_⟩ | ⟨later, first⟩
        · exact .inl ⟨still, by rw [none_]; rfl⟩
        · exact .inr ⟨later, by rw [first]; rfl⟩

/-- Neither kind of address starves the other. While an address waits, at most one of the other kind
is taken before it. Whatever has happened, a cycle takes the address whose turn it is if the bridge
is free, and otherwise it takes none. -/
theorem neither_address_starves (junction : Junction) (write : Bool) (burst : AddressBeat)
    (waits : junction.waiting? write = some burst) (moves : List Move) :
    (∃ passing : List AddressBeat, passing.length ≤ 1 ∧
      ((junction.after moves).waiting? write = some burst ∧
          junction.admissions moves = passing.map (!write, ·) ∨
        ∃ later, junction.admissions moves =
          passing.map (!write, ·) ++ (write, burst) :: later)) ∧
    ∀ cycle, (junction.after moves).admissions [.tick cycle] =
      if (junction.after moves).isFree then (junction.after moves).turn?.toList else [] := by
  refine ⟨?_, fun cycle => ?_⟩
  · obtain ⟨passing, bound, goes⟩ := passed_by_one waits moves
    refine ⟨passing, Nat.le_trans bound ?_, goes⟩
    split
    · exact Nat.le_refl 1
    · exact Nat.zero_le 1
  · exact (List.append_nil _).trans (admitted_tick _ cycle)

/-- A read that waits at a fresh bridge is passed by one write, whatever comes behind that write. -/
theorem neither_address_starves_fresh :
    let waiting : Junction := (Junction.fresh ⟨1⟩ ⟨.wideSplit, 32, .simpleSync, 8⟩ 0).after
      [.sendReadAddress (.single 5 0x1000 2), .sendWriteAddress (.single 6 0x2000 0)]
    let moves : List Move :=
      [.tick 0, .sendWriteAddress (.single 7 0x3000 0), .sendWriteData ⟨0, 1, true⟩, .tick 1,
        .acknowledge (.ok 0), .tick 2, .tick 3]
    waiting.waiting? false = some (.single 5 0x1000 2) ∧
      waiting.admissions moves = [(true, .single 6 0x2000 0), (false, .single 5 0x1000 2)] ∧
      (∃ passing : List AddressBeat, passing.length ≤ 1 ∧
        ((waiting.after moves).waiting? false = some (.single 5 0x1000 2) ∧
            waiting.admissions moves = passing.map (!false, ·) ∨
          ∃ later, waiting.admissions moves =
            passing.map (!false, ·) ++ (false, .single 5 0x1000 2) :: later)) ∧
      ∀ cycle, (waiting.after moves).admissions [.tick cycle] =
        if (waiting.after moves).isFree then (waiting.after moves).turn?.toList else [] := by
  intro waiting moves
  have waits : waiting.waiting? false = some (.single 5 0x1000 2) := by decide
  exact ⟨waits, by decide, neither_address_starves waiting false _ waits moves⟩

end Junction

end BusFabric.Bridge.Inbound
