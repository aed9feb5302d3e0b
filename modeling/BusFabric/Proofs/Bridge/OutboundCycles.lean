import BusFabric.Bridge.Outbound

set_option autoImplicit false

namespace BusFabric.Bridge

open Simple (Request)
open Split (Channel ReadBeat WriteResponse)

namespace Carrier

def absorb (carrier : Carrier) (beat : ReadBeat) : Carrier :=
  { carrier with
    received := carrier.received + 1
    status := carrier.status.merge beat.status
    data := carrier.gather beat }

/-- What a burst under way drives in a cycle: its address, and the next beat of a write. -/
def send (carrier : Carrier) (split : Split.Link) : Carrier × Split.Link :=
  let (carrier, split) := carrier.sendAddress split
  if carrier.write then carrier.sendBeat split else (carrier, split)

def expectsWrite (carrier : Carrier) : Bool :=
  carrier.write && carrier.addressSent && carrier.beats.isEmpty

def expectsRead (carrier : Carrier) : Bool :=
  !carrier.write && carrier.addressSent

theorem of_expectsWrite {carrier : Carrier} (expects : carrier.expectsWrite = true) :
    carrier.write = true ∧ carrier.addressSent = true ∧ carrier.beats = [] := by
  unfold expectsWrite at expects
  simp only [Bool.and_eq_true, List.isEmpty_iff] at expects
  exact ⟨expects.1.1, expects.1.2, expects.2⟩

theorem of_expectsRead {carrier : Carrier} (expects : carrier.expectsRead = true) :
    carrier.write = false ∧ carrier.addressSent = true := by
  unfold expectsRead at expects
  simp only [Bool.and_eq_true, Bool.not_eq_true'] at expects
  exact expects

theorem sendAddress_frame (carrier : Carrier) (split : Split.Link) :
    (carrier.sendAddress split).2.writeData = split.writeData ∧
      (carrier.sendAddress split).2.writeResponse = split.writeResponse ∧
      (carrier.sendAddress split).2.readData = split.readData := by
  unfold sendAddress
  split
  · exact ⟨rfl, rfl, rfl⟩
  · split
    · split <;> exact ⟨rfl, rfl, rfl⟩
    · split <;> exact ⟨rfl, rfl, rfl⟩

theorem sendBeat_frame (carrier : Carrier) (split : Split.Link) :
    (carrier.sendBeat split).2.writeAddress = split.writeAddress ∧
      (carrier.sendBeat split).2.readAddress = split.readAddress ∧
      (carrier.sendBeat split).2.writeResponse = split.writeResponse ∧
      (carrier.sendBeat split).2.readData = split.readData := by
  unfold sendBeat
  split
  · exact ⟨rfl, rfl, rfl, rfl⟩
  · split <;> exact ⟨rfl, rfl, rfl, rfl⟩

end Carrier

namespace Outbound

theorem unexpected?_eq (bridge : Outbound) (split : Split.Link) :
    bridge.unexpected? split =
      if split.writeResponse.isValid && !bridge.active.any Carrier.expectsWrite then
        some .unexpectedWriteResponse
      else if split.readData.isValid && !bridge.active.any Carrier.expectsRead then
        some .unexpectedReadData
      else none := by
  unfold unexpected?
  cases bridge.active with
  | none => rfl
  | some carrier =>
    obtain ⟨write⟩ := carrier
    cases write <;> rfl

/-- A response is expected from a burst that asks for it, and from nothing else. -/
theorem unexpected?_eq_none (bridge : Outbound) (split : Split.Link) :
    bridge.unexpected? split = none ↔
      (split.writeResponse.isValid = true → bridge.active.any Carrier.expectsWrite = true) ∧
        (split.readData.isValid = true → bridge.active.any Carrier.expectsRead = true) := by
  rw [unexpected?_eq]
  cases split.writeResponse.isValid <;> cases split.readData.isValid <;>
    cases bridge.active.any Carrier.expectsWrite <;>
    cases bridge.active.any Carrier.expectsRead <;> simp

namespace Junction

variable {junction : Junction} {carrier : Carrier}

theorem tick_refuse (halted : junction.bridge.isHalted = true) (cycle : Nat) :
    junction.tick cycle =
      ({ junction with simple := junction.simple.acknowledge .refused }, none) := by
  unfold tick
  rw [if_pos halted]

theorem tick_halt (running : junction.bridge.isHalted = false) {kind : FaultKind}
    (unexpected : junction.bridge.unexpected? junction.split = some kind) (cycle : Nat) :
    junction.tick cycle = (junction.halt, some ⟨junction.bridge.port, cycle, kind⟩) := by
  unfold tick step
  rw [running, unexpected]
  rfl

section

variable (running : junction.bridge.isHalted = false)
  (expected : junction.bridge.unexpected? junction.split = none)

include running expected

theorem tick_idle (idle : junction.bridge.active = none)
    (settled : junction.simple.awaiting? = none) (cycle : Nat) :
    junction.tick cycle = (junction, none) := by
  have nothing : junction.accept = junction := by
    unfold accept
    rw [idle, settled]
  unfold tick step
  rw [running, expected]
  dsimp only
  rw [nothing, idle]
  rfl

/-- Without a response, a burst is driven as far as the channels allow. -/
theorem tick_send (accepted : junction.accept.bridge.active = some carrier)
    (noWrite : junction.split.writeResponse.beat = none)
    (noRead : junction.split.readData.beat = none) (cycle : Nat) :
    junction.tick cycle =
      ({ junction.accept with
          bridge := { junction.accept.bridge with active := some (carrier.send junction.split).1 }
          split := (carrier.send junction.split).2 }, none) := by
  have split_accept : junction.accept.split = junction.split := by
    unfold accept
    split <;> rfl
  obtain ⟨_, writeResponse, readData⟩ := carrier.sendAddress_frame junction.split
  unfold tick step
  rw [running, expected]
  dsimp only
  rw [accepted]
  dsimp only
  rw [split_accept]
  unfold Carrier.send
  dsimp only
  cases write : (carrier.sendAddress junction.split).1.write with
  | true =>
    obtain ⟨_, _, unanswered, _⟩ :=
      (carrier.sendAddress junction.split).1.sendBeat_frame (carrier.sendAddress junction.split).2
    unfold advanceWrite
    dsimp only
    rw [unanswered, writeResponse, noWrite]
    simp [keep]
  | false =>
    unfold advanceRead
    dsimp only
    rw [readData, noRead]
    simp [keep]

theorem tick_take_response (active : junction.bridge.active = some carrier)
    (expects : carrier.expectsWrite = true) {response : WriteResponse}
    (there : junction.split.writeResponse.beat = some response) (cycle : Nat) :
    junction.tick cycle =
      (finish { junction with
          split := { junction.split with writeResponse := junction.split.writeResponse.clear } }
        ⟨0, !response.status.isOkay⟩, none) := by
  obtain ⟨write, sent, left⟩ := Carrier.of_expectsWrite expects
  have accepted : junction.accept = junction := by
    unfold accept
    rw [active]
  unfold tick step
  rw [running, expected]
  dsimp only
  rw [accepted, active]
  unfold Carrier.sendAddress advanceWrite Carrier.sendBeat
  simp [write, sent, left, there]

/-- Read data continues a read, ends it, or halts the bridge. -/
theorem tick_take_data (active : junction.bridge.active = some carrier)
    (expects : carrier.expectsRead = true) {beat : ReadBeat}
    (there : junction.split.readData.beat = some beat)
    (fewer : carrier.received < carrier.burst.beats) (cycle : Nat) :
    junction.tick cycle =
      let taken := { junction with
        split := { junction.split with readData := junction.split.readData.clear } }
      if beat.last = decide (carrier.received + 1 = carrier.burst.beats) then
        (if beat.last then
          taken.finish ⟨(carrier.absorb beat).data, !(carrier.absorb beat).status.isOkay⟩
        else taken.keep (carrier.absorb beat), none)
      else
        (taken.halt, some ⟨junction.bridge.port, cycle,
          .readLength (carrier.received + 1) carrier.burst.beats⟩) := by
  obtain ⟨read, sent⟩ := Carrier.of_expectsRead expects
  have accepted : junction.accept = junction := by
    unfold accept
    rw [active]
  have inside : ¬ carrier.burst.beats < carrier.received + 1 := by omega
  unfold tick step
  rw [running, expected]
  dsimp only
  rw [accepted, active]
  unfold Carrier.sendAddress advanceRead
  by_cases agrees : beat.last = decide (carrier.received + 1 = carrier.burst.beats)
  · rw [if_pos agrees]
    by_cases final : carrier.received + 1 = carrier.burst.beats
    · simp [read, sent, there, agrees, final, Carrier.absorb]
    · simp [read, sent, there, inside, agrees, final, Carrier.absorb]
  · rw [if_neg agrees]
    simp [read, sent, there, inside, agrees, halt]

end

inductive Turn (junction : Junction) (cycle : Nat) : Junction × Option ProtocolFault → Prop
  /-- A halted bridge refuses the request that waits. -/
  | refuse (halted : junction.bridge.isHalted = true) :
      Turn junction cycle ({ junction with simple := junction.simple.acknowledge .refused }, none)
  /-- A response that answers nothing halts the bridge. -/
  | halt (running : junction.bridge.isHalted = false) {kind : FaultKind}
      (unexpected : junction.bridge.unexpected? junction.split = some kind) :
      Turn junction cycle (junction.halt, some ⟨junction.bridge.port, cycle, kind⟩)
  | idle (running : junction.bridge.isHalted = false)
      (expected : junction.bridge.unexpected? junction.split = none)
      (idle : junction.bridge.active = none) (settled : junction.simple.awaiting? = none) :
      Turn junction cycle (junction, none)
  | send (running : junction.bridge.isHalted = false)
      (expected : junction.bridge.unexpected? junction.split = none) {carrier : Carrier}
      (accepted : junction.accept.bridge.active = some carrier)
      (noRead : junction.split.readData.beat = none) :
      Turn junction cycle
        ({ junction.accept with
            bridge := { junction.accept.bridge with
              active := some (carrier.send junction.split).1 }
            split := (carrier.send junction.split).2 }, none)
  /-- A write response ends the write. -/
  | respond (running : junction.bridge.isHalted = false)
      (expected : junction.bridge.unexpected? junction.split = none) {carrier : Carrier}
      (active : junction.bridge.active = some carrier) (expects : carrier.expectsWrite = true)
      {response : WriteResponse} (there : junction.split.writeResponse.beat = some response)
      (noRead : junction.split.readData.beat = none) :
      Turn junction cycle
        (finish { junction with
            split := { junction.split with writeResponse := junction.split.writeResponse.clear } }
          ⟨0, !response.status.isOkay⟩, none)
  /-- Read data that is not the last continues the read. -/
  | absorb (running : junction.bridge.isHalted = false)
      (expected : junction.bridge.unexpected? junction.split = none) {carrier : Carrier}
      (active : junction.bridge.active = some carrier) (expects : carrier.expectsRead = true)
      {beat : ReadBeat} (there : junction.split.readData.beat = some beat)
      (unmarked : beat.last = false) (more : carrier.received + 1 ≠ carrier.burst.beats) :
      Turn junction cycle
        (keep { junction with
            split := { junction.split with readData := junction.split.readData.clear } }
          (carrier.absorb beat), none)
  /-- The last read data ends the read. -/
  | complete (running : junction.bridge.isHalted = false)
      (expected : junction.bridge.unexpected? junction.split = none) {carrier : Carrier}
      (active : junction.bridge.active = some carrier) (expects : carrier.expectsRead = true)
      {beat : ReadBeat} (there : junction.split.readData.beat = some beat)
      (marked : beat.last = true) (all : carrier.received + 1 = carrier.burst.beats) :
      Turn junction cycle
        (finish { junction with
            split := { junction.split with readData := junction.split.readData.clear } }
          ⟨(carrier.absorb beat).data, !(carrier.absorb beat).status.isOkay⟩, none)
  /-- A wrong last-beat mark halts the bridge. -/
  | misread (running : junction.bridge.isHalted = false)
      (expected : junction.bridge.unexpected? junction.split = none) {carrier : Carrier}
      (active : junction.bridge.active = some carrier) (expects : carrier.expectsRead = true)
      {beat : ReadBeat} (there : junction.split.readData.beat = some beat)
      (wrong : beat.last ≠ decide (carrier.received + 1 = carrier.burst.beats)) :
      Turn junction cycle
        (halt { junction with
            split := { junction.split with readData := junction.split.readData.clear } },
          some ⟨junction.bridge.port, cycle,
            .readLength (carrier.received + 1) carrier.burst.beats⟩)

theorem accepted_of_awaiting (idle : junction.bridge.active = none) {request : Request}
    (waits : junction.simple.awaiting? = some request) :
    junction.accept.bridge.active = some (junction.bridge.plan request) := by
  unfold accept
  rw [idle, waits]

theorem accept_of_active (active : junction.bridge.active = some carrier) :
    junction.accept = junction := by
  unfold accept
  rw [active]

/-- A cycle does one of these, as long as a burst under way still has read data to come. -/
theorem tick_turn (junction : Junction)
    (more : ∀ carrier, junction.bridge.active = some carrier →
      carrier.received < carrier.burst.beats) (cycle : Nat) :
    Turn junction cycle (junction.tick cycle) := by
  cases halted : junction.bridge.isHalted with
  | true =>
    rw [tick_refuse halted]
    exact .refuse halted
  | false =>
    cases unexpected : junction.bridge.unexpected? junction.split with
    | some kind =>
      rw [tick_halt halted unexpected]
      exact .halt halted unexpected
    | none =>
      obtain ⟨writes, reads⟩ := (unexpected?_eq_none _ _).mp unexpected
      unfold Channel.isValid at writes reads
      cases active : junction.bridge.active with
      | none =>
        rw [active] at writes reads
        have noWrite := Option.not_isSome_iff_eq_none.mp fun there => nomatch writes there
        have noRead := Option.not_isSome_iff_eq_none.mp fun there => nomatch reads there
        cases waits : junction.simple.awaiting? with
        | none =>
          rw [tick_idle halted unexpected active waits]
          exact .idle halted unexpected active waits
        | some request =>
          have accepted := accepted_of_awaiting active waits
          rw [tick_send halted unexpected accepted noWrite noRead]
          exact .send halted unexpected accepted noRead
      | some carrier =>
        rw [active, Option.any_some] at writes reads
        cases read : junction.split.readData.beat with
        | some beat =>
          rw [read] at reads
          have expects := reads rfl
          rw [tick_take_data halted unexpected active expects read (more carrier active)]
          dsimp only
          by_cases agrees : beat.last = decide (carrier.received + 1 = carrier.burst.beats)
          · rw [if_pos agrees]
            cases marked : beat.last with
            | true =>
              rw [marked] at agrees
              exact .complete halted unexpected active expects read marked
                (of_decide_eq_true agrees.symm)
            | false =>
              rw [marked] at agrees
              exact .absorb halted unexpected active expects read marked
                (of_decide_eq_false agrees.symm)
          · rw [if_neg agrees]
            exact .misread halted unexpected active expects read agrees
        | none =>
          cases write : junction.split.writeResponse.beat with
          | some response =>
            rw [write] at writes
            have expects := writes rfl
            rw [tick_take_response halted unexpected active expects write]
            exact .respond halted unexpected active expects write read
          | none =>
            have accepted : junction.accept.bridge.active = some carrier := by
              rw [accept_of_active active, active]
            rw [tick_send halted unexpected accepted write read]
            exact .send halted unexpected accepted read

end Junction

end Outbound

end BusFabric.Bridge
