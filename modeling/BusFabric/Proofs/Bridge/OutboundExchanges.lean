import BusFabric.Proofs.Bridge.Handshake
import BusFabric.Proofs.Bridge.OutboundLog
import BusFabric.Proofs.Bridge.OutboundPlan

set_option autoImplicit false

namespace BusFabric.Bridge

open Simple (Request Response)
open Split (AddressBeat Channel ReadBeat Status WriteBeat WriteResponse)

namespace Carrier

variable (carrier : Carrier) (beats : List ReadBeat)

theorem burst_foldl_absorb : (beats.foldl absorb carrier).burst = carrier.burst := by
  induction beats generalizing carrier with
  | nil => rfl
  | cons beat rest ih => exact ih (carrier.absorb beat)

theorem write_foldl_absorb : (beats.foldl absorb carrier).write = carrier.write := by
  induction beats generalizing carrier with
  | nil => rfl
  | cons beat rest ih => exact ih (carrier.absorb beat)

theorem received_foldl_absorb :
    (beats.foldl absorb carrier).received = carrier.received + beats.length := by
  induction beats generalizing carrier with
  | nil => rfl
  | cons beat rest ih =>
    rw [List.foldl_cons, ih, List.length_cons]
    show carrier.received + 1 + rest.length = _
    omega

/-- The first error stays. -/
theorem isOkay_foldl_absorb :
    (beats.foldl absorb carrier).status.isOkay =
      (carrier.status.isOkay && !beats.any fun beat => !beat.status.isOkay) := by
  induction beats generalizing carrier with
  | nil => simp
  | cons beat rest ih =>
    rw [List.foldl_cons, ih, List.any_cons]
    show ((carrier.status.merge beat.status).isOkay && _) = _
    unfold Status.merge
    cases okay : carrier.status.isOkay with
    | true => simp
    | false => simp [okay]

end Carrier

namespace Outbound

namespace Exchange

variable (exchange : Exchange)

@[simp] theorem pass_self (split : Split.Link) : exchange.pass split split = exchange := by
  unfold pass
  simp only [Channel.driven?_self, Channel.taken?_self, Option.toList_none, List.append_nil]

section

variable (split : Split.Link)

@[simp] theorem pass_writeAddress (writeAddress : Channel AddressBeat) :
    exchange.pass split { split with writeAddress } =
      { exchange with
        writeAddresses :=
          exchange.writeAddresses ++ (split.writeAddress.driven? writeAddress).toList } := by
  simp [pass]

@[simp] theorem pass_writeData (writeData : Channel WriteBeat) :
    exchange.pass split { split with writeData } =
      { exchange with
        writeData := exchange.writeData ++ (split.writeData.driven? writeData).toList } := by
  simp [pass]

@[simp] theorem pass_readAddress (readAddress : Channel AddressBeat) :
    exchange.pass split { split with readAddress } =
      { exchange with
        readAddresses :=
          exchange.readAddresses ++ (split.readAddress.driven? readAddress).toList } := by
  simp [pass]

@[simp] theorem pass_writeResponse (writeResponse : Channel WriteResponse) :
    exchange.pass split { split with writeResponse } =
      { exchange with
        writeResponses :=
          exchange.writeResponses ++ (split.writeResponse.taken? writeResponse).toList } := by
  simp [pass]

@[simp] theorem pass_readData (readData : Channel ReadBeat) :
    exchange.pass split { split with readData } =
      { exchange with
        readData := exchange.readData ++ (split.readData.taken? readData).toList } := by
  simp [pass]

end

/-- In two stages, each channel is touched by at most one. -/
structure Apart (first second third : Split.Link) : Prop where
  writeAddress : first.writeAddress = second.writeAddress ∨ second.writeAddress = third.writeAddress
  writeData : first.writeData = second.writeData ∨ second.writeData = third.writeData
  readAddress : first.readAddress = second.readAddress ∨ second.readAddress = third.readAddress
  writeResponse :
    first.writeResponse = second.writeResponse ∨ second.writeResponse = third.writeResponse
  readData : first.readData = second.readData ∨ second.readData = third.readData

theorem pass_pass {first second third : Split.Link} (apart : Apart first second third) :
    (exchange.pass first second).pass second third = exchange.pass first third := by
  unfold pass
  dsimp only
  rw [Channel.driven?_trans apart.writeAddress, Channel.driven?_trans apart.writeData,
    Channel.driven?_trans apart.readAddress, Channel.taken?_trans apart.writeResponse,
    Channel.taken?_trans apart.readData]
  simp only [List.append_assoc]

end Exchange

theorem Exchange.Apart.of_send (carrier : Carrier) (split : Split.Link) :
    Apart split (carrier.sendAddress split).2
      ((carrier.sendAddress split).1.sendBeat (carrier.sendAddress split).2).2 := by
  obtain ⟨writeData, _, _⟩ := carrier.sendAddress_frame split
  obtain ⟨writeAddress, readAddress, writeResponse, readData⟩ :=
    (carrier.sendAddress split).1.sendBeat_frame (carrier.sendAddress split).2
  exact ⟨.inr writeAddress.symm, .inl writeData.symm, .inr readAddress.symm,
    .inr writeResponse.symm, .inr readData.symm⟩

/-- The burst `plan` is under way in `exchange`, and `carrier` says how far. -/
structure Underway (plan : Carrier) (exchange : Exchange) (carrier : Carrier) : Prop where
  /-- Apart from what is sent of it, the burst is what the read data made of its plan. -/
  carried : exchange.readData.foldl Carrier.absorb plan =
    { carrier with addressSent := false, beats := plan.beats }
  writeAddresses :
    exchange.writeAddresses = if plan.write && carrier.addressSent then [plan.burst] else []
  readAddresses :
    exchange.readAddresses = if !plan.write && carrier.addressSent then [plan.burst] else []
  writeData : exchange.writeData ++ carrier.beats = plan.beats
  writeResponses : exchange.writeResponses = []
  readData : exchange.readData.length < plan.burst.beats
  /-- Read data comes only in answer to a read address. -/
  quiet : plan.write = true ∨ carrier.addressSent = false → exchange.readData = []
  last : ∀ beat ∈ exchange.readData, beat.last = false
  replies : exchange.replies = []

namespace Underway

variable {plan carrier : Carrier} {exchange : Exchange}

theorem start (request : Request) (unsent : plan.addressSent = false) :
    Underway plan { request } plan where
  carried := by
    show plan = { plan with addressSent := false, beats := plan.beats }
    rw [← unsent]
  writeAddresses := by rw [unsent, Bool.and_false]; rfl
  readAddresses := by rw [unsent, Bool.and_false]; rfl
  writeData := rfl
  writeResponses := rfl
  readData := Nat.succ_pos _
  quiet := fun _ => rfl
  last := nofun
  replies := rfl

theorem burst (underway : Underway plan exchange carrier) : carrier.burst = plan.burst := by
  have same := congrArg Carrier.burst underway.carried
  rw [Carrier.burst_foldl_absorb] at same
  exact same.symm

theorem write (underway : Underway plan exchange carrier) : carrier.write = plan.write := by
  have same := congrArg Carrier.write underway.carried
  rw [Carrier.write_foldl_absorb] at same
  exact same.symm

theorem sendAddress (underway : Underway plan exchange carrier) (split : Split.Link) :
    Underway plan (exchange.pass split (carrier.sendAddress split).2)
      (carrier.sendAddress split).1 := by
  unfold Carrier.sendAddress
  split
  · rw [Exchange.pass_self]
    exact underway
  · rename_i unsent
    rw [Bool.not_eq_true] at unsent
    have nothing := underway.quiet (.inr unsent)
    split
    · rename_i write
      split
      · rename_i sends
        rw [underway.write] at write
        rw [Exchange.pass_writeAddress, Channel.driven?_send sends]
        exact {
          underway with
          writeAddresses := by
            simp only [underway.writeAddresses, unsent, write, underway.burst, Option.toList_some]
            rfl
          readAddresses := by simp only [underway.readAddresses, write]; rfl
          quiet := fun _ => nothing }
      · rw [Exchange.pass_self]
        exact underway
    · rename_i read
      split
      · rename_i sends
        rw [underway.write, Bool.not_eq_true] at read
        rw [Exchange.pass_readAddress, Channel.driven?_send sends]
        exact {
          underway with
          writeAddresses := by simp only [underway.writeAddresses, read]; rfl
          readAddresses := by
            simp only [underway.readAddresses, unsent, read, underway.burst, Option.toList_some]
            rfl
          quiet := fun _ => nothing }
      · rw [Exchange.pass_self]
        exact underway

theorem sendBeat (underway : Underway plan exchange carrier) (split : Split.Link) :
    Underway plan (exchange.pass split (carrier.sendBeat split).2)
      (carrier.sendBeat split).1 := by
  unfold Carrier.sendBeat
  split
  · rw [Exchange.pass_self]
    exact underway
  · rename_i beat beats some_
    split
    · rename_i sends
      rw [Exchange.pass_writeData, Channel.driven?_send sends]
      exact {
        underway with
        writeData := by
          rw [← underway.writeData, some_, List.append_assoc]
          rfl }
    · rw [Exchange.pass_self]
      exact underway

theorem send (underway : Underway plan exchange carrier) (split : Split.Link) :
    Underway plan (exchange.pass split (carrier.send split).2) (carrier.send split).1 := by
  have addressed := underway.sendAddress split
  unfold Carrier.send
  dsimp only
  split
  · rw [← exchange.pass_pass (.of_send carrier split)]
    exact addressed.sendBeat _
  · exact addressed

theorem beats_nil (underway : Underway plan exchange carrier)
    (whole : plan.beats.length = if plan.write then plan.burst.beats else 0)
    (read : plan.write = false) :
    plan.beats = [] ∧ carrier.beats = [] ∧ exchange.writeData = [] := by
  rw [read] at whole
  have none_ := List.eq_nil_of_length_eq_zero whole
  have parts := underway.writeData
  rw [none_] at parts
  obtain ⟨sent, left⟩ := List.append_eq_nil_iff.mp parts
  exact ⟨none_, left, sent⟩

/-- A burst under way is in its order so far. -/
theorem follows (underway : Underway plan exchange carrier) : exchange.Follows plan where
  writeAddresses := by
    rw [underway.writeAddresses]
    cases plan.write <;> cases carrier.addressSent <;> simp
  writeData := ⟨carrier.beats, underway.writeData⟩
  readAddresses := by
    rw [underway.readAddresses]
    cases plan.write <;> cases carrier.addressSent <;> simp
  writeResponses := by
    rw [underway.writeResponses]
    exact Nat.zero_le _
  readData := by
    cases write : plan.write with
    | true => simp [underway.quiet (.inl write)]
    | false => exact Nat.le_of_lt underway.readData

/-- A write whose response came after everything was sent is complete. -/
theorem completed_write (underway : Underway plan exchange carrier)
    (whole : plan.beats.length = if plan.write then plan.burst.beats else 0)
    (write : plan.write = true) (sent : carrier.addressSent = true) (left : carrier.beats = [])
    (response : WriteResponse) :
    Exchange.Completed plan
      { exchange with writeResponses := exchange.writeResponses ++ [response] } where
  writeAddresses := by simp [underway.writeAddresses, write, sent]
  writeData := by
    have parts := underway.writeData
    rw [left, List.append_nil] at parts
    exact parts
  writeBeats := by
    have parts := underway.writeData
    rw [left, List.append_nil] at parts
    rw [← whole, ← parts]
  readAddresses := by simp [underway.readAddresses, write]
  writeResponses := by simp [underway.writeResponses, write]
  readData := by simp [underway.quiet (.inl write), write]
  last := by
    intro index beat there
    rw [show exchange.readData = [] from underway.quiet (.inl write)] at there
    cases there

/-- Read data that is not the last leaves the burst under way. -/
theorem absorb (underway : Underway plan exchange carrier) (read : plan.write = false)
    (sent : carrier.addressSent = true) {beat : ReadBeat} (unmarked : beat.last = false)
    (more : exchange.readData.length + 1 ≠ plan.burst.beats) :
    Underway plan { exchange with readData := exchange.readData ++ [beat] }
      (carrier.absorb beat) :=
  { underway with
    carried := by
      rw [List.foldl_append, underway.carried]
      rfl
    readData := by
      rw [List.length_append, List.length_singleton]
      have fewer := underway.readData
      omega
    quiet := by
      rintro (write | unsent)
      · rw [read] at write
        cases write
      · exact absurd (sent.symm.trans unsent) (by decide)
    last := by
      intro other there
      rcases List.mem_append.mp there with earlier | now
      · exact underway.last other earlier
      · rw [List.mem_singleton.mp now]
        exact unmarked }

theorem completed_read (underway : Underway plan exchange carrier)
    (whole : plan.beats.length = if plan.write then plan.burst.beats else 0)
    (read : plan.write = false) (sent : carrier.addressSent = true) {beat : ReadBeat}
    (marked : beat.last = true) (all : exchange.readData.length + 1 = plan.burst.beats) :
    Exchange.Completed plan { exchange with readData := exchange.readData ++ [beat] } := by
  obtain ⟨none_, _, unwritten⟩ := underway.beats_nil whole read
  exact {
    writeAddresses := by simp [underway.writeAddresses, read]
    writeData := unwritten.trans none_.symm
    writeBeats := by simp [unwritten, read]
    readAddresses := by simp [underway.readAddresses, read, sent]
    writeResponses := by simp [underway.writeResponses, read]
    readData := by simp [read, all]
    last := by
      intro index other there
      dsimp only at there
      rcases Nat.lt_or_ge index exchange.readData.length with early | late
      · rw [List.getElem?_append_left early] at there
        rw [underway.last other (List.mem_of_getElem? there)]
        exact (decide_eq_false (by omega)).symm
      · have inside := (List.getElem?_eq_some_iff.mp there).1
        rw [List.length_append, List.length_singleton] at inside
        have final : index = exchange.readData.length := by omega
        rw [final, List.getElem?_concat_length] at there
        cases there
        rw [marked, final]
        exact (decide_eq_true all).symm }

end Underway

/-- The burst `plan` carries out a request, and nothing of it is done. -/
structure Planned (bridge : Outbound) (request : Request) (plan : Carrier) : Prop where
  burst : ∃ nextId, plan = { bridge with nextId }.plan request
  /-- The address announces as many data beats as a write has. -/
  whole : plan.beats.length = if plan.write then plan.burst.beats else 0
  unsent : plan.addressSent = false
  received : plan.received = 0
  status : plan.status = .okay

theorem Planned.of_plan {bridge present : Outbound} (regular : bridge.conversion.IsRegular)
    (conversion : present.conversion = bridge.conversion)
    (windowBase : present.windowBase = bridge.windowBase) (request : Request) :
    Planned bridge request (present.plan request) where
  burst := by
    refine ⟨present.nextId, ?_⟩
    unfold plan
    rw [conversion, windowBase]
  whole := present.beats_plan (by rw [conversion]; exact regular) request
  unsent := rfl
  received := rfl
  status := rfl

section

variable {bridge : Outbound} {exchange : Exchange} {plan carrier : Carrier}

namespace Exchange

theorem Completed.follows (completed : exchange.Completed plan) : exchange.Follows plan :=
  ⟨completed.writeAddresses ▸ List.prefix_rfl, completed.writeData ▸ List.prefix_rfl,
    completed.readAddresses ▸ List.prefix_rfl, Nat.le_of_eq completed.writeResponses,
    Nat.le_of_eq completed.readData⟩

theorem InOrder.unanswered (planned : Planned bridge exchange.request plan)
    (follows : exchange.Follows plan) (none_ : exchange.replies = []) :
    exchange.InOrder bridge := by
  obtain ⟨nextId, rfl⟩ := planned.burst
  refine ⟨nextId, follows, ?_, ?_⟩
  · rw [none_]
    exact Nat.zero_le _
  · rw [none_]
    exact nofun

theorem InOrder.refused (planned : Planned bridge exchange.request plan)
    (follows : exchange.Follows plan) (none_ : exchange.replies = []) :
    (exchange.answer [⟨.refused, true⟩]).InOrder bridge := by
  obtain ⟨nextId, rfl⟩ := planned.burst
  refine ⟨nextId, { follows with }, ?_, ?_⟩
  · simp [answer, none_]
  · intro reply there
    rw [answer, none_, List.nil_append] at there
    rw [List.mem_singleton.mp there]
    rfl

theorem InOrder.done (planned : Planned bridge exchange.request plan)
    (completed : exchange.Completed plan) (none_ : exchange.replies = []) :
    (exchange.answer [⟨exchange.response plan, false⟩]).InOrder bridge := by
  obtain ⟨nextId, rfl⟩ := planned.burst
  refine ⟨nextId, { completed.follows with }, ?_, ?_⟩
  · simp [answer, none_]
  · intro reply there
    rw [answer, none_, List.nil_append] at there
    rw [List.mem_singleton.mp there]
    exact ⟨{ completed with }, rfl⟩

theorem isOpen_answer (exchange : Exchange) (reply : Reply) :
    (exchange.answer [reply]).isOpen = false := by
  unfold isOpen answer
  cases exchange.replies <;> rfl

end Exchange

namespace Underway

theorem received (planned : Planned bridge exchange.request plan)
    (underway : Underway plan exchange carrier) : carrier.received = exchange.readData.length := by
  have same := congrArg Carrier.received underway.carried
  rw [Carrier.received_foldl_absorb, planned.received, Nat.zero_add] at same
  exact same.symm

theorem expectsWrite (planned : Planned bridge exchange.request plan)
    (underway : Underway plan exchange carrier) : exchange.expectsWrite = carrier.expectsWrite := by
  unfold Exchange.expectsWrite Exchange.isOpen Carrier.expectsWrite
  rw [underway.replies, underway.writeAddresses, underway.write]
  cases write : plan.write with
  | false => rfl
  | true =>
    cases carrier.addressSent with
    | false => rfl
    | true =>
      have whole := planned.whole
      rw [write, if_pos rfl, ← underway.writeData, List.length_append] at whole
      have left :
          decide (exchange.writeData.length = plan.burst.beats) = carrier.beats.isEmpty := by
        rw [Bool.eq_iff_iff, decide_eq_true_iff, List.isEmpty_iff_length_eq_zero]
        omega
      simp [left]

theorem expectsRead (underway : Underway plan exchange carrier) :
    exchange.expectsRead = carrier.expectsRead := by
  unfold Exchange.expectsRead Exchange.isOpen Carrier.expectsRead
  rw [underway.replies, underway.readAddresses, underway.write]
  cases plan.write <;> cases carrier.addressSent <;> simp [underway.readData]

theorem expectsLast (planned : Planned bridge exchange.request plan)
    (underway : Underway plan exchange carrier) (expects : carrier.expectsRead = true) :
    exchange.expectsLast = decide (carrier.received + 1 = carrier.burst.beats) := by
  unfold Carrier.expectsRead at expects
  rw [underway.write] at expects
  unfold Exchange.expectsLast
  rw [underway.readAddresses, expects, underway.received planned, underway.burst]
  simp

theorem response_write (underway : Underway plan exchange carrier) (write : plan.write = true)
    (response : WriteResponse) :
    Exchange.response plan
        { exchange with writeResponses := exchange.writeResponses ++ [response] } =
      ⟨0, !response.status.isOkay⟩ := by
  unfold Exchange.response
  rw [if_pos write, underway.writeResponses]
  simp

/-- The answer to a read is what was gathered, and an error if one beat said so. -/
theorem response_read (planned : Planned bridge exchange.request plan)
    (underway : Underway plan exchange carrier) (read : plan.write = false) (beat : ReadBeat) :
    Exchange.response plan { exchange with readData := exchange.readData ++ [beat] } =
      ⟨(carrier.absorb beat).data, !(carrier.absorb beat).status.isOkay⟩ := by
  have status := plan.isOkay_foldl_absorb (exchange.readData ++ [beat])
  rw [planned.status, List.foldl_append, underway.carried] at status
  unfold Exchange.response
  rw [read, List.foldl_append, underway.carried]
  have okay : (carrier.absorb beat).status.isOkay =
      !(exchange.readData ++ [beat]).any fun beat => !beat.status.isOkay := status
  rw [okay, Bool.not_not]
  rfl

end Underway

end

end Outbound

end BusFabric.Bridge
