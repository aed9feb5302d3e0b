import BusFabric.Proofs.Split.RamLog

set_option autoImplicit false

namespace BusFabric.Split

namespace Channel

variable {α : Type} {channel : Channel α} {held : α}

theorem settle_of_held (full : channel.beat = some held) (owed : Option α) :
    channel.settle owed = (channel, owed) := by
  obtain ⟨_ | _⟩ := channel
  · cases full
  · cases owed <;> rfl

/-- Nothing is driven, or the channel is occupied afterwards. -/
theorem settle_eq_or_held (channel : Channel α) (owed : Option α) :
    (channel.settle owed).1 = channel ∨ ∃ held, (channel.settle owed).1.beat = some held := by
  cases owed with
  | none => exact .inl rfl
  | some beat => obtain ⟨_ | held⟩ := channel <;> exact .inr ⟨_, rfl⟩

end Channel

namespace Ram

variable {ram : Ram} {link : Link} {memory : Memory} {log : WriteLog}

theorem zip_append_of_length_le {α β : Type} (front rest : List α) (back : List β)
    (fits : back.length ≤ front.length) : (front ++ rest).zip back = front.zip back := by
  induction back generalizing front with
  | nil => rw [List.zip_nil_right, List.zip_nil_right]
  | cons last back ih =>
    cases front with
    | nil => cases fits
    | cons first front =>
      rw [List.cons_append, List.zip_cons_cons, List.zip_cons_cons,
        ih front (Nat.le_of_succ_le_succ fits)]

theorem zip_concat {α β : Type} {front : List α} {back : List β} {first : α}
    (here : front[back.length]? = some first) (last : β) :
    front.zip (back ++ [last]) = front.zip back ++ [(first, last)] := by
  induction back generalizing front with
  | nil =>
    cases front with
    | nil => cases here
    | cons _ rest =>
      cases here
      rw [List.nil_append, List.zip_cons_cons, List.zip_nil_right, List.zip_nil_right]
      rfl
  | cons _ back ih =>
    cases front with
    | nil => cases here
    | cons _ front =>
      rw [List.cons_append, List.zip_cons_cons, List.zip_cons_cons, ih here]
      rfl

/-- A burst that is taken stores nothing yet. -/
theorem filled_append (busBytes : Nat) {bursts : List AddressBeat} {data : List WriteBeat}
    (fits : data.length ≤ (spots bursts).length) (more : List AddressBeat) :
    filled memory busBytes (bursts ++ more) data = filled memory busBytes bursts data := by
  unfold filled
  rw [spots_append, zip_append_of_length_le _ _ _ fits]

theorem filled_concat (busBytes : Nat) {bursts : List AddressBeat} {data : List WriteBeat}
    {spot : Progress} (here : (spots bursts)[data.length]? = some spot) (beat : WriteBeat) :
    filled memory busBytes bursts (data ++ [beat]) =
      (filled memory busBytes bursts data).writeWord (spot.word busBytes) beat.data beat.strobe
        busBytes := by
  unfold filled
  rw [zip_concat here, List.foldl_append]
  rfl

/-- The log of the write channels fits a memory. -/
structure WriteLog.Sound (log : WriteLog) (memory : Memory) (ram : Ram) : Prop where
  underway : Underway log.bursts log.data.length ram.write
  memory : ram.memory = filled memory ram.busBytes log.bursts log.data
  responses : log.responses ++ ram.owed.toList =
    (completed log.bursts log.data.length).map fun burst => ⟨burst.id, .okay⟩

/-- Two steps are seen as one if no channel changes in both. -/
theorem WriteLog.observe_trans (log : WriteLog) {first : Link} (second third : Link)
    (address : first.writeAddress = second.writeAddress ∨
      second.writeAddress = third.writeAddress)
    (data : first.writeData = second.writeData ∨ second.writeData = third.writeData)
    (response : first.writeResponse = second.writeResponse ∨
      second.writeResponse = third.writeResponse) :
    log.observe first third = (log.observe first second).observe second third := by
  unfold WriteLog.observe
  rw [Channel.taken?_trans address, Channel.taken?_trans data, Channel.driven?_trans response]
  simp only [List.append_assoc]

theorem WriteLog.observe_self (log : WriteLog) (link : Link) : log.observe link link = log := by
  unfold WriteLog.observe
  simp

theorem WriteLog.Sound.respond (sound : log.Sound memory ram) :
    (log.observe link (ram.respond link ram.owed).2).Sound memory
      (ram.respond link ram.owed).1 := by
  have driven := link.writeResponse.driven?_settle ram.owed
  unfold WriteLog.observe Ram.respond
  dsimp only
  simp only [Channel.taken?_self, Option.toList_none, List.append_nil]
  refine ⟨sound.underway, sound.memory, ?_⟩
  rw [List.append_assoc, driven]
  exact sound.responses

theorem WriteLog.Sound.acceptWrite (sound : log.Sound memory ram) :
    (log.observe link (ram.acceptWrite link).2).Sound memory (ram.acceptWrite link).1 := by
  unfold WriteLog.observe Ram.acceptWrite
  cases write : ram.write with
  | some progress => simpa using sound
  | none =>
    have rests := sound.underway
    rw [write] at rests
    simp only [Channel.taken?_self, Channel.taken?_clear, Channel.driven?_self, Option.toList_none,
      List.append_nil]
    cases waits : link.writeAddress.beat with
    | none =>
      simp only [Option.toList_none, List.append_nil]
      exact ⟨rests, sound.memory, sound.responses⟩
    | some burst =>
      have taken := rests.begins burst
      refine ⟨taken, ?_, ?_⟩
      · exact sound.memory.trans (filled_append _ rests.length_le _).symm
      · show log.responses ++ ram.owed.toList =
          (completed (log.bursts ++ [burst]) log.data.length).map _
        rw [rests.completed_begins]
        exact sound.responses

/-- The memory when it has stored a data beat, but not driven the response that this made due. -/
def took (ram : Ram) (progress : Progress) (beat : WriteBeat) : Ram :=
  { ram with
    memory := ram.memory.writeWord (ram.wordAddress progress) beat.data beat.strobe ram.busBytes
    write := if progress.beat + 1 = progress.burst.beats then none
      else some { progress with beat := progress.beat + 1 }
    owed := if progress.beat + 1 = progress.burst.beats then some ⟨progress.burst.id, .okay⟩
      else none }

/-- Storing a data beat comes before driving what is owed for it, if anything is. -/
theorem storeBeat_eq {progress : Progress} {beat : WriteBeat} (write : ram.write = some progress)
    (owed : ram.owed = none) (waits : link.writeData.beat = some beat) :
    ram.storeBeat link = (ram.took progress beat).respond
      { link with writeData := link.writeData.clear } (ram.took progress beat).owed := by
  obtain ⟨_, _, _, _, _, _, _, _⟩ := ram
  dsimp only at write owed
  subst write owed
  unfold Ram.storeBeat Ram.took
  rw [waits]
  dsimp only
  split <;> rfl

/-- Without a burst or without data nothing is stored. -/
theorem storeBeat_of_none (none_ : ram.write = none ∨ link.writeData.beat = none) :
    ram.storeBeat link = (ram, link) := by
  unfold Ram.storeBeat
  split
  · rename_i write waits
    rcases none_ with none_ | none_
    · cases write.symm.trans none_
    · cases waits.symm.trans none_
  · rfl

theorem WriteLog.Sound.took (sound : log.Sound memory ram) {progress : Progress}
    (write : ram.write = some progress) (owed : ram.owed = none) (beat : WriteBeat) :
    WriteLog.Sound { log with data := log.data ++ [beat] } memory (ram.took progress beat) := by
  have works := sound.underway
  rw [write] at works
  have responses := sound.responses
  rw [owed, Option.toList_none, List.append_nil] at responses
  have length : (log.data ++ [beat]).length = log.data.length + 1 := List.length_append
  have holds : (ram.took progress beat).memory =
      filled memory ram.busBytes log.bursts (log.data ++ [beat]) := by
    rw [filled_concat _ works.getElem?_spots, ← sound.memory]
    rfl
  unfold Ram.took at holds ⊢
  by_cases last : progress.beat + 1 = progress.burst.beats
  · simp only [if_pos last] at holds ⊢
    refine ⟨length ▸ works.ends last, holds, ?_⟩
    dsimp only
    rw [length, works.completed_ends last, List.map_append, responses]
    rfl
  · simp only [if_neg last] at holds ⊢
    refine ⟨length ▸ works.goesOn last, holds, ?_⟩
    dsimp only
    rw [length, works.completed_goesOn last, responses]
    exact List.append_nil _

theorem WriteLog.Sound.storeBeat (sound : log.Sound memory ram) (owed : ram.owed = none) :
    (log.observe link (ram.storeBeat link).2).Sound memory (ram.storeBeat link).1 := by
  cases write : ram.write with
  | none =>
    rw [storeBeat_of_none (.inl write), log.observe_self]
    exact sound
  | some progress =>
    cases waits : link.writeData.beat with
    | none =>
      rw [storeBeat_of_none (.inr waits), log.observe_self]
      exact sound
    | some beat =>
      let cleared : Link := { link with writeData := link.writeData.clear }
      have taken : log.observe link cleared = { log with data := log.data ++ [beat] } := by
        unfold WriteLog.observe
        simp [cleared, waits]
      have apart : log.observe link ((ram.took progress beat).respond cleared _).2 =
          (log.observe link cleared).observe cleared
            ((ram.took progress beat).respond cleared (ram.took progress beat).owed).2 :=
        log.observe_trans cleared _ (.inl rfl) (.inr rfl) (.inl rfl)
      rw [storeBeat_eq write owed waits, apart, taken]
      exact (sound.took write owed beat).respond

/-- A memory whose response finds its channel occupied does nothing. -/
theorem tickWrite_of_held {response held : WriteResponse} (owed : ram.owed = some response)
    (full : link.writeResponse.beat = some held) : ram.tickWrite link = (ram, link) := by
  obtain ⟨_, _, _, _, _, _, _, _⟩ := ram
  dsimp only at owed
  subst owed
  unfold tickWrite respond
  rw [Channel.settle_of_held full]
  rfl

theorem respond_owed (ram : Ram) {response : Option WriteResponse}
    (free : response = none ∨ link.writeResponse.beat = none) :
    (ram.respond link response).1.owed = none := by
  unfold respond
  rcases free with none_ | none_
  · rw [none_]
    rfl
  · cases response with
    | none => rfl
    | some response =>
      unfold Channel.settle Channel.send?
      rw [none_]

/-- Otherwise the memory drives what it owes, and goes on. -/
theorem tickWrite_of_free (free : ram.owed = none ∨ link.writeResponse.beat = none) :
    ram.tickWrite link =
      let (responded, link) := ram.respond link ram.owed
      let (accepted, link) := responded.acceptWrite link
      accepted.storeBeat link := by
  have paid := ram.respond_owed free
  unfold tickWrite
  dsimp only
  rw [paid]
  rfl

theorem acceptWrite_owed (ram : Ram) (link : Link) : (ram.acceptWrite link).1.owed = ram.owed := by
  unfold acceptWrite
  split <;> rfl

theorem acceptWrite_data (ram : Ram) (link : Link) :
    (ram.acceptWrite link).2.writeData = link.writeData ∧
      (ram.acceptWrite link).2.writeResponse = link.writeResponse := by
  unfold acceptWrite
  split <;> exact ⟨rfl, rfl⟩

theorem storeBeat_writeAddress (ram : Ram) (link : Link) :
    (ram.storeBeat link).2.writeAddress = link.writeAddress := by
  unfold storeBeat
  split
  · dsimp only
    split <;> rfl
  · rfl

theorem storeBeat_writeResponse {held : WriteResponse}
    (full : link.writeResponse.beat = some held) :
    (ram.storeBeat link).2.writeResponse = link.writeResponse := by
  unfold storeBeat
  split
  · dsimp only
    split
    · unfold respond
      rw [Channel.settle_of_held full]
    · rfl
  · rfl

/-- What lies in the response channel once the memory drove what it owed stays there. -/
theorem tickWrite_writeResponse_of_held {held : WriteResponse}
    (full : (ram.respond link ram.owed).2.writeResponse.beat = some held) :
    (ram.tickWrite link).2.writeResponse = (ram.respond link ram.owed).2.writeResponse := by
  have kept := ((ram.respond link ram.owed).1.acceptWrite_data (ram.respond link ram.owed).2).2
  unfold tickWrite
  dsimp only
  split
  · rfl
  · exact (storeBeat_writeResponse ((congrArg Channel.beat kept).trans full)).trans kept

theorem free_or_held (ram : Ram) (link : Link) :
    (ram.owed = none ∨ link.writeResponse.beat = none) ∨
      ∃ response held, ram.owed = some response ∧ link.writeResponse.beat = some held := by
  cases ram.owed with
  | none => exact .inl (.inl rfl)
  | some response =>
    cases link.writeResponse.beat with
    | none => exact .inl (.inr rfl)
    | some held => exact .inr ⟨response, held, rfl, rfl⟩

/-- The log of a cycle is that of its stages. The response channel changes in the first stage or in
the last, not in both. -/
theorem WriteLog.observe_tickWrite (log : WriteLog)
    (free : ram.owed = none ∨ link.writeResponse.beat = none) :
    let responded := ram.respond link ram.owed
    let accepted := responded.1.acceptWrite responded.2
    log.observe link (ram.tickWrite link).2 =
      ((log.observe link responded.2).observe responded.2 accepted.2).observe accepted.2
        (accepted.1.storeBeat accepted.2).2 := by
  intro responded accepted
  have kept : accepted.2.writeData = responded.2.writeData ∧
      accepted.2.writeResponse = responded.2.writeResponse := acceptWrite_data _ _
  have once : link.writeResponse = responded.2.writeResponse ∨
      responded.2.writeResponse = (accepted.1.storeBeat accepted.2).2.writeResponse := by
    rcases link.writeResponse.settle_eq_or_held ram.owed with same | ⟨held, full⟩
    · exact .inl same.symm
    · have stays := tickWrite_writeResponse_of_held full
      rw [tickWrite_of_free free] at stays
      exact .inr stays.symm
  rw [tickWrite_of_free free]
  calc log.observe link (accepted.1.storeBeat accepted.2).2
      = (log.observe link responded.2).observe responded.2
          (accepted.1.storeBeat accepted.2).2 :=
        log.observe_trans _ _ (.inl rfl) (.inl rfl) once
    _ = _ := WriteLog.observe_trans _ _ _ (.inr (storeBeat_writeAddress _ _).symm)
        (.inl kept.1.symm) (.inl kept.2.symm)

/-- A cycle of the write channels keeps the log in step. -/
theorem WriteLog.Sound.tickWrite (sound : log.Sound memory ram) :
    (log.observe link (ram.tickWrite link).2).Sound memory (ram.tickWrite link).1 := by
  rcases ram.free_or_held link with free | ⟨response, held, owed, full⟩
  · have paid := ram.respond_owed free
    rw [log.observe_tickWrite free, tickWrite_of_free free]
    exact sound.respond.acceptWrite.storeBeat ((acceptWrite_owed _ _).trans paid)
  · rw [tickWrite_of_held owed full, log.observe_self]
    exact sound

theorem acceptWrite_of_rests (link : Link) (rests : ram.write = none) :
    (ram.acceptWrite link).2.writeAddress = link.writeAddress.clear ∧
      (ram.acceptWrite link).1.write = link.writeAddress.beat.map ({ burst := · }) := by
  unfold acceptWrite
  rw [rests]
  exact ⟨rfl, rfl⟩

theorem acceptWrite_of_works {progress : Progress} (works : ram.write = some progress) :
    ram.acceptWrite link = (ram, link) := by
  unfold acceptWrite
  rw [works]

theorem storeBeat_writeData {progress : Progress} (works : ram.write = some progress) :
    (ram.storeBeat link).2.writeData = ⟨none⟩ := by
  unfold storeBeat
  rw [works]
  cases waits : link.writeData.beat with
  | none => exact congrArg Channel.mk waits
  | some beat =>
    dsimp only
    split <;> rfl

/-- The address that waits is taken if no burst is under way. -/
theorem tickWrite_writeAddress (free : ram.owed = none ∨ link.writeResponse.beat = none)
    (rests : ram.write = none) :
    (ram.tickWrite link).2.writeAddress = link.writeAddress.clear := by
  have responded : (ram.respond link ram.owed).1.write = none := rests
  rw [tickWrite_of_free free]
  exact (storeBeat_writeAddress _ _).trans (acceptWrite_of_rests _ responded).1

/-- The data beat that waits is taken if a burst is under way, or its address waits. -/
theorem tickWrite_writeData (free : ram.owed = none ∨ link.writeResponse.beat = none)
    (some_ : ram.write ≠ none ∨ link.writeAddress.isValid) :
    (ram.tickWrite link).2.writeData = ⟨none⟩ := by
  rw [tickWrite_of_free free]
  cases write : ram.write with
  | some progress =>
    have responded : (ram.respond link ram.owed).1.write = some progress := write
    dsimp only
    rw [acceptWrite_of_works responded]
    exact storeBeat_writeData responded
  | none =>
    have responded : (ram.respond link ram.owed).1.write = none := write
    obtain ⟨burst, waits⟩ :=
      Option.isSome_iff_exists.mp (some_.resolve_left (fun works => works write))
    have begun := (acceptWrite_of_rests (ram.respond link ram.owed).2 responded).2
    rw [show (ram.respond link ram.owed).2.writeAddress.beat = some burst from waits] at begun
    exact storeBeat_writeData begun

theorem tickWrite_drives {response : WriteResponse} (owed : ram.owed = some response)
    (free : link.writeResponse.beat = none) :
    (ram.tickWrite link).2.writeResponse.beat = some response := by
  have driven : (ram.respond link ram.owed).2.writeResponse.beat = some response := by
    unfold respond Channel.settle Channel.send?
    rw [owed, free]
  rw [tickWrite_writeResponse_of_held driven]
  exact driven

theorem tickWrite_writeResponse (ram : Ram) (link : Link) :
    (ram.tickWrite link).2.writeResponse = link.writeResponse ∨ link.writeResponse.beat = none := by
  cases full : link.writeResponse.beat with
  | none => exact .inr rfl
  | some held =>
    have same : (ram.respond link ram.owed).2.writeResponse = link.writeResponse := by
      unfold respond
      rw [Channel.settle_of_held full]
    exact .inl ((tickWrite_writeResponse_of_held (same ▸ full)).trans same)

/-- What is due is never forgotten, and all of it is driven if the channel is free. -/
theorem WriteLog.responses_prefix (log : WriteLog) (ram : Ram) (link : Link) :
    let after := log.observe link (ram.tickWrite link).2
    log.responses ++ ram.owed.toList <+: after.responses ++ (ram.tickWrite link).1.owed.toList ∧
      (link.writeResponse.isReady → log.responses ++ ram.owed.toList <+: after.responses) := by
  intro after
  have more : log.responses <+: after.responses := List.prefix_append _ _
  cases owed : ram.owed with
  | none =>
    rw [Option.toList_none, List.append_nil]
    exact ⟨more.trans (List.prefix_append _ _), fun _ => more⟩
  | some response =>
    cases full : link.writeResponse.beat with
    | none =>
      have drives := tickWrite_drives owed full
      have all : after.responses = log.responses ++ [response] := by
        show log.responses ++
          (link.writeResponse.driven? (ram.tickWrite link).2.writeResponse).toList = _
        unfold Channel.driven? Channel.isReady
        rw [full, drives]
        rfl
      rw [all]
      exact ⟨List.prefix_append _ _, fun _ => List.prefix_refl _⟩
    | some held =>
      unfold Channel.isReady
      rw [full]
      refine ⟨?_, nofun⟩
      have same : after = log := by
        show log.observe link (ram.tickWrite link).2 = log
        rw [tickWrite_of_held owed full, log.observe_self]
      have kept : (ram.tickWrite link).1.owed = some response :=
        (congrArg (·.1.owed) (tickWrite_of_held owed full)).trans owed
      simp only [same, kept, List.prefix_rfl]

/-- The read channels of a memory do not change. -/
structure KeepsReads (before after : Ram × Link) : Prop where
  busBytes : after.1.busBytes = before.1.busBytes
  latency : after.1.latency = before.1.latency
  read : after.1.read = before.1.read
  waited : after.1.waited = before.1.waited
  readAddress : after.2.readAddress = before.2.readAddress
  readData : after.2.readData = before.2.readData

theorem KeepsReads.trans {first second third : Ram × Link} (before : KeepsReads first second)
    (after : KeepsReads second third) : KeepsReads first third where
  busBytes := after.busBytes.trans before.busBytes
  latency := after.latency.trans before.latency
  read := after.read.trans before.read
  waited := after.waited.trans before.waited
  readAddress := after.readAddress.trans before.readAddress
  readData := after.readData.trans before.readData

theorem acceptWrite_keepsReads (ram : Ram) (link : Link) :
    KeepsReads (ram, link) (ram.acceptWrite link) := by
  unfold acceptWrite
  split <;> exact ⟨rfl, rfl, rfl, rfl, rfl, rfl⟩

theorem storeBeat_keepsReads (ram : Ram) (link : Link) :
    KeepsReads (ram, link) (ram.storeBeat link) := by
  unfold storeBeat
  split
  · dsimp only
    split <;> exact ⟨rfl, rfl, rfl, rfl, rfl, rfl⟩
  · exact ⟨rfl, rfl, rfl, rfl, rfl, rfl⟩

theorem tickWrite_keepsReads (ram : Ram) (link : Link) :
    KeepsReads (ram, link) (ram.tickWrite link) := by
  have responds : KeepsReads (ram, link) (ram.respond link ram.owed) :=
    ⟨rfl, rfl, rfl, rfl, rfl, rfl⟩
  unfold tickWrite
  dsimp only
  split
  · exact responds
  · exact (responds.trans (acceptWrite_keepsReads _ _)).trans (storeBeat_keepsReads _ _)

end Ram

end BusFabric.Split
