import BusFabric.Proofs.Split.RamLog

set_option autoImplicit false

namespace BusFabric.Split.Ram

variable {ram : Ram} {link : Link} {log : ReadLog} {cycle : Nat} {memory : Memory}

/-- The log of the read channels fits a memory. -/
structure ReadLog.Sound (log : ReadLog) (ram : Ram) : Prop where
  underway : Underway log.bursts log.deliveries.length ram.read
  waited : ram.waited ≤ ram.latency
  deliveries : ∀ (index : Nat) (delivery : Delivery), log.deliveries[index]? = some delivery →
    ∃ spot, (spots log.bursts)[index]? = some spot ∧
      delivery.beat = dueBeat spot delivery.memory ram.busBytes

theorem ReadLog.Sound.acceptRead (sound : log.Sound ram) (cycle : Nat) (memory : Memory)
    (link : Link) :
    (log.observe cycle memory link (ram.acceptRead link).2).Sound (ram.acceptRead link).1 := by
  unfold ReadLog.observe Ram.acceptRead
  cases read : ram.read with
  | some progress => simpa using sound
  | none =>
    have rests := sound.underway
    rw [read] at rests
    simp only [Channel.taken?_clear, Channel.driven?_self, Option.toList_none, List.map_nil,
      List.append_nil]
    cases waits : link.readAddress.beat with
    | none =>
      simp only [Option.toList_none, List.append_nil]
      exact ⟨rests, Nat.zero_le _, sound.deliveries⟩
    | some burst =>
      refine ⟨rests.begins burst, Nat.zero_le _, fun index delivery found => ?_⟩
      obtain ⟨spot, here, same⟩ := sound.deliveries index delivery found
      refine ⟨spot, ?_, same⟩
      show (spots (log.bursts ++ [burst]))[index]? = some spot
      rw [spots_append, List.getElem?_append_left (List.getElem?_eq_some_iff.mp here).1]
      exact here

def drove (ram : Ram) (progress : Progress) : Ram :=
  { ram with
    read := if progress.beat + 1 = progress.burst.beats then none
      else some { progress with beat := progress.beat + 1 }
    waited := 0 }

/-- What the memory does for the present read beat: nothing, waiting or driving. -/
inductive Drive (ram : Ram) (link : Link) : Ram × Link → Prop
  | rests (read : ram.read = none) : Drive ram link (ram, link)
  | stalls {progress : Progress} {held : ReadBeat} (read : ram.read = some progress)
      (ripe : ram.latency ≤ ram.waited) (full : link.readData.beat = some held) :
      Drive ram link (ram, link)
  | waits {progress : Progress} (read : ram.read = some progress)
      (early : ram.waited < ram.latency) :
      Drive ram link ({ ram with waited := ram.waited + 1 }, link)
  | drives {progress : Progress} (read : ram.read = some progress)
      (ripe : ram.latency ≤ ram.waited) (free : link.readData.beat = none) :
      Drive ram link (ram.drove progress, { link with readData := ⟨some (ram.readBeat progress)⟩ })

theorem driveBeat_drive (ram : Ram) (link : Link) : Drive ram link (ram.driveBeat link) := by
  unfold driveBeat
  split
  · exact .rests ‹_›
  · rename_i progress read
    split
    · exact .waits read ‹_›
    · have ripe : ram.latency ≤ ram.waited := Nat.le_of_not_lt ‹_›
      unfold Channel.send?
      cases full : link.readData.beat with
      | some held => exact .stalls read ripe full
      | none =>
        have drives := Drive.drives read ripe full
        unfold drove at drives
        simpa [readBeat] using drives

theorem ReadLog.observe_self (log : ReadLog) (cycle : Nat) (memory : Memory) (link : Link) :
    log.observe cycle memory link link = log := by
  unfold ReadLog.observe
  simp

theorem ReadLog.Sound.driveBeat (sound : log.Sound ram) (cycle : Nat) (link : Link) :
    (log.observe cycle ram.memory link (ram.driveBeat link).2).Sound (ram.driveBeat link).1 := by
  have stage := ram.driveBeat_drive link
  generalize ram.driveBeat link = after at stage
  cases stage with
  | rests | stalls =>
    rw [ReadLog.observe_self]
    exact sound
  | waits read early =>
    rw [ReadLog.observe_self]
    exact ⟨sound.underway, early, sound.deliveries⟩
  | @drives progress read ripe free =>
    have works := sound.underway
    rw [read] at works
    have seen : log.observe cycle ram.memory link
        { link with readData := ⟨some (ram.readBeat progress)⟩ } =
        { log with deliveries := log.deliveries ++
            [⟨cycle, ram.readBeat progress, ram.memory⟩] } := by
      unfold ReadLog.observe Channel.driven? Channel.isReady
      simp [free]
    rw [seen]
    constructor
    case waited => exact Nat.zero_le _
    case underway =>
      unfold drove
      dsimp only
      rw [List.length_append]
      split
      · exact works.ends ‹_›
      · exact works.goesOn ‹_›
    case deliveries =>
      intro index delivery found
      dsimp only at found ⊢
      rw [List.getElem?_append] at found
      split at found
      · exact sound.deliveries index delivery found
      · rename_i outside
        rw [List.getElem?_singleton, Option.ite_none_right_eq_some] at found
        obtain ⟨first, found⟩ := found
        obtain rfl : index = log.deliveries.length := by omega
        cases found
        exact ⟨progress, works.getElem?_spots, rfl⟩

theorem ReadLog.observe_trans (log : ReadLog) (cycle : Nat) (memory : Memory)
    (first second third : Link)
    (address : first.readAddress = second.readAddress ∨ second.readAddress = third.readAddress)
    (data : first.readData = second.readData ∨ second.readData = third.readData) :
    log.observe cycle memory first third =
      (log.observe cycle memory first second).observe cycle memory second third := by
  unfold ReadLog.observe
  rw [Channel.taken?_trans address, Channel.driven?_trans data]
  simp only [List.append_assoc, List.map_append]

structure KeepsWrites (before after : Ram × Link) : Prop where
  busBytes : after.1.busBytes = before.1.busBytes
  latency : after.1.latency = before.1.latency
  memory : after.1.memory = before.1.memory
  write : after.1.write = before.1.write
  owed : after.1.owed = before.1.owed
  writeAddress : after.2.writeAddress = before.2.writeAddress
  writeData : after.2.writeData = before.2.writeData
  writeResponse : after.2.writeResponse = before.2.writeResponse

theorem acceptRead_keepsWrites (ram : Ram) (link : Link) :
    KeepsWrites (ram, link) (ram.acceptRead link) := by
  unfold acceptRead
  split <;> exact ⟨rfl, rfl, rfl, rfl, rfl, rfl, rfl, rfl⟩

theorem driveBeat_keepsWrites (ram : Ram) (link : Link) :
    KeepsWrites (ram, link) (ram.driveBeat link) := by
  have stage := ram.driveBeat_drive link
  generalize ram.driveBeat link = after at stage
  cases stage <;> exact ⟨rfl, rfl, rfl, rfl, rfl, rfl, rfl, rfl⟩

theorem tickRead_keepsWrites (ram : Ram) (link : Link) :
    KeepsWrites (ram, link) (ram.tickRead link) := by
  have accepts := ram.acceptRead_keepsWrites link
  have drives := (ram.acceptRead link).1.driveBeat_keepsWrites (ram.acceptRead link).2
  exact ⟨drives.busBytes.trans accepts.busBytes, drives.latency.trans accepts.latency,
    drives.memory.trans accepts.memory, drives.write.trans accepts.write,
    drives.owed.trans accepts.owed, drives.writeAddress.trans accepts.writeAddress,
    drives.writeData.trans accepts.writeData, drives.writeResponse.trans accepts.writeResponse⟩

theorem acceptRead_readData (ram : Ram) (link : Link) :
    (ram.acceptRead link).2.readData = link.readData := by
  unfold acceptRead
  split <;> rfl

theorem driveBeat_readAddress (ram : Ram) (link : Link) :
    (ram.driveBeat link).2.readAddress = link.readAddress := by
  have stage := ram.driveBeat_drive link
  generalize ram.driveBeat link = after at stage
  cases stage <;> rfl

theorem tickRead_readData (ram : Ram) (link : Link) :
    (ram.tickRead link).2.readData = link.readData ∨ link.readData.beat = none := by
  have same := ram.acceptRead_readData link
  have stage := (ram.acceptRead link).1.driveBeat_drive (ram.acceptRead link).2
  unfold tickRead
  dsimp only
  generalize (ram.acceptRead link).1.driveBeat (ram.acceptRead link).2 = after at stage
  cases stage with
  | rests | stalls | waits => exact .inl same
  | drives _ _ free => exact .inr (same ▸ free)

/-- The address that waits is taken if no burst is under way. -/
theorem tickRead_readAddress (rests : ram.read = none) :
    (ram.tickRead link).2.readAddress = link.readAddress.clear := by
  have taken : (ram.acceptRead link).2.readAddress = link.readAddress.clear := by
    unfold acceptRead
    rw [rests]
  exact (driveBeat_readAddress _ _).trans taken

theorem ReadLog.observe_tickRead (log : ReadLog) (cycle : Nat) (memory : Memory) (ram : Ram)
    (link : Link) :
    let accepted := ram.acceptRead link
    log.observe cycle memory link (ram.tickRead link).2 =
      (log.observe cycle memory link accepted.2).observe cycle memory accepted.2
        (ram.tickRead link).2 :=
  log.observe_trans _ _ _ _ _ (.inr (driveBeat_readAddress _ _).symm)
    (.inl (acceptRead_readData _ _).symm)

/-- A cycle of the read channels keeps the log in step. -/
theorem ReadLog.Sound.tickRead (sound : log.Sound ram) :
    (log.observe cycle ram.memory link (ram.tickRead link).2).Sound (ram.tickRead link).1 := by
  have drives :=
    (sound.acceptRead cycle ram.memory link).driveBeat cycle (ram.acceptRead link).2
  rw [(ram.acceptRead_keepsWrites link).memory] at drives
  rw [ReadLog.observe_tickRead]
  exact drives

/-- How far the reads have come: each beat counts for the cycles it waits and the one in which it is
driven. -/
def ReadLog.score (log : ReadLog) (ram : Ram) : Nat :=
  log.deliveries.length * (ram.latency + 1) + ram.waited

/-- While a burst is unfinished, no cycle loses ground, and each that finds the channel free gains
some. -/
theorem ReadLog.Sound.gains (sound : log.Sound ram)
    (unfinished : log.deliveries.length < (spots log.bursts).length) :
    log.score ram + (if link.readData.isReady then 1 else 0) ≤
      (log.observe cycle memory link (ram.tickRead link).2).score (ram.tickRead link).1 := by
  obtain ⟨progress, read⟩ := sound.underway.exists_of_lt unfinished
  have skips : ram.tickRead link = ram.driveBeat link := by
    unfold Ram.tickRead Ram.acceptRead
    rw [read]
  have bound := sound.waited
  have stage := ram.driveBeat_drive link
  rw [skips]
  generalize ram.driveBeat link = after at stage
  unfold score Channel.isReady
  cases stage with
  | rests none_ => cases read.symm.trans none_
  | stalls _ _ full =>
    rw [ReadLog.observe_self, full]
    exact Nat.le_refl _
  | waits =>
    rw [ReadLog.observe_self]
    dsimp only
    split <;> omega
  | @drives driven _ _ free =>
    have one : (log.observe cycle memory link
        { link with readData := ⟨some (ram.readBeat driven)⟩ }).deliveries.length =
        log.deliveries.length + 1 := by
      unfold ReadLog.observe Channel.driven? Channel.isReady
      simp [free]
    rw [one, free]
    unfold drove
    dsimp only
    rw [Nat.add_mul]
    simp only [Option.isNone_none, if_true]
    omega

/-- The read channels of two memories agree but for the data. -/
structure ReadAlike (first second : Ram × Link) : Prop where
  latency : first.1.latency = second.1.latency
  read : first.1.read = second.1.read
  waited : first.1.waited = second.1.waited
  readAddress : first.2.readAddress = second.2.readAddress
  readData : first.2.readData.isReady = second.2.readData.isReady

/-- The read beat that a cycle drove, without its data. -/
def drivenMark? (before after : Link) : Option (BitVec 32 × Bool) :=
  (before.readData.driven? after.readData).map fun beat => (beat.id, beat.last)

theorem ReadAlike.acceptRead {first second : Ram × Link} (alike : ReadAlike first second) :
    ReadAlike (first.1.acceptRead first.2) (second.1.acceptRead second.2) := by
  unfold Ram.acceptRead
  rw [alike.read]
  cases read : second.1.read with
  | some progress =>
    exact ⟨alike.latency, alike.read, alike.waited, alike.readAddress, alike.readData⟩
  | none =>
    refine ⟨alike.latency, ?_, rfl, rfl, alike.readData⟩
    dsimp only
    rw [alike.readAddress]

theorem ReadLog.marks_observe (log : ReadLog) (cycle : Nat) (memory : Memory)
    (before after : Link) :
    (log.observe cycle memory before after).deliveries.map (·.mark) =
      log.deliveries.map (·.mark) ++ (drivenMark? before after).toList.map (cycle, ·) := by
  unfold ReadLog.observe drivenMark?
  rw [List.map_append]
  cases before.readData.driven? after.readData <;> rfl

theorem drivenMark?_self (link : Link) : drivenMark? link link = none := by
  unfold drivenMark?
  rw [Channel.driven?_self]
  rfl

theorem ReadAlike.driveBeat {first second : Ram × Link} (alike : ReadAlike first second) :
    ReadAlike (first.1.driveBeat first.2) (second.1.driveBeat second.2) ∧
      drivenMark? first.2 (first.1.driveBeat first.2).2 =
        drivenMark? second.2 (second.1.driveBeat second.2).2 := by
  have ready := alike.readData
  unfold Ram.driveBeat
  rw [alike.read, alike.waited, alike.latency]
  cases read : second.1.read with
  | none => exact ⟨alike, (drivenMark?_self _).trans (drivenMark?_self _).symm⟩
  | some progress =>
    dsimp only
    by_cases early : second.1.waited < second.1.latency
    · rw [if_pos early, if_pos early]
      exact ⟨⟨rfl, rfl, rfl, alike.readAddress, ready⟩,
        (drivenMark?_self _).trans (drivenMark?_self _).symm⟩
    · rw [if_neg early, if_neg early]
      unfold Channel.isReady at ready
      unfold Channel.send?
      cases full : first.2.readData.beat with
      | some held =>
        obtain ⟨held', full'⟩ : ∃ held', second.2.readData.beat = some held' := by
          rw [full] at ready
          exact Option.ne_none_iff_exists'.mp fun none_ => by rw [none_] at ready; cases ready
        rw [full']
        exact ⟨alike, (drivenMark?_self _).trans (drivenMark?_self _).symm⟩
      | none =>
        have full' : second.2.readData.beat = none := by
          rw [full] at ready
          exact Option.isNone_iff_eq_none.mp ready.symm
        rw [full']
        -- the two beats must not be compared as a whole, since their data differ
        have occupied : ∀ beat other : ReadBeat,
            Channel.isReady ⟨some beat⟩ = Channel.isReady ⟨some other⟩ := fun _ _ => rfl
        dsimp only [readBeat]
        refine ⟨⟨rfl, rfl, rfl, alike.readAddress, occupied _ _⟩, ?_⟩
        unfold drivenMark? Channel.driven? Channel.isReady
        rw [full, full']
        simp only [Option.isNone_none, if_true, Option.map_some]

/-- What a cycle drives, apart from the data, depends on the read channels alone. -/
theorem ReadAlike.tickRead {first second : Ram × Link} (alike : ReadAlike first second) :
    ReadAlike (first.1.tickRead first.2) (second.1.tickRead second.2) ∧
      drivenMark? first.2 (first.1.tickRead first.2).2 =
        drivenMark? second.2 (second.1.tickRead second.2).2 := by
  have drives := alike.acceptRead.driveBeat
  unfold drivenMark? at drives ⊢
  rw [acceptRead_readData, acceptRead_readData] at drives
  exact drives

end BusFabric.Split.Ram
