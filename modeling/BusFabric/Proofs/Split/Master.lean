import BusFabric.Split.Master

set_option autoImplicit false

namespace BusFabric.Split.Master

variable {master : Master} {burst : AddressBeat} {beats : List WriteBeat} {queue : List Op}

/-- The data beats from beat `next` on are on their way: one may lie in the channel, the others are
not sent yet. -/
def Buffered (beats : List WriteBeat) (next : Nat) (channel : Channel WriteBeat) (sent : Nat) :
    Prop :=
  channel.beat.toList ++ beats.drop sent = beats.drop next

def writing (master : Master) (burst : AddressBeat) (beats : List WriteBeat) (sent : Nat) :
    Master :=
  { master with current := some { op := .write burst beats, addressSent := true, sent } }

def reading (master : Master) (burst : AddressBeat) (received : List Data) : Master :=
  { master with current := some { op := .read burst, addressSent := true, received } }

theorem Buffered.refl (beats : List WriteBeat) (next : Nat) : Buffered beats next ⟨none⟩ next :=
  rfl

/-- A beat that was taken from the channel leaves the next one. -/
theorem Buffered.take {next sent : Nat} {beat : WriteBeat}
    (buffered : Buffered beats next ⟨some beat⟩ sent) : Buffered beats (next + 1) ⟨none⟩ sent := by
  unfold Buffered at *
  have tails := congrArg List.tail buffered
  rw [List.tail_drop] at tails
  exact tails

/-- Offering the next unsent beat fills the channel with the next beat there is. -/
theorem Buffered.settle {next sent : Nat} {channel : Channel WriteBeat}
    (buffered : Buffered beats next channel sent) :
    ∃ held, channel.settle beats[sent]? = (⟨beats[next]?⟩, held) ∧
      Buffered beats next ⟨beats[next]?⟩
        (if beats[sent]?.isSome && held.isNone then sent + 1 else sent) := by
  have heads := congrArg List.head? buffered
  rw [List.head?_drop] at heads
  obtain ⟨_ | beat⟩ := channel
  · rw [Option.toList_none, List.nil_append, List.head?_drop] at heads
    cases found : beats[sent]? with
    | none =>
      rw [← heads, found]
      exact ⟨none, rfl, buffered⟩
    | some beat =>
      rw [← heads, found]
      refine ⟨none, rfl, ?_⟩
      unfold Buffered at *
      obtain ⟨inside, here⟩ := List.getElem?_eq_some_iff.mp found
      rw [← buffered, Option.toList_none, List.nil_append,
        List.drop_eq_getElem_cons inside, here]
      rfl
  · rw [← heads]
    cases found : beats[sent]? with
    | none => exact ⟨none, rfl, buffered⟩
    | some _ => exact ⟨some _, rfl, buffered⟩

/-- A write is taken up: its address and its first beat are sent. -/
theorem tick_write_start (free : master.current = none)
    (next : master.queue = .write burst beats :: queue) (cycle : Nat) :
    ∃ sent, Buffered beats 0 ⟨beats[0]?⟩ sent ∧
      master.tick {} cycle =
        ({ master with queue }.writing burst beats sent,
          { writeAddress := ⟨some burst⟩, writeData := ⟨beats[0]?⟩ }) := by
  obtain ⟨held, settles, buffered⟩ := (Buffered.refl beats 0).settle
  refine ⟨_, buffered, ?_⟩
  simp only [tick, start, free, next, tickWrite, settles]
  simp [Channel.settle, Channel.clear, writing]

theorem tick_write (master : Master) (burst : AddressBeat) {next sent : Nat}
    {channel : Channel WriteBeat}
    (buffered : Buffered beats next channel sent) (cycle : Nat) :
    ∃ after, Buffered beats next ⟨beats[next]?⟩ after ∧
      (master.writing burst beats sent).tick { writeData := channel } cycle =
        (master.writing burst beats after, { writeData := ⟨beats[next]?⟩ }) := by
  obtain ⟨held, settles, buffered⟩ := buffered.settle
  refine ⟨_, buffered, ?_⟩
  simp only [tick, start, writing, tickWrite, settles]
  simp [Channel.settle, Channel.clear]

theorem tick_write_end (master : Master) (burst : AddressBeat) {sent : Nat}
    (buffered : Buffered beats beats.length ⟨none⟩ sent)
    (response : WriteResponse) (cycle : Nat) :
    (master.writing burst beats sent).tick { writeResponse := ⟨some response⟩ } cycle =
      ({ master with
          current := none
          completions := master.completions.push (.write response.id response.status cycle) },
        {}) := by
  have all : beats[sent]? = none := by
    unfold Buffered at buffered
    rw [Option.toList_none, List.nil_append, List.drop_length, List.drop_eq_nil_iff] at buffered
    exact List.getElem?_eq_none buffered
  simp [tick, start, writing, tickWrite, all, Channel.settle, Channel.clear, finish]

/-- A read is taken up: its address is sent. -/
theorem tick_read_start (free : master.current = none)
    (next : master.queue = .read burst :: queue) (stray : Channel WriteBeat) (cycle : Nat) :
    master.tick { writeData := stray } cycle =
      ({ master with queue }.reading burst [],
        { writeData := stray, readAddress := ⟨some burst⟩ }) := by
  simp [tick, start, free, next, tickRead, reading, Channel.settle, Channel.clear]

/-- What the master makes of the data of read beat `index`. -/
def datum (burst : AddressBeat) (busBytes index : Nat) (data : Data) : Data :=
  Data.truncate (data >>> (8 * burst.beatLane index busBytes)) burst.beatBytes

section

variable {playing : Playing} (op : playing.op = .read burst) (sent : playing.addressSent = true)

include op sent

theorem tick_wait_data (master : Master) (stray : Channel WriteBeat) (cycle : Nat) :
    { master with current := some playing }.tick { writeData := stray } cycle =
      ({ master with current := some playing }, { writeData := stray }) := by
  obtain ⟨_, _, _, _, _⟩ := playing
  dsimp only at op sent
  subst op sent
  simp [tick, start, tickRead, Channel.settle, Channel.clear]

/-- A read takes a beat, which ends it if it is marked. -/
theorem tick_take_data (master : Master) (beat : ReadBeat) (stray : Channel WriteBeat)
    (cycle : Nat) :
    { master with current := some playing }.tick
        { writeData := stray, readData := ⟨some beat⟩ } cycle =
      let received :=
        datum burst master.busBytes playing.received.length beat.data :: playing.received
      let status := playing.status.merge beat.status
      (if beat.last then master.finish (.read beat.id received.reverse status cycle)
        else { master with current := some { playing with received, status } },
        { writeData := stray }) := by
  obtain ⟨_, _, _, _, _⟩ := playing
  dsimp only at op sent
  subst op sent
  cases last : beat.last <;>
    simp [tick, start, tickRead, Channel.settle, Channel.clear, datum, last, finish]

end

section

variable {playing : Playing} (sent : playing.addressSent = true)

include sent

/-- A write offers its next data beat. After that it waits for its response. -/
theorem tick_write_waits (op : playing.op = .write burst beats) (master : Master)
    (stray : Channel WriteBeat) :
    ∃ after channel, after.op = .write burst beats ∧ after.addressSent = true ∧
      (∀ cycle, { master with current := some playing }.tick { writeData := stray } cycle =
        ({ master with current := some after }, { writeData := channel })) ∧
      ∀ cycle, { master with current := some after }.tick { writeData := channel } cycle =
        ({ master with current := some after }, { writeData := channel }) := by
  obtain ⟨_, _, next, received, status⟩ := playing
  dsimp only at op sent
  subst op sent
  -- The beat that is offered lies in the channel then, or none is left.
  obtain ⟨_ | held⟩ := stray
  · cases offered : beats[next]? with
    | none =>
      refine ⟨⟨.write burst beats, true, next, received, status⟩, ⟨none⟩, rfl, rfl, ?_, ?_⟩
      all_goals
        intro cycle
        simp [tick, start, tickWrite, offered, Channel.settle, Channel.clear]
    | some beat =>
      refine ⟨⟨.write burst beats, true, next + 1, received, status⟩, ⟨some beat⟩, rfl, rfl, ?_, ?_⟩
      · intro cycle
        simp [tick, start, tickWrite, offered, Channel.settle, Channel.clear]
      · intro cycle
        cases following : beats[next + 1]? <;>
          simp [tick, start, tickWrite, following, Channel.settle, Channel.clear]
  · refine ⟨⟨.write burst beats, true, next, received, status⟩, ⟨some held⟩, rfl, rfl, ?_, ?_⟩
    all_goals
      intro cycle
      cases offered : beats[next]? <;>
        simp [tick, start, tickWrite, offered, Channel.settle, Channel.clear]

theorem tick_write_ends (op : playing.op = .write burst beats) (master : Master)
    (stray : Channel WriteBeat) (response : WriteResponse) (cycle : Nat) :
    ∃ channel, { master with current := some playing }.tick
        { writeData := stray, writeResponse := ⟨some response⟩ } cycle =
      (master.finish (.write response.id response.status cycle), { writeData := channel }) := by
  obtain ⟨_, _, next, _, _⟩ := playing
  dsimp only at op sent
  subst op sent
  refine ⟨(stray.settle beats[next]?).1, ?_⟩
  simp [tick, start, tickWrite, Channel.settle, Channel.clear, finish]

/-- A read takes a data beat that is not the last. After that it waits for the next one. -/
theorem tick_read_waits (op : playing.op = .read burst) (master : Master)
    (stray : Channel WriteBeat) {channel : Channel ReadBeat}
    (unmarked : ∀ beat, channel.beat = some beat → beat.last = false) :
    ∃ after, after.op = .read burst ∧ after.addressSent = true ∧
      (∀ cycle, { master with current := some playing }.tick
          { writeData := stray, readData := channel } cycle =
        ({ master with current := some after }, { writeData := stray })) ∧
      ∀ cycle, { master with current := some after }.tick { writeData := stray } cycle =
        ({ master with current := some after }, { writeData := stray }) := by
  obtain ⟨_ | beat⟩ := channel
  · exact ⟨playing, op, sent, tick_wait_data op sent master stray,
      tick_wait_data op sent master stray⟩
  · let after : Playing := { playing with
      received := datum burst master.busBytes playing.received.length beat.data :: playing.received
      status := playing.status.merge beat.status }
    have same : after.op = .read burst := op
    refine ⟨after, same, sent, fun cycle => ?_, tick_wait_data same sent master stray⟩
    rw [tick_take_data op sent]
    dsimp only
    rw [if_neg (Bool.eq_false_iff.mp (unmarked beat rfl))]

end

/-- A write is taken up: its address and, if the channel is free, its first data beat are sent. -/
theorem tick_write_starts (free : master.current = none)
    (next : master.queue = .write burst beats :: queue) (stray : Channel WriteBeat) :
    ∃ after channel, after.op = .write burst beats ∧ after.addressSent = true ∧
      ∀ cycle, master.tick { writeData := stray } cycle =
        ({ master with queue, current := some after },
          { writeAddress := ⟨some burst⟩, writeData := channel }) := by
  refine ⟨{
      op := .write burst beats
      addressSent := true
      sent := if beats[0]?.isSome && (stray.settle beats[0]?).2.isNone then 1 else 0 },
    (stray.settle beats[0]?).1, rfl, rfl, fun cycle => ?_⟩
  simp [tick, start, free, next, tickWrite, Channel.settle, Channel.clear]

/-- Where no response lies in its channels, a master completes nothing. -/
theorem tick_silent (master : Master) {link : Link} (write : link.writeResponse = {})
    (read : link.readData = {}) (cycle : Nat) :
    (master.tick link cycle).1.completions = master.completions ∧
      (master.tick link cycle).2.writeResponse = {} ∧ (master.tick link cycle).2.readData = {} := by
  have same : master.start.completions = master.completions := by
    unfold start
    split <;> rfl
  unfold tick
  dsimp only
  rw [← same]
  split
  · exact ⟨rfl, write, read⟩
  · split
    · unfold tickWrite
      rw [write]
      exact ⟨rfl, rfl, read⟩
    · unfold tickRead
      rw [read]
      exact ⟨rfl, write, rfl⟩

theorem tick_read_wait (master : Master) (burst : AddressBeat) (received : List Data)
    (cycle : Nat) :
    (master.reading burst received).tick {} cycle = (master.reading burst received, {}) :=
  tick_wait_data rfl rfl master {} cycle

theorem tick_read_beat (master : Master) (burst : AddressBeat) (received : List Data)
    {beat : ReadBeat} (okay : beat.status = .okay)
    (more : beat.last = false) (cycle : Nat) :
    (master.reading burst received).tick { readData := ⟨some beat⟩ } cycle =
      (master.reading burst
        (datum burst master.busBytes received.length beat.data :: received), {}) := by
  unfold reading
  rw [tick_take_data rfl rfl]
  simp [more, okay, Status.merge, Status.isOkay]

theorem tick_read_end (master : Master) (burst : AddressBeat) (received : List Data)
    (beat : ReadBeat) (okay : beat.status = .okay)
    (last : beat.last = true) (cycle : Nat) :
    (master.reading burst received).tick { readData := ⟨some beat⟩ } cycle =
      ({ master with
          current := none
          completions := master.completions.push (.read beat.id
            (received.reverse ++ [datum burst master.busBytes received.length beat.data]) .okay
            cycle) },
        {}) := by
  unfold reading
  rw [tick_take_data rfl rfl]
  simp [last, okay, Status.merge, Status.isOkay, finish]

/-- Nothing is played and nothing is left to play. -/
theorem tick_done (done : master.isDone = true) (link : Link) (cycle : Nat) :
    master.tick link cycle = (master, link) := by
  unfold isDone at done
  rw [Bool.and_eq_true, List.isEmpty_iff, Option.isNone_iff_eq_none] at done
  simp [tick, start, done.1, done.2]

end BusFabric.Split.Master
