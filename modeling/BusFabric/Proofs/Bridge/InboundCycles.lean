import BusFabric.Proofs.Bridge.Span

set_option autoImplicit false

namespace BusFabric.Bridge

open Simple (Request Response)
open Split (AddressBeat ReadBeat WriteBeat WriteResponse)

namespace Transfer

/-- A burst under way after the acknowledge of its access in flight. -/
def answered (transfer : Transfer) (access : Access) (response : Response) : Transfer :=
  { transfer with
    beatStatus :=
      if response.error then transfer.beatStatus.merge .slaveError else transfer.beatStatus
    data := if transfer.write then transfer.data else access.gather response.data transfer.data }

def following (transfer : Transfer) : Transfer :=
  { transfer with
    beat := transfer.beat + 1
    burstStatus := transfer.burstStatus.merge transfer.beatStatus
    beatStatus := .okay
    data := 0 }

end Transfer

namespace Inbound

/-- The bridge runs and owes nothing. -/
structure IsClear (bridge : Inbound) : Prop where
  running : bridge.isHalted = false
  write : bridge.owedWrite = none
  read : bridge.owedRead = none

theorem IsClear.shape {bridge : Inbound} (clear : bridge.IsClear) :
    ∃ port conversion origin active inflight preferRead,
      bridge = { port, conversion, origin, active, inflight, preferRead } := by
  obtain ⟨port, conversion, origin, active, inflight, _, _, preferRead, _⟩ := bridge
  obtain ⟨running, write, read⟩ := clear
  dsimp only at running write read
  subst running write read
  exact ⟨port, conversion, origin, active, inflight, preferRead, rfl⟩

theorem IsClear.prefer {bridge : Inbound} (clear : bridge.IsClear) (preferRead : Bool) :
    ({ bridge with preferRead } : Inbound).IsClear :=
  ⟨clear.running, clear.write, clear.read⟩

/-- A burst of which `beat` beats are finished and `pending` is left of the next one. -/
def inBeat (burst : AddressBeat) (write : Bool) (beat : Nat) (pending : List Access)
    (data : Data) : Transfer where
  burst := burst
  write := write
  beat := beat
  pending := pending
  data := data

def asking (bridge : Inbound) (transfer : Transfer) (access : Access) : Inbound :=
  { bridge with active := some transfer, inflight := some access }

/-- The bridge with a write whose next data beat has not come. -/
def awaiting (bridge : Inbound) (transfer : Transfer) : Inbound :=
  { bridge with active := some transfer, inflight := none }

def resting (bridge : Inbound) : Inbound :=
  { bridge with active := none, inflight := none }

def stopped (bridge : Inbound) : Inbound :=
  { bridge with active := none, inflight := none, isHalted := true }

def PlansWrite (conversion : Conversion) (origin : Address) (burst : AddressBeat) (beat : Nat)
    (data : WriteBeat) (accesses : List Access) : Prop :=
  ∀ (bridge : Inbound) (transfer : Transfer), bridge.conversion = conversion →
    bridge.origin = origin → transfer.burst = burst → transfer.beat = beat →
      bridge.nextWrite transfer data = .ok accesses

/-- A data beat of a write whose last-beat mark is wrong. -/
def Refuses (conversion : Conversion) (burst : AddressBeat) (beat : Nat) (data : WriteBeat)
    (kind : FaultKind) : Prop :=
  ∀ (bridge : Inbound) (transfer : Transfer), bridge.conversion = conversion →
    transfer.burst = burst → transfer.beat = beat → bridge.nextWrite transfer data = .error kind

def PlansRead (conversion : Conversion) (origin : Address) (burst : AddressBeat) (beat : Nat)
    (accesses : List Access) : Prop :=
  ∀ (bridge : Inbound) (transfer : Transfer), bridge.conversion = conversion →
    bridge.origin = origin → transfer.burst = burst → transfer.beat = beat →
      bridge.nextRead transfer = accesses

def Accepts (conversion : Conversion) (burst : AddressBeat) : Prop :=
  ∀ bridge : Inbound, bridge.conversion = conversion → bridge.violation? burst = none

def Rejects (conversion : Conversion) (burst : AddressBeat) (kind : FaultKind) : Prop :=
  ∀ bridge : Inbound, bridge.conversion = conversion → bridge.violation? burst = some kind

section

variable {conversion : Conversion} {origin : Address} {burst : AddressBeat} {beat : Nat}

theorem plansWrite (fits : (Span.of conversion origin burst beat).Fits) {data : WriteBeat}
    (marked : data.last = decide (beat + 1 = burst.beats)) :
    PlansWrite conversion origin burst beat data
      ((Span.of conversion origin burst beat).words.map fun word =>
        ((Span.of conversion origin burst beat).lanesOf word).write data) := by
  rintro bridge transfer sameConversion sameOrigin rfl rfl
  have planned := planBeat_eq sameConversion sameOrigin fits
  unfold nextWrite
  rw [planned, marked, List.map_map]
  by_cases final : transfer.beat + 1 = transfer.burst.beats
  · simp [final, Function.comp_def]
  · simp [final, Function.comp_def]

theorem plansRead (fits : (Span.of conversion origin burst beat).Fits) :
    PlansRead conversion origin burst beat
      ((Span.of conversion origin burst beat).words.map fun word =>
        ((Span.of conversion origin burst beat).lanesOf word).read) := by
  rintro bridge transfer sameConversion sameOrigin rfl rfl
  have planned := planBeat_eq sameConversion sameOrigin fits
  unfold nextRead
  rw [planned, List.map_map]
  rfl

theorem accepts_of_legal (full : conversion.source = .wideSplit)
    (size : burst.size.toNat ≤ conversion.splitBytes.log2)
    (legal : burst.mode = .incr ∨ burst.mode = .wrap ∧ burst.beats ∈ [2, 4, 8, 16]) :
    Accepts conversion burst := by
  rintro bridge rfl
  have unlimited : ¬ (bridge.isLite = true ∧ burst.beats > 1) := by
    unfold isLite
    rw [full]
    simp
  have wrapping : ¬ (burst.mode = .wrap ∧ burst.beats ∉ [2, 4, 8, 16]) := by
    rintro ⟨wrap, bad⟩
    rcases legal with incr | ⟨_, good⟩
    · rw [wrap] at incr
      cases incr
    · exact bad good
  unfold violation?
  rw [if_neg unlimited, if_neg (Nat.not_lt_of_le size), if_neg wrapping]

end

namespace Junction

variable {bridge : Inbound} {split : Split.Link} {link : Simple.Link} {transfer : Transfer}
  {access next : Access} {pending : List Access} {burst : AddressBeat} {request : Request}
  {response : Response} {beat : Nat} {data : Data} {write : Bool}
  {stray : Split.Channel WriteBeat}

/-- Nothing happens while the access in flight waits. -/
theorem tick_wait (clear : bridge.IsClear) (cycle : Nat) :
    Junction.tick ⟨bridge.asking transfer access, split, .waiting request⟩ cycle =
      (⟨bridge.asking transfer access, split, .waiting request⟩, none) := by
  obtain ⟨_, _, _, _, _, _, rfl⟩ := clear.shape
  simp [tick, step, flush, collect, asking, Simple.Link.response?, Split.Channel.settle]

/-- A halted bridge without a request does nothing. -/
theorem tick_halted (halted : bridge.isHalted = true) (split : Split.Link) (cycle : Nat) :
    Junction.tick ⟨bridge, split, .idle⟩ cycle = (⟨bridge, split, .idle⟩, none) := by
  unfold tick
  rw [if_pos halted]
  rfl

/-- Nothing happens without an address. -/
theorem tick_rest (clear : bridge.IsClear) (noWrite : split.writeAddress = {})
    (noRead : split.readAddress = {}) (cycle : Nat) :
    Junction.tick ⟨bridge.resting, split, .idle⟩ cycle =
      (⟨bridge.resting, split, .idle⟩, none) := by
  obtain ⟨_, _, _, _, _, _, rfl⟩ := clear.shape
  obtain ⟨_, _, _, _, _⟩ := split
  dsimp only at noWrite noRead
  subst noWrite noRead
  simp [tick, step, flush, collect, resting, Simple.Link.response?, Split.Channel.settle,
    acceptAddress, Split.Channel.isValid, advance, prepare, issue]

theorem tick_accept_write (clear : bridge.IsClear) (accepts : Accepts bridge.conversion burst)
    {first : WriteBeat}
    (plans : PlansWrite bridge.conversion bridge.origin burst 0 first (next :: pending))
    (cycle : Nat) :
    Junction.tick ⟨bridge.resting, { writeAddress := ⟨some burst⟩, writeData := ⟨some first⟩ },
        .idle⟩ cycle =
      (⟨{ bridge with preferRead := true }.asking (inBeat burst true 0 pending 0) next, {},
        .waiting next.request⟩, none) := by
  obtain ⟨_, _, _, _, _, _, rfl⟩ := clear.shape
  unfold PlansWrite Accepts at *
  simp [tick, step, flush, collect, resting, Simple.Link.response?, Split.Channel.settle,
    acceptAddress, Split.Channel.isValid, Split.Channel.clear, advance, prepare, issue, accepts,
    plans, Except.map, Simple.Link.issue?, asking, inBeat]

theorem tick_accept_read (clear : bridge.IsClear) (accepts : Accepts bridge.conversion burst)
    (plans : PlansRead bridge.conversion bridge.origin burst 0 (next :: pending)) (cycle : Nat) :
    Junction.tick ⟨bridge.resting, { writeData := stray, readAddress := ⟨some burst⟩ },
        .idle⟩ cycle =
      (⟨{ bridge with preferRead := false }.asking (inBeat burst false 0 pending 0) next,
        { writeData := stray }, .waiting next.request⟩, none) := by
  obtain ⟨_, _, _, _, _, _, rfl⟩ := clear.shape
  unfold PlansRead Accepts at *
  simp [tick, step, flush, collect, resting, Simple.Link.response?, Split.Channel.settle,
    acceptAddress, Split.Channel.isValid, Split.Channel.clear, advance, prepare, issue, accepts,
    plans, Simple.Link.issue?, asking, inBeat]

theorem tick_reject_write (clear : bridge.IsClear) {kind : FaultKind}
    (rejects : Rejects bridge.conversion burst kind) (data? : Split.Channel WriteBeat)
    (cycle : Nat) :
    Junction.tick ⟨bridge.resting, { writeAddress := ⟨some burst⟩, writeData := data? },
        .idle⟩ cycle =
      (⟨{ bridge with preferRead := true }.stopped, { writeData := data? }, .idle⟩,
        some ⟨bridge.port, cycle, kind⟩) := by
  obtain ⟨_, _, _, _, _, _, rfl⟩ := clear.shape
  unfold Rejects at rejects
  simp [tick, step, flush, collect, resting, stopped, Simple.Link.response?,
    Split.Channel.settle, acceptAddress, Split.Channel.isValid, Split.Channel.clear, rejects, halt]

theorem tick_reject_read (clear : bridge.IsClear) {kind : FaultKind}
    (rejects : Rejects bridge.conversion burst kind) (cycle : Nat) :
    Junction.tick ⟨bridge.resting, { writeData := stray, readAddress := ⟨some burst⟩ },
        .idle⟩ cycle =
      (⟨{ bridge with preferRead := false }.stopped, { writeData := stray }, .idle⟩,
        some ⟨bridge.port, cycle, kind⟩) := by
  obtain ⟨_, _, _, _, _, _, rfl⟩ := clear.shape
  unfold Rejects at rejects
  simp [tick, step, flush, collect, resting, stopped, Simple.Link.response?,
    Split.Channel.settle, acceptAddress, Split.Channel.isValid, Split.Channel.clear, rejects, halt]

theorem tick_refuse_first (clear : bridge.IsClear) (accepts : Accepts bridge.conversion burst)
    {first : WriteBeat} {kind : FaultKind} (refuses : Refuses bridge.conversion burst 0 first kind)
    (cycle : Nat) :
    Junction.tick ⟨bridge.resting, { writeAddress := ⟨some burst⟩, writeData := ⟨some first⟩ },
        .idle⟩ cycle =
      (⟨{ bridge with preferRead := true }.stopped, { writeData := ⟨some first⟩ }, .idle⟩,
        some ⟨bridge.port, cycle, kind⟩) := by
  obtain ⟨_, _, _, _, _, _, rfl⟩ := clear.shape
  unfold Refuses Accepts at *
  simp [tick, step, flush, collect, resting, stopped, Simple.Link.response?,
    Split.Channel.settle, acceptAddress, Split.Channel.isValid, Split.Channel.clear, advance,
    prepare, accepts, refuses, Except.map, halt]

theorem tick_accept_early (clear : bridge.IsClear) (accepts : Accepts bridge.conversion burst)
    (cycle : Nat) :
    Junction.tick ⟨bridge.resting, { writeAddress := ⟨some burst⟩ }, .idle⟩ cycle =
      (⟨{ bridge with preferRead := true }.awaiting (inBeat burst true 0 [] 0), {}, .idle⟩,
        none) := by
  obtain ⟨_, _, _, _, _, _, rfl⟩ := clear.shape
  unfold Accepts at accepts
  simp [tick, step, flush, collect, resting, Simple.Link.response?, Split.Channel.settle,
    acceptAddress, Split.Channel.isValid, Split.Channel.clear, advance, prepare, issue, accepts,
    awaiting, inBeat]

section

variable (clear : bridge.IsClear) (direction : transfer.write = true)
  (done : transfer.pending = [])

include clear direction done

theorem tick_awaiting (cycle : Nat) :
    Junction.tick ⟨bridge.awaiting transfer, {}, .idle⟩ cycle =
      (⟨bridge.awaiting transfer, {}, .idle⟩, none) := by
  obtain ⟨_, _, _, _, _, _, rfl⟩ := clear.shape
  simp [tick, step, flush, collect, awaiting, Simple.Link.response?, Split.Channel.settle,
    advance, prepare, issue, direction, done]

theorem tick_awaited {first : WriteBeat}
    (plans : PlansWrite bridge.conversion bridge.origin transfer.burst transfer.beat first
      (next :: pending)) (cycle : Nat) :
    Junction.tick ⟨bridge.awaiting transfer, { writeData := ⟨some first⟩ }, .idle⟩ cycle =
      (⟨bridge.asking { transfer with pending } next, {}, .waiting next.request⟩, none) := by
  obtain ⟨_, _, _, _, _, _, rfl⟩ := clear.shape
  unfold PlansWrite at plans
  simp [tick, step, flush, collect, awaiting, asking, Simple.Link.response?,
    Split.Channel.settle, Split.Channel.clear, advance, prepare, issue, Simple.Link.issue?, plans,
    Except.map, direction, done]

theorem tick_refuse_awaited {first : WriteBeat} {kind : FaultKind}
    (refuses : Refuses bridge.conversion transfer.burst transfer.beat first kind)
    (cycle : Nat) :
    Junction.tick ⟨bridge.awaiting transfer, { writeData := ⟨some first⟩ }, .idle⟩ cycle =
      (⟨bridge.stopped, { writeData := ⟨some first⟩ }, .idle⟩,
        some ⟨bridge.port, cycle, kind⟩) := by
  obtain ⟨_, _, _, _, _, _, rfl⟩ := clear.shape
  unfold Refuses at refuses
  simp [tick, step, flush, collect, awaiting, stopped, Simple.Link.response?,
    Split.Channel.settle, advance, prepare, refuses, Except.map, direction, done, halt]

end

theorem tick_answered_word (clear : bridge.IsClear) (left : transfer.pending = next :: pending)
    (cycle : Nat) :
    Junction.tick ⟨bridge.asking transfer access, split, .answered request response⟩ cycle =
      (⟨bridge.asking { transfer.answered access response with pending } next, split,
        .waiting next.request⟩, none) := by
  obtain ⟨_, _, _, _, _, _, rfl⟩ := clear.shape
  simp [tick, step, flush, collect, asking, Simple.Link.response?, Split.Channel.settle,
    absorb, Simple.Link.completed, advance, prepare, issue, Simple.Link.issue?,
    Transfer.answered, left]

theorem tick_answered_write (clear : bridge.IsClear) (write : transfer.write = true)
    (done : transfer.pending = []) (more : transfer.beat + 1 ≠ transfer.burst.beats)
    {following : WriteBeat}
    (plans : PlansWrite bridge.conversion bridge.origin transfer.burst (transfer.beat + 1)
      following (next :: pending)) (cycle : Nat) :
    Junction.tick ⟨bridge.asking transfer access, { writeData := ⟨some following⟩ },
        .answered request response⟩ cycle =
      (⟨bridge.asking { (transfer.answered access response).following with pending } next, {},
        .waiting next.request⟩, none) := by
  obtain ⟨_, _, _, _, _, _, rfl⟩ := clear.shape
  unfold PlansWrite at plans
  simp [tick, step, flush, collect, asking, Simple.Link.response?, Split.Channel.settle,
    Split.Channel.clear, absorb, finishBeat, more, Simple.Link.completed, advance, prepare,
    issue, Simple.Link.issue?, plans, Except.map, Transfer.answered, Transfer.following, write,
    done]

theorem tick_answered_early (clear : bridge.IsClear) (write : transfer.write = true)
    (done : transfer.pending = []) (more : transfer.beat + 1 ≠ transfer.burst.beats)
    (cycle : Nat) :
    Junction.tick ⟨bridge.asking transfer access, {}, .answered request response⟩ cycle =
      (⟨bridge.awaiting (transfer.answered access response).following, {}, .idle⟩, none) := by
  obtain ⟨_, _, _, _, _, _, rfl⟩ := clear.shape
  simp [tick, step, flush, collect, asking, awaiting, Simple.Link.response?,
    Split.Channel.settle, absorb, finishBeat, more, Simple.Link.completed, advance, prepare,
    issue, Transfer.answered, Transfer.following, write, done]

theorem tick_refuse_next (clear : bridge.IsClear) (write : transfer.write = true)
    (done : transfer.pending = []) (more : transfer.beat + 1 ≠ transfer.burst.beats)
    {following : WriteBeat} {kind : FaultKind}
    (refuses : Refuses bridge.conversion transfer.burst (transfer.beat + 1) following kind)
    (cycle : Nat) :
    Junction.tick ⟨bridge.asking transfer access, { writeData := ⟨some following⟩ },
        .answered request response⟩ cycle =
      (⟨bridge.stopped, { writeData := ⟨some following⟩ }, .idle⟩,
        some ⟨bridge.port, cycle, kind⟩) := by
  obtain ⟨_, _, _, _, _, _, rfl⟩ := clear.shape
  unfold Refuses at refuses
  simp [tick, step, flush, collect, asking, stopped, Simple.Link.response?,
    Split.Channel.settle, absorb, finishBeat, more, Simple.Link.completed, advance, prepare,
    refuses, Except.map, write, done, halt]

theorem tick_answered_write_last (clear : bridge.IsClear) (write : transfer.write = true)
    (done : transfer.pending = []) (last : transfer.beat + 1 = transfer.burst.beats)
    (cycle : Nat) :
    Junction.tick ⟨bridge.asking transfer access, { writeData := stray },
        .answered request response⟩ cycle =
      (⟨bridge.resting,
        { writeData := stray, writeResponse := ⟨some ⟨transfer.burst.id,
          (transfer.answered access response).following.burstStatus⟩⟩ }, .idle⟩, none) := by
  obtain ⟨_, _, _, _, _, _, rfl⟩ := clear.shape
  simp [tick, step, flush, collect, asking, resting, Simple.Link.response?,
    Split.Channel.settle, Split.Channel.isValid, absorb, finishBeat, last,
    Simple.Link.completed, acceptAddress, advance, prepare, issue, Transfer.answered,
    Transfer.following, write, done]

theorem tick_answered_read (clear : bridge.IsClear) (read : transfer.write = false)
    (done : transfer.pending = []) (more : transfer.beat + 1 ≠ transfer.burst.beats)
    (plans : PlansRead bridge.conversion bridge.origin transfer.burst (transfer.beat + 1)
      (next :: pending)) (cycle : Nat) :
    Junction.tick ⟨bridge.asking transfer access, { writeData := stray },
        .answered request response⟩ cycle =
      (⟨bridge.asking { (transfer.answered access response).following with pending } next,
        { writeData := stray
          readData := ⟨some ⟨transfer.burst.id, (transfer.answered access response).data,
            (transfer.answered access response).beatStatus, false⟩⟩ },
        .waiting next.request⟩, none) := by
  obtain ⟨_, _, _, _, _, _, rfl⟩ := clear.shape
  unfold PlansRead at plans
  simp [tick, step, flush, collect, asking, Simple.Link.response?, Split.Channel.settle,
    absorb, finishBeat, more, Simple.Link.completed, advance, prepare,
    issue, Simple.Link.issue?, plans, Transfer.answered, Transfer.following, read, done]

theorem tick_answered_read_last (clear : bridge.IsClear) (read : transfer.write = false)
    (done : transfer.pending = []) (last : transfer.beat + 1 = transfer.burst.beats)
    (cycle : Nat) :
    Junction.tick ⟨bridge.asking transfer access, { writeData := stray },
        .answered request response⟩ cycle =
      (⟨bridge.resting,
        { writeData := stray
          readData := ⟨some ⟨transfer.burst.id, (transfer.answered access response).data,
            (transfer.answered access response).beatStatus, true⟩⟩ }, .idle⟩, none) := by
  obtain ⟨_, _, _, _, _, _, rfl⟩ := clear.shape
  simp [tick, step, flush, collect, asking, resting, Simple.Link.response?,
    Split.Channel.settle, Split.Channel.isValid, absorb, finishBeat, last,
    Simple.Link.completed, acceptAddress, advance, prepare, issue, Transfer.answered, read, done]

theorem tick_next_word (clear : bridge.IsClear) (okay : response.error = false) (cycle : Nat) :
    Junction.tick ⟨bridge.asking (inBeat burst write beat (next :: pending) data) access, split,
        .answered request response⟩ cycle =
      (⟨bridge.asking (inBeat burst write beat pending
          (if write then data else access.gather response.data data)) next, split,
        .waiting next.request⟩, none) := by
  rw [tick_answered_word clear rfl]
  unfold Transfer.answered
  rw [okay]
  rfl

/-- The first word of a write's next beat is asked for. -/
theorem tick_next_write (clear : bridge.IsClear) (okay : response.error = false)
    (more : beat + 1 ≠ burst.beats) {following : WriteBeat}
    (plans : PlansWrite bridge.conversion bridge.origin burst (beat + 1) following
      (next :: pending)) (cycle : Nat) :
    Junction.tick ⟨bridge.asking (inBeat burst true beat [] 0) access,
        { writeData := ⟨some following⟩ }, .answered request response⟩ cycle =
      (⟨bridge.asking (inBeat burst true (beat + 1) pending 0) next, {},
        .waiting next.request⟩, none) := by
  rw [tick_answered_write clear rfl rfl more plans]
  simp [Transfer.answered, Transfer.following, inBeat, okay, Split.Status.merge,
    Split.Status.isOkay]

theorem tick_write_done (clear : bridge.IsClear) (okay : response.error = false)
    (last : beat + 1 = burst.beats) (cycle : Nat) :
    Junction.tick ⟨bridge.asking (inBeat burst true beat [] 0) access, {},
        .answered request response⟩ cycle =
      (⟨bridge.resting, { writeResponse := ⟨some ⟨burst.id, .okay⟩⟩ }, .idle⟩, none) := by
  rw [tick_answered_write_last clear rfl rfl last]
  simp [Transfer.answered, Transfer.following, inBeat, okay, Split.Status.merge,
    Split.Status.isOkay]

/-- The first word of a read's next beat is asked for, and the beat before it is handed on. -/
theorem tick_next_read (clear : bridge.IsClear) (okay : response.error = false)
    (more : beat + 1 ≠ burst.beats)
    (plans : PlansRead bridge.conversion bridge.origin burst (beat + 1) (next :: pending))
    (cycle : Nat) :
    Junction.tick ⟨bridge.asking (inBeat burst false beat [] data) access, {},
        .answered request response⟩ cycle =
      (⟨bridge.asking (inBeat burst false (beat + 1) pending 0) next,
        { readData := ⟨some ⟨burst.id, access.gather response.data data, .okay, false⟩⟩ },
        .waiting next.request⟩, none) := by
  rw [tick_answered_read clear rfl rfl more plans]
  simp [Transfer.answered, Transfer.following, inBeat, okay, Split.Status.merge,
    Split.Status.isOkay]

theorem tick_read_done (clear : bridge.IsClear) (okay : response.error = false)
    (last : beat + 1 = burst.beats) (cycle : Nat) :
    Junction.tick ⟨bridge.asking (inBeat burst false beat [] data) access, {},
        .answered request response⟩ cycle =
      (⟨bridge.resting,
        { readData := ⟨some ⟨burst.id, access.gather response.data data, .okay, true⟩⟩ },
        .idle⟩, none) := by
  rw [tick_answered_read_last clear rfl rfl last]
  simp [Transfer.answered, inBeat, okay]

end Junction

end Inbound

end BusFabric.Bridge
