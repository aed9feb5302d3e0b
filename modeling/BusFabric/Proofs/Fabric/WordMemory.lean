import BusFabric.Proofs.Fabric.Store
import BusFabric.Proofs.Simple.Handshake

set_option autoImplicit false

namespace BusFabric.Fabric

open Bridge (Conversion Outbound)
open Bridge.Outbound (Reach gatheredWord overlaid)
open Crossbar (Slot)
open Simple (Request Response)

/-- What may happen at the link of a slave. -/
inductive Move where
  | raise (request : Request)
  /-- The master sees the acknowledge and lowers its request. -/
  | take
  | tick
  deriving DecidableEq

structure Session where
  slot : Slot SlaveAgent
  cycle : Nat := 0
  faults : List ProtocolFault := []
  raised : List Request := []
  /-- Acknowledged requests with their acknowledges, in order. -/
  acknowledged : List (Request × Response) := []

namespace Session

/-- One move of the master or the slave. A request is raised only if none is up. -/
def act (session : Session) : Move → Session
  | .raise request =>
    match session.slot.link.issue? request with
    | some link =>
      { session with slot := { session.slot with link }, raised := session.raised ++ [request] }
    | none => session
  | .take => { session with slot := { session.slot with link := session.slot.link.completed } }
  | .tick =>
    let (slot, fault) := tickSlot session.cycle session.slot
    { session with
      slot
      cycle := session.cycle + 1
      faults := session.faults ++ fault.toList
      acknowledged := session.acknowledged ++ (session.slot.link.acknowledged? slot.link).toList }

def play (session : Session) (moves : List Move) : Session :=
  moves.foldl act session

/-- An empty memory of any latency behind a bridge, before anything happened. -/
def fresh (port : PortId) (conversion : Conversion) (windowBase : Address) (name : String)
    (latency : Nat) : Session where
  slot :=
    { port
      agent := .split { port, conversion, windowBase } {}
        { name, busBytes := conversion.splitBytes, latency } }

end Session

/-- The byte that some requests, in order, last wrote to a lane of a word; zero if none did. -/
def lastWritten (requests : List Request) (address : Address) (lane : Nat) : Byte :=
  match requests.reverse.find? fun request =>
      request.write ∧ request.address = address ∧ request.select.selects lane with
  | some request => request.data.lane lane
  | none => 0

/-- The acknowledge of a request that comes after others. -/
def wordReply (simpleBytes : Nat) (earlier : List Request) (request : Request) : Response :=
  if request.write then .ok 0
  else .ok (Data.ofLanes fun lane =>
    if lane < simpleBytes then lastWritten earlier request.address lane else 0)

/-- An address of a word that lies low enough above the base to have a place in the memory. -/
structure HasPlace (conversion : Conversion) (windowBase address : Address) : Prop where
  aligned : conversion.simpleBytes ∣ address.toNat
  low : (address - windowBase).toNat < 1 <<< (64 - conversion.scale)

theorem lastWritten_concat (earlier : List Request) (request : Request) (address : Address)
    (lane : Nat) :
    lastWritten (earlier ++ [request]) address lane =
      if request.write ∧ request.address = address ∧ request.select.selects lane then
        request.data.lane lane
      else lastWritten earlier address lane := by
  unfold lastWritten
  rw [List.reverse_append, List.reverse_singleton, List.singleton_append, List.find?_cons]
  by_cases here : request.write ∧ request.address = address ∧ request.select.selects lane
  · rw [if_pos here, decide_eq_true here]
  · rw [if_neg here, decide_eq_false here]

section

variable {conversion : Conversion} {windowBase : Address}

theorem HasPlace.offset {address : Address} (regular : conversion.IsRegular)
    (based : conversion.simpleBytes ∣ windowBase.toNat)
    (place : HasPlace conversion windowBase address) :
    conversion.simpleBytes ∣ (address - windowBase).toNat :=
  Address.dvd_sub regular.simpleBytes place.aligned based

/-- A word lies in one piece below the top of the memory. -/
theorem HasPlace.reach {address : Address} (regular : conversion.IsRegular)
    (outward : conversion.direction = .simpleToSplit)
    (based : conversion.simpleBytes ∣ windowBase.toNat)
    (place : HasPlace conversion windowBase address) :
    Reach (conversion.translate (address - windowBase)) conversion.simpleBytes
      conversion.splitBytes := by
  have source := Conversion.sourceBytes_outward outward
  have wide := conversion.sourceBytes_le_stride
  apply reach_of_room regular outward
  rw [Nat.mod_eq_zero_of_dvd (place.offset regular based)]
  omega

/-- No byte of a word has address bits that are moved past the top. -/
theorem HasPlace.below {address : Address} (regular : conversion.IsRegular)
    (outward : conversion.direction = .simpleToSplit)
    (based : conversion.simpleBytes ∣ windowBase.toNat)
    (place : HasPlace conversion windowBase address) {lane : Nat}
    (inside : lane < conversion.simpleBytes) :
    (address - windowBase).toNat + lane < 1 <<< (64 - conversion.scale) := by
  obtain ⟨exponent, narrow, source, _⟩ := Conversion.exponents regular
  have scale := regular.scale_le
  have whole := Conversion.shift_split (by omega : exponent ≤ 64 - conversion.scale)
  rw [← source, Conversion.sourceBytes_outward outward] at whole
  have last := add_le_of_dvd_of_lt (place.offset regular based) ⟨_, whole⟩ place.low
  omega

/-- Bytes of different words, and different bytes of a word, have different places. -/
theorem HasPlace.injective {address other : Address} (regular : conversion.IsRegular)
    (outward : conversion.direction = .simpleToSplit)
    (based : conversion.simpleBytes ∣ windowBase.toNat)
    (place : HasPlace conversion windowBase address)
    (otherPlace : HasPlace conversion windowBase other) {lane index : Nat}
    (inside : lane < conversion.simpleBytes) (within : index < conversion.simpleBytes)
    (same : conversion.translate (address - windowBase) + BitVec.ofNat 64 lane =
      conversion.translate (other - windowBase) + BitVec.ofNat 64 index) :
    address = other ∧ lane = index := by
  have source := Conversion.sourceBytes_outward outward
  have wide := conversion.sourceBytes_le_stride
  have offset := Nat.mod_eq_zero_of_dvd (place.offset regular based)
  have otherOffset := Nat.mod_eq_zero_of_dvd (otherPlace.offset regular based)
  have near := Conversion.translate_add_inj regular (by rw [source, offset]; omega)
    (by rw [source, otherOffset]; omega) same
  rw [Nat.mod_eq_of_lt (place.below regular outward based inside),
    Nat.mod_eq_of_lt (otherPlace.below regular outward based within)] at near
  have lanes : lane = index := by
    have rests := congrArg (· % conversion.simpleBytes) near
    rw [Nat.add_mod, Nat.add_mod (other - windowBase).toNat, offset, otherOffset, Nat.zero_add,
      Nat.zero_add, Nat.mod_mod, Nat.mod_mod, Nat.mod_eq_of_lt inside,
      Nat.mod_eq_of_lt within] at rests
    exact rests
  have offsets : address - windowBase = other - windowBase := BitVec.eq_of_toNat_eq (by omega)
  refine ⟨?_, lanes⟩
  rw [← BitVec.sub_add_cancel address windowBase, offsets, BitVec.sub_add_cancel]

/-- Memory contents in which each word with a place holds what was last written to it. -/
def Matches (conversion : Conversion) (windowBase : Address) (bytes : Address → Byte)
    (history : List Request) : Prop :=
  ∀ address lane, HasPlace conversion windowBase address → lane < conversion.simpleBytes →
    bytes (conversion.translate (address - windowBase) + BitVec.ofNat 64 lane) =
      lastWritten history address lane

variable {bytes : Address → Byte} {history : List Request} {request : Request}

theorem Matches.empty : Matches conversion windowBase (Memory.readByte {}) [] := by
  intro address lane _ _
  rw [Memory.readByte_empty]
  rfl

theorem Matches.reply_eq (holds : Matches conversion windowBase bytes history)
    (place : HasPlace conversion windowBase request.address) :
    reply conversion.simpleBytes (conversion.translate (request.address - windowBase)) request
      bytes = wordReply conversion.simpleBytes history request := by
  have word : gatheredWord conversion.simpleBytes
      (conversion.translate (request.address - windowBase)) bytes =
      Data.ofLanes fun lane =>
        if lane < conversion.simpleBytes then lastWritten history request.address lane else 0 := by
    unfold gatheredWord
    congr 1
    funext lane
    by_cases inside : lane < conversion.simpleBytes
    · rw [if_pos inside, if_pos inside, holds _ _ place inside]
    · rw [if_neg inside, if_neg inside]
  unfold reply wordReply
  rw [word]

/-- A request leaves behind what was last written, its own bytes included. -/
theorem Matches.updated (regular : conversion.IsRegular)
    (outward : conversion.direction = .simpleToSplit)
    (based : conversion.simpleBytes ∣ windowBase.toNat)
    (holds : Matches conversion windowBase bytes history)
    (place : HasPlace conversion windowBase request.address) :
    Matches conversion windowBase
      (updated conversion.simpleBytes (conversion.translate (request.address - windowBase)) request
        bytes) (history ++ [request]) := by
  intro address lane otherPlace inside
  rw [lastWritten_concat]
  unfold Fabric.updated
  cases write : request.write with
  | false =>
    rw [if_neg (by decide), if_neg fun both => absurd both.1 (by decide)]
    exact holds address lane otherPlace inside
  | true =>
    have small : ∀ {index}, index < conversion.simpleBytes → index < UInt64.size := by
      intro index within
      have narrow := regular.simpleBytes_le
      have size : UInt64.size = 18446744073709551616 := rfl
      omega
    rw [if_pos rfl]
    unfold overlaid
    by_cases same : request.address = address
    · subst same
      rw [(Address.add_ofNat_eq_iff (small inside)).mp rfl]
      simp only [inside, true_and, holds _ _ otherPlace inside]
    · have apart : ¬ (conversion.translate (address - windowBase) + BitVec.ofNat 64 lane -
          conversion.translate (request.address - windowBase)).toNat <
          conversion.simpleBytes := by
        intro within
        have hit := (Address.add_ofNat_eq_iff (small within)).mpr rfl
        exact same (place.injective regular outward based otherPlace within inside hit).1
      rw [if_neg fun both => apart both.1, if_neg fun both => same both.2.1,
        holds _ _ otherPlace inside]

end

/-- A slave between two moves, after some acknowledged requests. -/
inductive Stage (conversion : Conversion) (windowBase : Address) (history : List Request)
    (slot : Slot SlaveAgent) : Prop where
  /-- No request waits. -/
  | rests {bytes : Address → Byte} (settled : slot.link.awaiting? = none)
      (idles : Idles conversion windowBase bytes slot.agent)
      (holds : Matches conversion windowBase bytes history)
  /-- A request is being carried out. -/
  | serves {bytes : Address → Byte} {request : Request} {count : Nat} {after : Slot SlaveAgent}
      (serves : Serves request (wordReply conversion.simpleBytes history request) slot count after)
      (idles : Idles conversion windowBase bytes after.agent)
      (holds : Matches conversion windowBase bytes (history ++ [request]))

namespace Session

def history (session : Session) : List Request :=
  session.acknowledged.map Prod.fst

/-- A session that went like one with a word memory, up to now. -/
structure IsFaithful (conversion : Conversion) (windowBase : Address) (session : Session) :
    Prop where
  faults : session.faults = []
  /-- No request is lost or acknowledged twice. -/
  once : session.raised = session.history ++ session.slot.link.awaiting?.toList
  replies : ∀ earlier request response later,
    session.acknowledged = earlier ++ (request, response) :: later →
      response = wordReply conversion.simpleBytes (earlier.map Prod.fst) request
  stage : Stage conversion windowBase session.history session.slot

variable {conversion : Conversion} {windowBase : Address} {session : Session}

theorem IsFaithful.fresh (port : PortId) (conversion : Conversion) (windowBase : Address)
    (name : String) (latency : Nat) :
    IsFaithful conversion windowBase (fresh port conversion windowBase name latency) where
  faults := rfl
  once := rfl
  replies := by
    intro earlier request response later acknowledged
    cases earlier <;> cases acknowledged
  stage := .rests rfl (.intro rfl rfl rfl rfl ⟨rfl, rfl, rfl⟩ rfl rfl) .empty

theorem act_tick {next : Slot SlaveAgent}
    (ticks : ∀ cycle, tickSlot cycle session.slot = (next, none)) :
    session.act .tick =
      { session with
        slot := next
        cycle := session.cycle + 1
        acknowledged :=
          session.acknowledged ++ (session.slot.link.acknowledged? next.link).toList } := by
  unfold act
  dsimp only
  rw [ticks]
  dsimp only
  rw [Option.toList_none, List.append_nil]

theorem IsFaithful.replies_concat (faithful : IsFaithful conversion windowBase session)
    (request : Request) :
    ∀ earlier other response later,
      session.acknowledged ++
          [(request, wordReply conversion.simpleBytes session.history request)] =
        earlier ++ (other, response) :: later →
      response = wordReply conversion.simpleBytes (earlier.map Prod.fst) other := by
  intro earlier other response later split
  rcases List.eq_nil_or_concat later with rfl | ⟨middle, last, rfl⟩
  · obtain ⟨same, tail⟩ := List.append_inj' split rfl
    cases tail
    rw [← same]
    rfl
  · rw [List.concat_eq_append, ← List.cons_append, ← List.append_assoc] at split
    exact faithful.replies earlier other response middle (List.append_inj' split rfl).1

variable (regular : conversion.IsRegular) (outward : conversion.direction = .simpleToSplit)
  (based : conversion.simpleBytes ∣ windowBase.toNat)

include regular outward based

theorem IsFaithful.raise (faithful : IsFaithful conversion windowBase session)
    {request : Request} (place : HasPlace conversion windowBase request.address) :
    IsFaithful conversion windowBase (session.act (.raise request)) := by
  unfold act
  dsimp only
  cases issued : session.slot.link.issue? request with
  | none => exact faithful
  | some link =>
    have free : session.slot.link = .idle ∧ link = .waiting request := by
      cases held : session.slot.link <;> rw [held] at issued <;> cases issued
      exact ⟨rfl, rfl⟩
    have once := faithful.once
    cases faithful.stage with
    | serves serves _ _ => cases serves.waiting.symm.trans free.1
    | rests settled idles holds =>
      rw [settled] at once
      have reach := place.reach regular outward based
      have waits : ({ session.slot with link } : Slot SlaveAgent).link = .waiting request := free.2
      obtain ⟨count, after, serves, idles⟩ := Idles.serves (by exact idles) waits reach
      rw [holds.reply_eq place] at serves
      refine ⟨faithful.faults, ?_, faithful.replies,
        .serves serves idles (holds.updated regular outward based place)⟩
      rw [once, free.2]
      simp [history, Simple.Link.awaiting?]

omit regular outward based in
theorem IsFaithful.take (faithful : IsFaithful conversion windowBase session) :
    IsFaithful conversion windowBase (session.act .take) := by
  have once := faithful.once
  cases faithful.stage with
  | rests settled idles holds =>
    have lowered : session.slot.link.completed = .idle := by
      cases held : session.slot.link with
      | idle => rfl
      | answered _ _ => rfl
      | waiting _ =>
        rw [held] at settled
        cases settled
    rw [settled] at once
    refine ⟨faithful.faults, ?_, faithful.replies, .rests ?_ idles holds⟩
    · unfold act
      rw [lowered]
      exact once
    · unfold act
      rw [lowered]
      rfl
  | serves serves idles holds =>
    have kept : session.act .take = session := by
      unfold act
      dsimp only
      rw [serves.waiting]
      show { session with slot := { session.slot with link := .waiting _ } } = session
      rw [← serves.waiting]
    rw [kept]
    exact faithful

omit regular outward based in
theorem IsFaithful.tick (faithful : IsFaithful conversion windowBase session) :
    IsFaithful conversion windowBase (session.act .tick) := by
  have once := faithful.once
  cases faithful.stage with
  | rests settled idles holds =>
    obtain ⟨following, link, idles, ticks⟩ := idles.rests settled
    rw [act_tick ticks, link, Simple.Link.acknowledged?_self, Option.toList_none, List.append_nil]
    refine ⟨faithful.faults, ?_, faithful.replies, .rests ?_ idles holds⟩
    · rw [link]
      exact once
    · rw [link]
      exact settled
  | @serves bytes request count after serves idles holds =>
    have waits := serves.waiting
    rw [waits] at once
    cases serves with
    | answers _ ticks answered =>
      have seen : session.slot.link.acknowledged? after.link =
          some (request, wordReply conversion.simpleBytes session.history request) := by
        rw [waits, answered]
        rfl
      have history : ({ session with
          slot := after
          cycle := session.cycle + 1
          acknowledged := session.acknowledged ++
            [(request, wordReply conversion.simpleBytes session.history request)] } :
          Session).history = session.history ++ [request] := List.map_append
      rw [act_tick ticks, seen, Option.toList_some]
      refine ⟨faithful.faults, ?_, faithful.replies_concat request, .rests ?_ idles ?_⟩
      · rw [history, answered]
        exact once.trans (List.append_nil _).symm
      · rw [answered]
        rfl
      · rw [history]
        exact holds
    | @waits _ next _ count _ ticks rest =>
      have quiet : session.slot.link.acknowledged? next.link = none := by
        rw [waits, rest.waiting]
        rfl
      rw [act_tick ticks, quiet, Option.toList_none, List.append_nil]
      refine ⟨faithful.faults, ?_, faithful.replies, .serves rest idles holds⟩
      rw [rest.waiting]
      exact once

theorem IsFaithful.act (faithful : IsFaithful conversion windowBase session) {move : Move}
    (placed : ∀ request, move = .raise request →
      HasPlace conversion windowBase request.address) :
    IsFaithful conversion windowBase (session.act move) := by
  cases move with
  | raise request => exact faithful.raise regular outward based (placed request rfl)
  | take => exact faithful.take
  | tick => exact faithful.tick

theorem IsFaithful.play (faithful : IsFaithful conversion windowBase session) {moves : List Move}
    (placed : ∀ request, .raise request ∈ moves →
      HasPlace conversion windowBase request.address) :
    IsFaithful conversion windowBase (session.play moves) := by
  induction moves generalizing session with
  | nil => exact faithful
  | cons move moves ih =>
    apply ih (faithful.act regular outward based ?_)
    · intro request mem
      exact placed request (List.mem_cons_of_mem move mem)
    · rintro request rfl
      exact placed request List.mem_cons_self

omit regular outward based in
/-- A request that is being carried out is acknowledged if the slave goes on ticking. -/
theorem acknowledged_of_serves {request : Request} {response : Response} {count : Nat}
    {after : Slot SlaveAgent} (serves : Serves request response session.slot count after) :
    (session.play (List.replicate (count + 1) .tick)).acknowledged =
      session.acknowledged ++ [(request, response)] := by
  generalize held : session.slot = slot at serves
  induction serves generalizing session with
  | answers waits ticks answered =>
    subst held
    show (session.act .tick).acknowledged = _
    rw [act_tick ticks, waits, answered]
    rfl
  | @waits slot next after count waits ticks rest ih =>
    subst held
    rw [List.replicate_succ]
    show ((session.act .tick).play (List.replicate (count + 1) .tick)).acknowledged = _
    have moved : (session.act .tick).slot = next := by rw [act_tick ticks]
    rw [ih moved, act_tick ticks, waits, rest.waiting]
    simp [Simple.Link.acknowledged?, Simple.Link.awaiting?, Simple.Link.response?]

omit regular outward based in
theorem IsFaithful.acknowledges (faithful : IsFaithful conversion windowBase session)
    {request : Request} (waits : session.slot.link = .waiting request) :
    ∃ count, (session.play (List.replicate count .tick)).acknowledged =
      session.acknowledged ++
        [(request, wordReply conversion.simpleBytes session.history request)] := by
  cases faithful.stage with
  | rests settled _ _ =>
    rw [waits] at settled
    cases settled
  | serves serves _ _ =>
    cases serves.waiting.symm.trans waits
    exact ⟨_, acknowledged_of_serves serves⟩

end Session

/-- A split-bus memory behind an outbound bridge is a word memory. For any widths, any latency and
a base that is a multiple of the fabric's word, and for any requests for words that have a place in
the memory, raised one at a time with any gaps, there is no fault; the acknowledged requests are
those raised, in order, less the one that still waits; that one is acknowledged too if the slave
goes on ticking; and the acknowledge of a request has no error and, for a read, returns in each
lane the byte that the requests before it last wrote to the lane at the same address. -/
theorem split_slave_is_word_memory {simple split : Nat} {conversion : Conversion}
    (built : Conversion.between .simpleSync simple .wideSplit split = .ok conversion)
    (port : PortId) {windowBase : Address} (based : conversion.simpleBytes ∣ windowBase.toNat)
    (name : String) (latency : Nat) {moves : List Move}
    (placed : ∀ request, .raise request ∈ moves →
      HasPlace conversion windowBase request.address) :
    let session := (Session.fresh port conversion windowBase name latency).play moves
    session.faults = [] ∧
    session.raised = session.acknowledged.map Prod.fst ++
      session.slot.link.awaiting?.toList ∧
    (∀ earlier request response later,
      session.acknowledged = earlier ++ (request, response) :: later →
        response = wordReply conversion.simpleBytes (earlier.map Prod.fst) request) ∧
    ∀ request, session.slot.link = .waiting request →
      ∃ count, (session.play (List.replicate count .tick)).acknowledged =
        session.acknowledged ++
          [(request, wordReply conversion.simpleBytes (session.acknowledged.map Prod.fst)
            request)] := by
  intro session
  have regular := Conversion.isRegular_of_between built
  have outward : conversion.direction = .simpleToSplit := by
    obtain ⟨rfl, _⟩ := Conversion.eq_of_between built
    rfl
  have start := Session.IsFaithful.fresh port conversion windowBase name latency
  have faithful : session.IsFaithful conversion windowBase :=
    start.play regular outward based placed
  refine ⟨faithful.faults, faithful.once, faithful.replies, ?_⟩
  intro request waits
  exact faithful.acknowledges waits

/-- Some bytes of a 64-bit word are written through a 16-bit memory and the word is read back. -/
theorem split_slave_is_word_memory_narrow :
    let conversion : Conversion := ⟨.simpleSync, 64, .wideSplit, 16⟩
    let moves : List Move :=
      [.raise ⟨0x1008, 0x1122334455667788, 0xF3, true⟩] ++ List.replicate 6 .tick ++
        [.take, .raise (.read 0x1008 0xFF)] ++ List.replicate 9 .tick
    Conversion.between .simpleSync 64 .wideSplit 16 = .ok conversion ∧
      conversion.simpleBytes ∣ (0x1000 : Address).toNat ∧
      (∀ request, .raise request ∈ moves → HasPlace conversion 0x1000 request.address) ∧
      let session := (Session.fresh ⟨2⟩ conversion 0x1000 "ram" 1).play moves
      session.acknowledged.map Prod.snd = [.ok 0, .ok 0x1122334400007788] ∧
      session.faults = [] ∧
      session.raised = session.acknowledged.map Prod.fst ++
        session.slot.link.awaiting?.toList ∧
      (∀ earlier request response later,
        session.acknowledged = earlier ++ (request, response) :: later →
          response = wordReply conversion.simpleBytes (earlier.map Prod.fst) request) ∧
      ∀ request, session.slot.link = .waiting request →
        ∃ count, (session.play (List.replicate count .tick)).acknowledged =
          session.acknowledged ++
            [(request, wordReply conversion.simpleBytes (session.acknowledged.map Prod.fst)
              request)] := by
  intro conversion moves
  have built : Conversion.between .simpleSync 64 .wideSplit 16 = .ok conversion := rfl
  have based : conversion.simpleBytes ∣ (0x1000 : Address).toNat := by decide
  have placed : ∀ request, .raise request ∈ moves →
      HasPlace conversion 0x1000 request.address := by
    intro request mem
    have address : request.address = 0x1008 := by
      simp [moves, Request.read] at mem
      obtain rfl | rfl := mem <;> rfl
    rw [address]
    exact ⟨by decide, by decide⟩
  exact ⟨built, based, placed, by decide +kernel,
    split_slave_is_word_memory built ⟨2⟩ based "ram" 1 placed⟩

end BusFabric.Fabric
