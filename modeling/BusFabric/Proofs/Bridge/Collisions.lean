import BusFabric.Proofs.Bridge.InboundCompletion
import BusFabric.Proofs.Bridge.InboundWords
import BusFabric.Proofs.Bridge.Preimages
import Mathlib.Data.Nat.ModEq

set_option autoImplicit false

namespace BusFabric.Bridge

open Simple (Request Response)
open Split (AddressBeat WriteBeat)

theorem Span.Fits.selects_writeRequest {span : Span} (fits : span.Fits) (data : WriteBeat)
    (word : Address) {lane : Nat} :
    (span.writeRequest data word).select.selects lane = true ↔
      ∃ index < span.bytes, span.word index = word ∧ span.simpleLane index = lane ∧
        data.strobe.selects (span.splitLane index) = true := by
  constructor
  · intro selected
    rw [writeRequest, Strobe.selects_ofLanes _ (Strobe.lt_of_selects selected)] at selected
    cases found : span.byteAt? word lane with
    | none =>
      rw [found] at selected
      cases selected
    | some index =>
      rw [found] at selected
      obtain ⟨inside, place, same⟩ := byteAt?_eq_some found
      exact ⟨index, inside, place, same, selected⟩
  · rintro ⟨index, inside, rfl, rfl, enabled⟩
    rw [writeRequest, Strobe.selects_ofLanes _ (fits.simpleLane_lt index)]
    cases found : span.byteAt? (span.word index) (span.simpleLane index) with
    | none => exact absurd ⟨rfl, rfl⟩ (byteAt?_eq_none found inside)
    | some other =>
      obtain ⟨within, place, same⟩ := byteAt?_eq_some found
      rw [fits.place_inj within inside place same]
      exact enabled

/-- A byte lies in the word and on the lane that it is found on. -/
theorem Span.Fits.word_add_simpleLane {span : Span} (fits : span.Fits) (index : Nat) :
    span.word index + BitVec.ofNat 64 (span.simpleLane index) = span.address index := by
  apply BitVec.eq_of_toNat_eq
  have parts := Address.alignDown_add_mod (span.address index) fits.simple
  have below := (span.address index).toNat_lt
  have whole : (span.word index).toNat + span.simpleLane index = (span.address index).toNat := parts
  rw [Address.toNat_add_ofNat (by omega)]
  exact whole

namespace Inbound

namespace Handling

/-- A request raised for the burst writes the byte at `target` of the simple bus. -/
def Modifies (handling : Handling) (target : Address) : Prop :=
  ∃ request ∈ handling.issued, request.write = true ∧
    ∃ lane, request.select.selects lane = true ∧ request.address + BitVec.ofNat 64 lane = target

/-- The master writes the byte at `source`: it lies in a data beat that the bridge took, and its
strobe is set. -/
def Enables (conversion : Conversion) (origin : Address) (handling : Handling)
    (source : Address) : Prop :=
  handling.write = true ∧ ∃ beat data, handling.consumed[beat]? = some data ∧
    let span := Span.of conversion origin handling.burst beat
    ∃ index < span.bytes, data.strobe.selects (span.splitLane index) = true ∧
      origin + (span.start + BitVec.ofNat 64 index) = source

end Handling

variable {conversion : Conversion} {origin : Address} {handling : Handling}

/-- A byte of a data beat lies where its own address is translated to. -/
theorem address_eq_translate (regular : conversion.IsRegular)
    (inward : conversion.direction = .splitToSimple) {burst : AddressBeat} {beat index : Nat}
    (fits : (Span.of conversion origin burst beat).Fits)
    (inside : index < (Span.of conversion origin burst beat).bytes) :
    (Span.of conversion origin burst beat).address index =
      conversion.translate (origin +
        ((Span.of conversion origin burst beat).start + BitVec.ofNat 64 index) - origin) := by
  have room := fits.inside
  have source := Conversion.sourceBytes_inward inward
  have within : (Span.of conversion origin burst beat).start.toNat % conversion.sourceBytes +
      index < conversion.sourceBytes := by
    have bytes : (Span.of conversion origin burst beat).splitBytes = conversion.sourceBytes :=
      source.symm
    rw [bytes] at room
    omega
  rw [BitVec.add_comm origin, BitVec.add_sub_cancel]
  exact (Conversion.translate_add regular within).2.symm

section

variable (regular : conversion.IsRegular) (inward : conversion.direction = .splitToSimple)
  (size : handling.burst.size.toNat ≤ conversion.splitBytes.log2)
  (faithful : handling.Faithful conversion origin)

include regular inward size faithful

/-- What the requests of a burst write is what the master writes, translated. -/
theorem Handling.Faithful.enables_of_modifies {target : Address}
    (modified : handling.Modifies target) :
    ∃ source, handling.Enables conversion origin source ∧
      conversion.translate (source - origin) = target := by
  obtain ⟨request, issued, write, lane, selected, rfl⟩ := modified
  have listed := faithful.issued.subset issued
  unfold Handling.reference Handling.requestsBefore at listed
  obtain ⟨beat, _, asked⟩ := List.mem_flatMap.mp listed
  have fits := Span.of_fits regular inward origin size beat
  unfold Handling.requestsOf at asked
  dsimp only at asked
  split at asked
  · rename_i writes
    cases taken : handling.consumed[beat]? with
    | none =>
      rw [taken] at asked
      cases asked
    | some data =>
      rw [taken] at asked
      obtain ⟨word, _, rfl⟩ := List.mem_map.mp asked
      obtain ⟨index, inside, rfl, rfl, enabled⟩ := (fits.selects_writeRequest data _).mp selected
      refine ⟨_, ⟨writes, beat, data, taken, index, inside, enabled, rfl⟩, ?_⟩
      rw [← address_eq_translate regular inward fits inside]
      exact (fits.word_add_simpleLane index).symm
  · obtain ⟨word, _, rfl⟩ := List.mem_map.mp asked
    cases write

/-- Once all requests of a burst are raised, they write all that the master writes. -/
theorem Handling.Faithful.modifies_of_enables
    (whole : handling.issued = handling.reference conversion origin) {source : Address}
    (enabled : handling.Enables conversion origin source) :
    handling.Modifies (conversion.translate (source - origin)) := by
  obtain ⟨writes, beat, data, taken, index, inside, selected, rfl⟩ := enabled
  have fits := Span.of_fits regular inward origin size beat
  have early : beat < handling.burst.beats :=
    Nat.lt_of_lt_of_le (List.getElem?_eq_some_iff.mp taken).1 faithful.consumed
  refine ⟨(Span.of conversion origin handling.burst beat).writeRequest data
    ((Span.of conversion origin handling.burst beat).word index), ?_, rfl,
    (Span.of conversion origin handling.burst beat).simpleLane index, ?_, ?_⟩
  · rw [whole]
    unfold Handling.reference Handling.requestsBefore
    apply List.mem_flatMap.mpr
    refine ⟨beat, List.mem_range.mpr early, ?_⟩
    unfold Handling.requestsOf
    dsimp only
    rw [if_pos writes, taken]
    exact List.mem_map_of_mem (Span.word_mem inside)
  · exact (fits.selects_writeRequest data _).mpr ⟨index, inside, rfl, rfl, selected⟩
  · rw [← address_eq_translate regular inward fits inside]
    exact fits.word_add_simpleLane index

end

/-- Data is taken and requests are raised only for a burst whose beats fit on the split bus. -/
def Handling.Fits (conversion : Conversion) (handling : Handling) : Prop :=
  handling.consumed = [] ∧ handling.issued = [] ∨
    handling.burst.size.toNat ≤ conversion.splitBytes.log2

theorem Junction.accepted?_fits {before after : Junction}
    (accepted : Junction.accepted? before after = some handling) : handling.Fits conversion := by
  obtain ⟨_, _, rfl⟩ := Junction.accepted?_eq_some accepted
  exact .inl ⟨rfl, rfl⟩

section

variable {junction : Junction} {log : Log} (regular : conversion.IsRegular)
  (inward : conversion.direction = .splitToSimple)

include regular inward

theorem Log.Accounts.fits_step (accounts : log.Accounts conversion origin junction)
    (running : junction.bridge.isHalted = false)
    (fits : ∀ handling ∈ log.handlings, handling.Fits conversion) :
    ∀ handling ∈ (log.observe junction junction.step.1).handlings, handling.Fits conversion := by
  obtain ⟨reads, writes, enters⟩ := accounts.sound.stages regular inward running
  have stages := enters _ junction.step_advances
  have unmoved : junction.entered.1.bridge.active = none → junction.step.1 = junction.entered.1 :=
    junction.step_of_idle
  generalize junction.entered.1 = middle at stages unmoved
  have earlier : ∀ handling ∈ (Junction.accepted? junction.flush.collect middle).toList ++
      log.handlings.modifyHead (·.settle junction.simple.response?.toList reads writes),
      handling.Fits conversion := by
    intro handling member
    rcases List.mem_append.mp member with fresh | settled
    · exact Junction.accepted?_fits (Option.mem_toList.mp fresh)
    · cases handlings : log.handlings with
      | nil =>
        rw [handlings] at settled
        cases settled
      | cons newest past =>
        rw [handlings] at settled fits
        rcases List.mem_cons.mp settled with rfl | old
        · exact fits newest (List.mem_cons_self ..)
        · exact fits handling (List.mem_cons_of_mem _ old)
  have standing := stages.accepted.standing
  rw [stages.observed]
  generalize (Junction.accepted? junction.flush.collect middle).toList ++
    log.handlings.modifyHead (·.settle junction.simple.response?.toList reads writes) =
      handlings at earlier standing
  cases standing with
  | resting idle _ _ =>
    -- Nothing is taken or raised without a burst.
    rw [unmoved idle, Junction.consumed?_self, Simple.Link.raised?_self, Option.toList_none,
      Option.toList_none, modifyHead_engage_nil]
    exact earlier
  | working transfer underway _ =>
    intro handling member
    rcases List.mem_cons.mp member with rfl | old
    · exact .inr underway.size
    · exact earlier handling (List.mem_cons_of_mem _ old)

theorem Log.Accounts.fits_act (accounts : log.Accounts conversion origin junction)
    (fits : ∀ handling ∈ log.handlings, handling.Fits conversion) (move : Move) :
    ∀ handling ∈ (log.act junction move).handlings, handling.Fits conversion := by
  cases move with
  | sendWriteAddress _ | sendReadAddress _ | sendWriteData _ | takeWriteResponse | takeReadData
  | acknowledge _ => exact fits
  | tick cycle =>
    show ∀ handling ∈ (log.observe junction (junction.tick cycle).1).handlings, _
    unfold Junction.tick
    cases halted : junction.bridge.isHalted with
    | true =>
      obtain ⟨same, observed⟩ := accounts.sound.drain halted
      rw [if_pos rfl]
      dsimp only
      rw [same, observed]
      exact fits
    | false =>
      rw [if_neg Bool.false_ne_true]
      exact accounts.fits_step regular inward halted fits

theorem Log.Accounts.fits_play (accounts : log.Accounts conversion origin junction)
    (fits : ∀ handling ∈ log.handlings, handling.Fits conversion) (moves : List Move) :
    ∀ handling ∈ (junction.play log moves).2.handlings, handling.Fits conversion := by
  induction moves generalizing junction log with
  | nil => exact fits
  | cons move rest ih =>
    exact ih (accounts.act regular inward move) (accounts.fits_act regular inward fits move)

end

/-- The bytes that a burst wrote are bytes that its master writes. -/
theorem Handling.Faithful.enables_of_fits (regular : conversion.IsRegular)
    (inward : conversion.direction = .splitToSimple) (fits : handling.Fits conversion)
    (faithful : handling.Faithful conversion origin) {target : Address}
    (modified : handling.Modifies target) :
    ∃ source, handling.Enables conversion origin source ∧
      conversion.translate (source - origin) = target := by
  rcases fits with ⟨_, idle⟩ | size
  · obtain ⟨request, issued, _⟩ := modified
    rw [idle] at issued
    cases issued
  · exact faithful.enables_of_modifies regular inward size modified

/-- The bytes that a master writes are written by the time all requests are raised. -/
theorem Handling.Faithful.modifies_of_fits (regular : conversion.IsRegular)
    (inward : conversion.direction = .splitToSimple) (fits : handling.Fits conversion)
    (faithful : handling.Faithful conversion origin)
    (whole : handling.issued = handling.reference conversion origin) {source : Address}
    (enabled : handling.Enables conversion origin source) :
    handling.Modifies (conversion.translate (source - origin)) := by
  rcases fits with ⟨idle, _⟩ | size
  · obtain ⟨_, beat, data, taken, _⟩ := enabled
    rw [idle] at taken
    cases taken
  · exact faithful.modifies_of_enables regular inward size whole enabled

def Handling.IsByteWrite (conversion : Conversion) (origin : Address) (handling : Handling)
    (source : Address) : Prop :=
  ∀ byte, handling.Enables conversion origin byte ↔ byte = source

theorem Handling.isByteWrite (write : handling.write = true) (narrow : handling.burst.size = 0)
    {data : WriteBeat} (taken : handling.consumed = [data])
    (enabled : data.strobe.selects
      ((handling.burst.beatAddress 0 - origin).toNat % conversion.splitBytes) = true) :
    handling.IsByteWrite conversion origin (handling.burst.beatAddress 0) := by
  have bytes : handling.burst.beatBytes = 1 := by
    unfold AddressBeat.beatBytes
    rw [narrow]
    rfl
  have start : (Span.of conversion origin handling.burst 0).start =
      handling.burst.beatAddress 0 - origin := by
    unfold Span.of
    dsimp only
    rw [bytes]
    exact Address.alignDown_of_dvd ⟨0, by decide, rfl⟩ (Nat.one_dvd _)
  have place : origin + ((Span.of conversion origin handling.burst 0).start +
      BitVec.ofNat 64 0) = handling.burst.beatAddress 0 := by
    rw [start, BitVec.add_zero, BitVec.add_comm, BitVec.sub_add_cancel]
  intro byte
  constructor
  · rintro ⟨_, beat, other, consumed, index, inside, _, rfl⟩
    have first : beat = 0 := by
      have short := (List.getElem?_eq_some_iff.mp consumed).1
      rw [taken, List.length_singleton] at short
      omega
    have lowest : index = 0 := by
      have small : index < handling.burst.beatBytes := inside
      omega
    rw [first, lowest]
    exact place
  · rintro rfl
    have holds : 0 < (Span.of conversion origin handling.burst 0).bytes := by
      show 0 < handling.burst.beatBytes
      omega
    refine ⟨write, 0, data, by rw [taken]; rfl, 0, holds, ?_, place⟩
    unfold Span.splitLane
    rw [start, Nat.add_zero]
    exact enabled

/-- Counting addresses from an origin does not change which of them agree in their low bits. -/
theorem sub_mod_shift_iff {address other : Address} (origin : Address) {bit : Nat}
    (top : bit ≤ 64) :
    (address - origin).toNat % 1 <<< bit = (other - origin).toNat % 1 <<< bit ↔
      address.toNat % 1 <<< bit = other.toNat % 1 <<< bit := by
  have whole : 1 <<< bit ∣ 2 ^ 64 := by
    rw [← Nat.one_shiftLeft, Conversion.shift_split top]
    exact Nat.dvd_mul_right _ _
  rw [BitVec.toNat_sub, BitVec.toNat_sub, Nat.mod_mod_of_dvd _ whole, Nat.mod_mod_of_dvd _ whole]
  constructor
  · intro same
    exact Nat.ModEq.add_left_cancel' _ same
  · intro same
    exact Nat.ModEq.add_left _ same

/-- Two addresses are brought onto one byte just when they agree in all bits that are not moved past
the top, which makes them equal just when the source is no wider than the target. In every run of an
inbound bridge the bytes that a burst writes on the simple bus are those that its master writes,
brought where they belong, and all of them once all its requests are raised. So two writes of single
bytes write the same byte just when their addresses agree in those bits. -/
theorem written_bytes_meet {source target : Protocol} {sourceWidth targetWidth : Nat}
    {conversion : Conversion}
    (built : Conversion.between source sourceWidth target targetWidth = .ok conversion) :
    (∀ address other, conversion.translate address = conversion.translate other ↔
      address.toNat % 2 ^ (64 - conversion.scale) = other.toNat % 2 ^ (64 - conversion.scale)) ∧
    (Function.Injective conversion.translate ↔ sourceWidth ≤ targetWidth) ∧
    (conversion.direction = .splitToSimple → ∀ port origin moves,
      let log := ((Junction.fresh port conversion origin).play {} moves).2
      (∀ handling ∈ log.handlings,
        (∀ target, handling.Modifies target → ∃ source,
          handling.Enables conversion origin source ∧
            conversion.translate (source - origin) = target) ∧
        (handling.issued = handling.reference conversion origin → ∀ source,
          handling.Enables conversion origin source →
            handling.Modifies (conversion.translate (source - origin)))) ∧
      ∀ first ∈ log.handlings, ∀ second ∈ log.handlings, ∀ address other,
        first.IsByteWrite conversion origin address →
        second.IsByteWrite conversion origin other →
        ∀ target rival, first.Modifies target → second.Modifies rival →
          (target = rival ↔ address.toNat % 2 ^ (64 - conversion.scale) =
            other.toNat % 2 ^ (64 - conversion.scale))) := by
  have regular := Conversion.isRegular_of_between built
  have merged : ∀ address other, conversion.translate address = conversion.translate other ↔
      address.toNat % 2 ^ (64 - conversion.scale) =
        other.toNat % 2 ^ (64 - conversion.scale) := by
    intro address other
    rw [← Nat.one_shiftLeft]
    exact Conversion.translate_eq_iff regular
  refine ⟨merged, Conversion.translate_injective_iff built, ?_⟩
  intro inward port origin moves log
  have fresh := Log.Accounts.fresh port conversion origin
  have accounts := fresh.play regular inward moves
  have faithful := accounts.sound.standing.faithful regular inward
  have fits := fresh.fits_play regular inward (by intro handling member; cases member) moves
  have written : ∀ handling ∈ log.handlings, ∀ target, handling.Modifies target → ∃ source,
      handling.Enables conversion origin source ∧
        conversion.translate (source - origin) = target := by
    intro handling member target modified
    exact (faithful handling member).enables_of_fits regular inward (fits handling member) modified
  constructor
  · intro handling member
    constructor
    · exact written handling member
    · intro whole source enabled
      exact (faithful handling member).modifies_of_fits regular inward (fits handling member) whole
        enabled
  · intro first one second two address other here there target rival modified reached
    obtain ⟨_, enabled, rfl⟩ := written first one target modified
    obtain ⟨_, allowed, rfl⟩ := written second two rival reached
    rw [(here _).mp enabled, (there _).mp allowed, merged, ← Nat.one_shiftLeft]
    apply sub_mod_shift_iff
    omega

def byteWrites (first second : Address) : List Move :=
  [.sendWriteAddress (.single 1 first 0), .sendWriteData ⟨0x11, 1, true⟩, .tick 0,
    .acknowledge (.ok 0), .tick 1, .takeWriteResponse,
    .sendWriteAddress (.single 2 second 0), .sendWriteData ⟨0x22, 1, true⟩, .tick 2]

/-- Onto a bus of half the width, the bytes of neighbouring words stay apart. -/
theorem written_bytes_meet_narrow :
    let conversion : Conversion := ⟨.wideSplit, 64, .simpleSync, 32⟩
    let log := ((Junction.fresh ⟨1⟩ conversion 0).play {} (byteWrites 0 8)).2
    Conversion.between .wideSplit 64 .simpleSync 32 = .ok conversion ∧
      conversion.direction = .splitToSimple ∧
      log.handlings.map (·.issued) = [[⟨0x10, 0x22, 1, true⟩], [⟨0, 0x11, 1, true⟩]] ∧
      conversion.translate 0 ≠ conversion.translate 8 ∧
      ¬ Function.Injective conversion.translate ∧
      ∀ handling ∈ log.handlings, ∀ target, handling.Modifies target → ∃ source,
        handling.Enables conversion 0 source ∧ conversion.translate (source - 0) = target := by
  intro conversion log
  have built : Conversion.between .wideSplit 64 .simpleSync 32 = .ok conversion := rfl
  obtain ⟨merged, injective, runs⟩ := written_bytes_meet built
  refine ⟨built, rfl, by decide, ?_, ?_, ?_⟩
  · intro same
    have places := (merged 0 8).mp same
    revert places
    decide
  · intro apart
    have wider := injective.mp apart
    omega
  · intro handling member
    exact ((runs rfl ⟨1⟩ 0 (byteWrites 0 8)).1 handling member).1

/-- Onto a bus of half the width, the bytes at the lowest address and halfway up the address space
come together: writing the one overwrites the other. -/
theorem far_bytes_merge :
    let conversion : Conversion := ⟨.wideSplit, 64, .simpleSync, 32⟩
    let log := ((Junction.fresh ⟨1⟩ conversion 0).play {} (byteWrites 0 0x8000000000000000)).2
    Conversion.between .wideSplit 64 .simpleSync 32 = .ok conversion ∧
      conversion.translate 0 = conversion.translate 0x8000000000000000 ∧
      ∃ first ∈ log.handlings, ∃ second ∈ log.handlings,
        first.IsByteWrite conversion 0 0 ∧ second.IsByteWrite conversion 0 0x8000000000000000 ∧
          first.Modifies 0 ∧ second.Modifies 0 := by
  intro conversion log
  have handlings : log.handlings =
      [{ burst := .single 2 0x8000000000000000 0, write := true,
         consumed := [⟨0x22, 1, true⟩], issued := [⟨0, 0x22, 1, true⟩] },
       { burst := .single 1 0 0, write := true, consumed := [⟨0x11, 1, true⟩],
         issued := [⟨0, 0x11, 1, true⟩], answers := [.ok 0],
         writeResponses := [⟨1, .okay⟩] }] := by
    decide
  rw [handlings]
  refine ⟨rfl, by decide, _, List.mem_cons_of_mem _ (List.mem_cons_self ..), _,
    List.mem_cons_self .., ?_, ?_, ?_, ?_⟩
  · exact Handling.isByteWrite rfl rfl rfl (by decide)
  · exact Handling.isByteWrite rfl rfl rfl (by decide)
  · exact ⟨_, List.mem_singleton_self _, rfl, 0, by decide, by decide⟩
  · exact ⟨_, List.mem_singleton_self _, rfl, 0, by decide, by decide⟩

end Inbound

end BusFabric.Bridge
