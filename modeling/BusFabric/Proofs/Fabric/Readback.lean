import BusFabric.Proofs.Bridge.Span
import BusFabric.Proofs.Fabric.Bursts
import BusFabric.Proofs.Split.Beats

set_option autoImplicit false

namespace BusFabric.Fabric

open Bridge (Access Conversion Span gathered)
open Bridge.Outbound (gatheredWord overlaid)
open Simple (Request Response)
open Split (AddressBeat Op WriteBeat)

/-- Where the store keeps byte `index` of a beat. -/
def location (place : Address → Address) (span : Span) (index : Nat) : Address :=
  place (span.word index) + BitVec.ofNat 64 (span.simpleLane index)

/-- The accesses that carry out a data beat. -/
def spanAccesses (span : Span) (use : Bridge.WordLanes → Access) : List Access :=
  span.words.map fun word => use (span.lanesOf word)

theorem spanAccesses_ne_nil {span : Span} (fits : span.Fits) (use : Bridge.WordLanes → Access) :
    spanAccesses span use ≠ [] := by
  intro none_
  exact fits.words_ne_nil (List.map_eq_nil_iff.mp none_)

theorem write_spanAccesses (span : Span) {use : Bridge.WordLanes → Access} {write : Bool}
    (flag : ∀ word, (use word).request.write = write) :
    ∀ access ∈ spanAccesses span use, access.request.write = write := by
  intro access mem
  obtain ⟨word, _, rfl⟩ := List.mem_map.mp mem
  exact flag _

theorem reaches_spanAccesses {span : Span} {use : Bridge.WordLanes → Access}
    {isServed : Address → Prop} {map : AddressMap} {port : PortId}
    (address : ∀ word, (use word).request.address = word.address)
    (reached : ∀ word ∈ span.words, isServed word ∧ map.decode word = some port) :
    Reaches isServed map port (spanAccesses span use) := by
  intro access mem
  obtain ⟨word, listed, rfl⟩ := List.mem_map.mp mem
  rw [address]
  exact reached word listed

section

variable {simpleBytes : Nat} {place : Address → Address} {bytes : Address → Byte}

def Hits (simpleBytes : Nat) (place : Address → Address) (address : Address) (access : Access) :
    Prop :=
  (address - place access.request.address).toNat < simpleBytes ∧
    access.request.select.selects (address - place access.request.address).toNat

def carried (place : Address → Address) (address : Address) (access : Access) : Byte :=
  access.request.data.lane (address - place access.request.address).toNat

theorem updated_hit (bytes : Address → Byte) {access : Access} {address : Address}
    (write : access.request.write = true)
    (hit : Hits simpleBytes place address access) :
    updated simpleBytes (place access.request.address) access.request bytes address =
      carried place address access := by
  unfold Hits at hit
  unfold updated overlaid
  rw [if_pos write, if_pos hit]
  rfl

theorem updated_miss {access : Access} {address : Address}
    (miss : ¬ Hits simpleBytes place address access) :
    updated simpleBytes (place access.request.address) access.request bytes address =
      bytes address := by
  unfold Hits at miss
  unfold updated overlaid
  split
  · exact if_neg miss
  · rfl

theorem storedAll_of_not_mem {accesses : List Access} {address : Address}
    (misses : ∀ access ∈ accesses, ¬ Hits simpleBytes place address access) :
    storedAll simpleBytes place bytes accesses address = bytes address := by
  unfold storedAll
  induction accesses generalizing bytes with
  | nil => rfl
  | cons access rest ih =>
    rw [List.foldl_cons, ih fun other mem => misses other (List.mem_cons_of_mem _ mem)]
    exact updated_miss (misses access List.mem_cons_self)

/-- An address that some accesses write, all with one byte, holds that byte. -/
theorem storedAll_of_mem {accesses : List Access} {address : Address} {byte : Byte}
    (write : ∀ access ∈ accesses, access.request.write = true)
    (agree : ∀ access ∈ accesses, Hits simpleBytes place address access →
      carried place address access = byte)
    (found : ∃ access ∈ accesses, Hits simpleBytes place address access) :
    storedAll simpleBytes place bytes accesses address = byte := by
  induction accesses generalizing bytes with
  | nil => simp at found
  | cons access rest ih =>
    have write' := fun other mem => write other (List.mem_cons_of_mem access mem)
    have agree' := fun other mem => agree other (List.mem_cons_of_mem access mem)
    by_cases later : ∃ other ∈ rest, Hits simpleBytes place address other
    · exact ih write' agree' later
    · have misses : ∀ other ∈ rest, ¬ Hits simpleBytes place address other :=
        fun other mem hit => later ⟨other, mem, hit⟩
      have hit : Hits simpleBytes place address access := by
        obtain ⟨other, mem, hit⟩ := found
        rcases List.mem_cons.mp mem with rfl | mem
        · exact hit
        · exact absurd hit (misses other mem)
      have value := updated_hit bytes (write access List.mem_cons_self) hit
      rw [agree access List.mem_cons_self hit] at value
      exact (storedAll_of_not_mem misses).trans value

end

section

variable {simpleBytes : Nat} {place : Address → Address} {bytes : Address → Byte} {count : Nat}

/-- What a write access of a beat hits is the location of a byte that the beat enables. -/
theorem hits_write {span : Span} (fits : span.Fits) {beat : WriteBeat} {address word : Address}
    (hit : Hits span.simpleBytes place address ((span.lanesOf word).write beat)) :
    ∃ index, index < span.bytes ∧ location place span index = address ∧
      carried place address ((span.lanesOf word).write beat) =
        beat.data.lane (span.splitLane index) := by
  have narrow := fits.simple_le
  unfold Hits at hit
  rw [fits.write_request] at hit
  obtain ⟨inside, selected⟩ := hit
  have low : (address - place word).toNat < 16 := Nat.lt_of_lt_of_le inside narrow
  unfold Span.writeRequest at selected
  dsimp only at selected inside
  rw [Strobe.selects_ofLanes _ low] at selected
  cases found : span.byteAt? word (address - place word).toNat with
  | none => rw [found] at selected; cases selected
  | some index =>
    rw [found] at selected
    obtain ⟨within, same, lane⟩ := Span.byteAt?_eq_some found
    have size : (address - place word).toNat < UInt64.size := BitVec.isLt _
    refine ⟨index, within, ?_, ?_⟩
    · unfold location
      rw [same, lane]
      exact (Address.add_ofNat_eq_iff size).mpr rfl
    · unfold carried
      rw [fits.write_request]
      unfold Span.writeRequest
      dsimp only
      rw [Data.lane_ofLanes _ low, found]
      exact if_pos selected

theorem hits_location {span : Span} (fits : span.Fits) {beat : WriteBeat} {index : Nat}
    (inside : index < span.bytes) (enabled : beat.strobe.selects (span.splitLane index) = true) :
    Hits span.simpleBytes place (location place span index)
      ((span.lanesOf (span.word index)).write beat) := by
  have narrow := fits.simple_le
  have lane : span.simpleLane index < span.simpleBytes := Nat.mod_lt _ fits.simple.positive
  have size : UInt64.size = 18446744073709551616 := rfl
  have offset : (location place span index - place (span.word index)).toNat =
      span.simpleLane index :=
    (Address.add_ofNat_eq_iff (by omega)).mp rfl
  unfold Hits
  rw [fits.write_request]
  unfold Span.writeRequest
  dsimp only
  rw [offset, Strobe.selects_ofLanes _ (by omega)]
  refine ⟨lane, ?_⟩
  cases found : span.byteAt? (span.word index) (span.simpleLane index) with
  | none => exact absurd ⟨rfl, rfl⟩ (Span.byteAt?_eq_none found inside)
  | some other =>
    obtain ⟨within, same, lanes⟩ := Span.byteAt?_eq_some found
    rw [fits.place_inj within inside same lanes]
    exact enabled

/-- After the accesses of a write burst, the location of each byte holds what its beat carried. -/
theorem storedAll_location (spans : Nat → Span) (data : Nat → WriteBeat) (bytes : Address → Byte)
    (fits : ∀ beat < count, (spans beat).Fits)
    (width : ∀ beat < count, (spans beat).simpleBytes = simpleBytes)
    (enabled : ∀ beat < count, ∀ index < (spans beat).bytes,
      (data beat).strobe.selects ((spans beat).splitLane index) = true)
    (apart : ∀ beat < count, ∀ index < (spans beat).bytes,
      ∀ other < count, ∀ another < (spans other).bytes,
        location place (spans beat) index = location place (spans other) another →
          beat = other ∧ index = another)
    {beat index : Nat} (inside : beat < count) (within : index < (spans beat).bytes) :
    storedAll simpleBytes place bytes
        ((List.range count).flatMap fun beat => spanAccesses (spans beat) (·.write (data beat)))
        (location place (spans beat) index) =
      (data beat).data.lane ((spans beat).splitLane index) := by
  have members : ∀ access, access ∈ ((List.range count).flatMap fun beat =>
      spanAccesses (spans beat) (·.write (data beat))) ↔
      ∃ other < count, ∃ word ∈ (spans other).words,
        ((spans other).lanesOf word).write (data other) = access := by
    intro access
    unfold spanAccesses
    simp only [List.mem_flatMap, List.mem_range, List.mem_map]
  apply storedAll_of_mem
  · intro access mem
    obtain ⟨other, _, word, _, rfl⟩ := (members access).mp mem
    rfl
  · intro access mem hit
    obtain ⟨other, small, word, _, rfl⟩ := (members access).mp mem
    rw [← width other small] at hit
    obtain ⟨another, bound, same, holds⟩ := hits_write (fits other small) hit
    obtain ⟨rfl, rfl⟩ := apart other small another bound beat inside index within same
    exact holds
  · refine ⟨_, (members _).mpr ⟨beat, inside, (spans beat).word index, ?_, rfl⟩, ?_⟩
    · exact (spans beat).word_mem within
    · rw [← width beat inside]
      exact hits_location (fits beat inside) within (enabled beat inside index within)

/-- What a read beat gathers is, in the lane of each byte, what its location holds. -/
theorem lane_readOut {span : Span} (fits : span.Fits) {index : Nat} (inside : index < span.bytes) :
    (readOut span.simpleBytes place bytes (spanAccesses span (·.read))).lane
        (span.splitLane index) =
      bytes (location place span index) := by
  have answers : readOut span.simpleBytes place bytes (spanAccesses span (·.read)) =
      gathered (span.words.map fun word => (span.lanesOf word).read)
        (span.words.map fun word =>
          reply span.simpleBytes (place word) (span.readRequest word) bytes) := by
    unfold readOut gathered spanAccesses
    rw [List.zip_map', List.foldl_map, List.foldl_map]
    -- the selected lanes of a read make no difference to its reply
    rfl
  have listed := span.word_mem inside
  have entry : (span.word index, reply span.simpleBytes (place (span.word index))
      (span.readRequest (span.word index)) bytes) ∈ span.words.zip (span.words.map fun word =>
        reply span.simpleBytes (place word) (span.readRequest word) bytes) := by
    have mapped : (span.words.map id).zip (span.words.map fun word =>
        reply span.simpleBytes (place word) (span.readRequest word) bytes) = _ := List.zip_map'
    rw [List.map_id] at mapped
    rw [mapped]
    exact List.mem_map_of_mem listed
  have looked := Bridge.lookup_zip_of_mem (Bridge.nodup_eraseDups _) entry
  have low := fits.simpleLane_lt index
  have lane : span.simpleLane index < span.simpleBytes := Nat.mod_lt _ fits.simple.positive
  rw [answers, fits.gathered_eq (List.length_map _)]
  unfold Span.readData
  rw [Data.lane_ofLanes _ (fits.splitLane_lt inside)]
  cases found : span.byteOn? (span.splitLane index) with
  | none => exact absurd rfl (Span.byteOn?_eq_none found inside)
  | some other =>
    obtain ⟨within, same⟩ := Span.byteOn?_eq_some found
    obtain rfl := fits.splitLane_inj within inside same
    dsimp only
    rw [show (span.words.zip _).lookup (span.word other) = _ from looked]
    have read : (span.readRequest (span.word other)).write = false := rfl
    have word : (reply span.simpleBytes (place (span.word other))
        (span.readRequest (span.word other)) bytes).data =
        gatheredWord span.simpleBytes (place (span.word other)) bytes := by
      unfold reply
      rw [read]
      rfl
    dsimp only
    rw [word]
    unfold gatheredWord
    rw [Data.lane_ofLanes _ low, if_pos lane]
    rfl

end

section

variable {conversion : Conversion} {origin : Address} {burst : AddressBeat}
  {isServed : Address → Prop} {place : Address → Address}

/-- The bytes of a beat lie in one word of the source. -/
theorem span_room (regular : conversion.IsRegular)
    (inward : conversion.direction = .splitToSimple)
    (size : burst.size.toNat ≤ conversion.splitBytes.log2) (beat : Nat) {index : Nat}
    (inside : index < (Span.of conversion origin burst beat).bytes) :
    (Span.of conversion origin burst beat).start.toNat % conversion.sourceBytes + index <
      conversion.stride := by
  have room := (Span.of_fits regular inward origin size beat).inside
  have source : (Span.of conversion origin burst beat).splitBytes = conversion.sourceBytes :=
    (Conversion.sourceBytes_inward inward).symm
  have wide := conversion.sourceBytes_le_stride
  rw [source] at room
  omega

theorem locations_apart (regular : conversion.IsRegular)
    (inward : conversion.direction = .splitToSimple)
    (size : burst.size.toNat ≤ conversion.splitBytes.log2)
    (legal : burst.mode = .incr ∨ burst.mode = .wrap ∧ burst.beats ∈ [2, 4, 8, 16])
    (based : conversion.splitBytes ∣ origin.toNat)
    (apart : KeepsApart conversion.simpleBytes isServed place)
    (served : ∀ beat < burst.beats, ∀ word ∈ (Span.of conversion origin burst beat).words,
      isServed word) :
    ∀ beat < burst.beats, ∀ index < (Span.of conversion origin burst beat).bytes,
      ∀ other < burst.beats, ∀ another < (Span.of conversion origin burst other).bytes,
        location place (Span.of conversion origin burst beat) index =
          location place (Span.of conversion origin burst other) another →
            beat = other ∧ index = another := by
  obtain ⟨cell, narrow⟩ := Bridge.beatBytes_cell regular size
  have width := regular.splitBytes_le
  have scale := regular.scale_le
  obtain ⟨base, offset, spread⟩ := AddressBeat.spread cell (by omega) legal
  -- the bytes of a beat, counted from the origin
  have starts : ∀ beat < burst.beats, (Span.of conversion origin burst beat).start =
      base - origin + BitVec.ofNat 64 (offset beat) := by
    intro beat inside
    have whole := Nat.dvd_trans (cell.dvd regular.splitBytes narrow) based
    unfold Span.of
    dsimp only
    rw [Address.alignDown_sub cell _ whole, spread.start beat inside, BitVec.sub_eq_add_neg,
      BitVec.sub_eq_add_neg, BitVec.add_assoc, BitVec.add_comm (BitVec.ofNat 64 _),
      BitVec.add_assoc]
  intro beat inside index within other inside' another within' same
  have fits := Span.of_fits regular inward origin size beat
  have fits' := Span.of_fits regular inward origin size other
  have listed : ∀ {beat index}, beat < burst.beats →
      index < (Span.of conversion origin burst beat).bytes →
        isServed ((Span.of conversion origin burst beat).word index) :=
    fun inside within => served _ inside _ (Span.word_mem within)
  have near := apart _ _ (listed inside within) (listed inside' within') same
  rw [fits.toNat_address within, fits'.toNat_address within'] at near
  have far := Conversion.keeps_apart regular (by decide) (by decide)
    (span_room regular inward size beat within) (span_room regular inward size other within') near
  have final := Bridge.mod_shift_of_le (by omega : 56 ≤ 60 - conversion.scale) far
  have low := spread.below beat inside
  have low' := spread.below other inside'
  have bytes : (Span.of conversion origin burst beat).bytes = burst.beatBytes := rfl
  have bytes' : (Span.of conversion origin burst other).bytes = burst.beatBytes := rfl
  have sums : offset beat + index = offset other + another := by
    have power : 1 <<< 56 = 72057594037927936 := rfl
    rw [starts beat inside, starts other inside', BitVec.toNat_add, BitVec.toNat_add,
      BitVec.toNat_ofNat, BitVec.toNat_ofNat, power] at final
    omega
  -- an offset inside a beat is less than a beat
  have rests := congrArg (· % burst.beatBytes) sums
  have remainder : ∀ {beat index}, beat < burst.beats → index < burst.beatBytes →
      (offset beat + index) % burst.beatBytes = index := by
    intro beat index inside within
    rw [Nat.add_mod, Nat.mod_eq_zero_of_dvd (spread.aligned beat inside), Nat.zero_add,
      Nat.mod_mod, Nat.mod_eq_of_lt within]
  rw [remainder inside (bytes ▸ within), remainder inside' (bytes' ▸ within')] at rests
  refine ⟨spread.injective beat inside other inside' (by omega), rests⟩

/-- The master's lanes of a beat are the bridge's. -/
theorem splitLane_eq_beatLane (regular : conversion.IsRegular)
    (inward : conversion.direction = .splitToSimple)
    (size : burst.size.toNat ≤ conversion.splitBytes.log2)
    (based : conversion.splitBytes ∣ origin.toNat) (beat : Nat) {index : Nat}
    (inside : index < burst.beatBytes) :
    (Span.of conversion origin burst beat).splitLane index =
      burst.beatLane beat conversion.splitBytes + index := by
  obtain ⟨cell, narrow⟩ := Bridge.beatBytes_cell regular size
  have whole := Nat.dvd_trans (cell.dvd regular.splitBytes narrow) based
  have fits := Span.of_fits regular inward origin size beat
  rw [fits.splitLane_eq inside]
  unfold Span.of AddressBeat.beatLane
  dsimp only
  rw [Address.alignDown_sub cell _ whole, Address.toNat_sub_mod regular.splitBytes _ based]

/-- The data beat of a datum, as the bridge of its master sees it. -/
structure Carries (conversion : Conversion) (origin : Address) (burst : AddressBeat) (beat : Nat)
    (datum : Data) (data : WriteBeat) : Prop where
  enabled : ∀ index < burst.beatBytes,
    data.strobe.selects ((Span.of conversion origin burst beat).splitLane index) = true
  lanes : ∀ index < burst.beatBytes,
    data.data.lane ((Span.of conversion origin burst beat).splitLane index) = datum.lane index

theorem carries_writeBeat (regular : conversion.IsRegular)
    (inward : conversion.direction = .splitToSimple)
    (size : burst.size.toNat ≤ conversion.splitBytes.log2)
    (based : conversion.splitBytes ∣ origin.toNat) (beat count : Nat) (datum : Data) :
    Carries conversion origin burst beat datum
      (Op.writeBeat burst conversion.splitBytes count beat datum) := by
  have lanes := fun {index} (inside : index < burst.beatBytes) =>
    splitLane_eq_beatLane regular inward size based beat inside
  have fits := Span.of_fits regular inward origin size beat
  have small : ∀ index < burst.beatBytes,
      burst.beatLane beat conversion.splitBytes + index < 16 := by
    intro index inside
    rw [← lanes inside]
    exact fits.splitLane_lt inside
  constructor
  · intro index inside
    rw [lanes inside]
    unfold Op.writeBeat
    dsimp only
    exact (Strobe.selects_full_shiftLeft_iff (small index inside)).mpr ⟨index, inside, rfl⟩
  · intro index inside
    rw [lanes inside]
    unfold Op.writeBeat
    dsimp only
    rw [Data.lane_shiftLeft _ (small index inside), Data.lane_truncate, if_pos inside]

/-- What the master makes of the data that carry a datum is that datum. -/
theorem datum_of_lanes (regular : conversion.IsRegular)
    (inward : conversion.direction = .splitToSimple)
    (size : burst.size.toNat ≤ conversion.splitBytes.log2)
    (based : conversion.splitBytes ∣ origin.toNat) (beat : Nat) {datum data : Data}
    (lanes : ∀ index < burst.beatBytes,
      data.lane ((Span.of conversion origin burst beat).splitLane index) = datum.lane index) :
    Split.Master.datum burst conversion.splitBytes beat data = datum.truncate burst.beatBytes := by
  apply Data.ext_lanes
  intro lane _
  unfold Split.Master.datum
  rw [Data.lane_truncate, Data.lane_truncate]
  by_cases inside : lane < burst.beatBytes
  · rw [if_pos inside, if_pos inside, Data.lane_shiftRight, ← lanes lane inside,
      splitLane_eq_beatLane regular inward size based beat inside]
  · rw [if_neg inside, if_neg inside]

/-- A read burst returns what a write burst over the same addresses carried. -/
theorem datum_readback (regular : conversion.IsRegular)
    (inward : conversion.direction = .splitToSimple)
    (size : burst.size.toNat ≤ conversion.splitBytes.log2)
    (legal : burst.mode = .incr ∨ burst.mode = .wrap ∧ burst.beats ∈ [2, 4, 8, 16])
    (based : conversion.splitBytes ∣ origin.toNat)
    (apart : KeepsApart conversion.simpleBytes isServed place)
    (served : ∀ beat < burst.beats, ∀ word ∈ (Span.of conversion origin burst beat).words,
      isServed word) {datum : Nat → Data} {data : Nat → WriteBeat}
    (carries : ∀ beat < burst.beats,
      Carries conversion origin burst beat (datum beat) (data beat)) (bytes : Address → Byte)
    {beat : Nat} (inside : beat < burst.beats) :
    Split.Master.datum burst conversion.splitBytes beat
        (readOut conversion.simpleBytes place
          (storedAll conversion.simpleBytes place bytes ((List.range burst.beats).flatMap
            fun beat => spanAccesses (Span.of conversion origin burst beat) (·.write (data beat))))
          (spanAccesses (Span.of conversion origin burst beat) (·.read))) =
      (datum beat).truncate burst.beatBytes := by
  have fits := Span.of_fits regular inward origin size
  apply datum_of_lanes regular inward size based
  intro index within
  rw [← (carries beat inside).lanes index within]
  exact (lane_readOut (fits beat) within).trans
    (storedAll_location (Span.of conversion origin burst) data bytes (fun beat _ => fits beat)
      (fun _ _ => rfl) (fun beat inside => (carries beat inside).enabled)
      (locations_apart regular inward size legal based apart served) inside within)

end

end BusFabric.Fabric
