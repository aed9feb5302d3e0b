import BusFabric.Proofs.Bridge.InboundWords
import Mathlib.Data.List.Chain
import Mathlib.Data.List.Nodup

set_option autoImplicit false

namespace BusFabric.Bridge

open Split (AddressBeat)

namespace WordLanes

/-- The bytes that the word stands for, each with its split-bus lane. -/
def bytes (word : WordLanes) : List (Address × Nat) :=
  word.lanes.map fun pair => (word.address + BitVec.ofNat 64 pair.simple, pair.split)

end WordLanes

/-- The words give the bytes in their order, each word is one of the simple bus and serves some
byte, and no word stands beside another request for itself. -/
structure Groups (simpleBytes : Nat) (words : List WordLanes) (pairs : List (Address × Nat)) :
    Prop where
  joined : words.flatMap WordLanes.bytes = pairs
  inWord : ∀ word ∈ words, word.InWord simpleBytes
  nonempty : ∀ word ∈ words, word.lanes ≠ []
  parted : (words.map (·.address)).IsChain (· ≠ ·)

section

variable {simpleBytes : Nat}

theorem groups_groupByWord (cell : IsCell simpleBytes) (pairs : List (Address × Nat)) :
    Groups simpleBytes (groupByWord simpleBytes pairs) pairs := by
  induction pairs with
  | nil => exact ⟨rfl, nofun, nofun, .nil⟩
  | cons first rest ih =>
    obtain ⟨address, split⟩ := first
    have inWord := groupByWord_inWord cell ((address, split) :: rest)
    have place := Address.alignDown_add_offset address cell
    rw [groupByWord] at inWord ⊢
    cases grouped : groupByWord simpleBytes rest with
    | nil =>
      rw [grouped] at ih inWord
      have last : rest = [] := ih.joined.symm
      subst last
      refine ⟨?_, inWord, ?_, .singleton _⟩
      · simp [WordLanes.bytes, place]
      · simp
    | cons next others =>
      rw [grouped] at ih inWord
      dsimp only at inWord ⊢
      by_cases same : next.address = address.alignDown simpleBytes
      · -- The first byte joins the word of its neighbour, whose address stays.
        rw [if_pos same] at inWord ⊢
        refine ⟨?_, inWord, ?_, ih.parted⟩
        · rw [← ih.joined]
          simp [WordLanes.bytes, same, place]
        · have later := (List.forall_mem_cons.mp ih.nonempty).2
          exact List.forall_mem_cons.mpr ⟨List.cons_ne_nil _ _, later⟩
      · rw [if_neg same] at inWord ⊢
        refine ⟨?_, inWord, ?_, ?_⟩
        · rw [← ih.joined]
          simp [WordLanes.bytes, place]
        · exact List.forall_mem_cons.mpr ⟨List.cons_ne_nil _ _, ih.nonempty⟩
        · exact List.isChain_cons_cons.mpr ⟨fun meet => same meet.symm, ih.parted⟩

/-- The first word of a grouping gives the first byte. -/
theorem Groups.eq_cons {words : List WordLanes} {address : Address} {split : Nat}
    {rest : List (Address × Nat)} (groups : Groups simpleBytes words ((address, split) :: rest)) :
    ∃ word pair lanes others, words = ⟨word, pair :: lanes⟩ :: others ∧
      word + BitVec.ofNat 64 pair.simple = address ∧ pair.split = split ∧
      (lanes.map fun other => (word + BitVec.ofNat 64 other.simple, other.split)) ++
        others.flatMap WordLanes.bytes = rest := by
  have joined := groups.joined
  cases words with
  | nil => cases joined
  | cons first others =>
    obtain ⟨word, served⟩ := first
    cases served with
    | nil => exact absurd rfl (groups.nonempty _ List.mem_cons_self)
    | cons pair lanes =>
      rw [List.flatMap_cons, WordLanes.bytes, List.map_cons, List.cons_append] at joined
      obtain ⟨here, after⟩ := List.cons.inj joined
      obtain ⟨place, lane⟩ := Prod.mk.inj here
      exact ⟨word, pair, lanes, others, rfl, place, lane, after⟩

theorem Groups.unique (cell : IsCell simpleBytes) {words : List WordLanes}
    {pairs : List (Address × Nat)} (groups : Groups simpleBytes words pairs) :
    groupByWord simpleBytes pairs = words := by
  induction pairs generalizing words with
  | nil =>
    cases words with
    | nil => rfl
    | cons word others =>
      have served := groups.nonempty word List.mem_cons_self
      have none_ := List.append_eq_nil_iff.mp groups.joined
      exact absurd (List.map_eq_nil_iff.mp none_.1) served
  | cons first rest ih =>
    obtain ⟨address, split⟩ := first
    obtain ⟨word, pair, lanes, others, rfl, rfl, rfl, joined⟩ := groups.eq_cons
    obtain ⟨first, inWords⟩ := List.forall_mem_cons.mp groups.inWord
    obtain ⟨low, lows⟩ := List.forall_mem_cons.mp first.narrow
    have some_ := (List.forall_mem_cons.mp groups.nonempty).2
    have parted := groups.parted
    rw [groupByWord, Address.alignDown_add cell first.aligned low,
      Address.toNat_add_mod cell first.aligned low]
    cases lanes with
    | nil =>
      have alone : Groups simpleBytes others rest := ⟨joined, inWords, some_, parted.tail⟩
      rw [ih alone]
      cases others with
      | nil => rfl
      | cons next others =>
        have apart := (List.isChain_cons_cons.mp parted).1
        dsimp only
        rw [if_neg fun same => apart same.symm]
    | cons second lanes =>
      have shared : Groups simpleBytes (⟨word, second :: lanes⟩ :: others) rest := by
        refine ⟨joined, ?_, ?_, parted⟩
        · exact List.forall_mem_cons.mpr ⟨⟨first.aligned, lows⟩, inWords⟩
        · exact List.forall_mem_cons.mpr ⟨List.cons_ne_nil _ _, some_⟩
      rw [ih shared]
      dsimp only
      rw [if_pos rfl]

theorem groupByWord_eq_iff (cell : IsCell simpleBytes) {pairs : List (Address × Nat)}
    {words : List WordLanes} :
    groupByWord simpleBytes pairs = words ↔ Groups simpleBytes words pairs :=
  ⟨fun same => same ▸ groups_groupByWord cell pairs, fun groups => groups.unique cell⟩

def sideBySide (first : Address) (lane bytes : Nat) : List (Address × Nat) :=
  (List.range bytes).map fun index => (first + BitVec.ofNat 64 index, lane + index)

variable {bytes : Nat} {first : Address}

/-- A beat that is not longer than a word of the simple bus lies in one. -/
theorem groupByWord_narrow (cell : IsCell simpleBytes) (beat : IsCell bytes)
    (aligned : bytes ∣ first.toNat) (narrow : bytes ≤ simpleBytes) (lane : Nat) :
    groupByWord simpleBytes (sideBySide first lane bytes) =
      [⟨first.alignDown simpleBytes, (List.range bytes).map fun index =>
        ⟨first.toNat % simpleBytes + index, lane + index⟩⟩] := by
  have place := Address.alignDown_add_offset first cell
  have within : first.toNat % simpleBytes + bytes ≤ simpleBytes := by
    have divides := beat.dvd cell narrow
    exact add_le_of_dvd_of_lt ((Nat.dvd_mod_iff divides).mpr aligned) divides
      (Nat.mod_lt _ cell.positive)
  refine (groupByWord_eq_iff cell).mpr ⟨?_, ?_, ?_, .singleton _⟩
  · simp only [List.flatMap_cons, List.flatMap_nil, List.append_nil, WordLanes.bytes, List.map_map]
    apply List.map_congr_left
    intro index _
    simp only [Function.comp, BitVec.ofNat_add, ← BitVec.add_assoc, place]
  · intro word member
    rw [List.mem_singleton.mp member]
    refine ⟨Address.dvd_alignDown first cell, ?_⟩
    intro pair held
    obtain ⟨index, inside, rfl⟩ := List.mem_map.mp held
    have short := List.mem_range.mp inside
    show first.toNat % simpleBytes + index < simpleBytes
    omega
  · intro word member
    rw [List.mem_singleton.mp member]
    apply List.ne_nil_of_length_pos
    rw [List.length_map, List.length_range]
    exact beat.positive

def wholeWord (simpleBytes : Nat) (first : Address) (lane turn : Nat) : WordLanes where
  address := first + BitVec.ofNat 64 (turn * simpleBytes)
  lanes := (List.range simpleBytes).map fun index => ⟨index, lane + turn * simpleBytes + index⟩

theorem range_mul_eq_flatMap (count width : Nat) :
    List.range (count * width) = (List.range count).flatMap fun turn =>
      (List.range width).map fun index => turn * width + index := by
  induction count with
  | zero => simp
  | succ count ih =>
    rw [Nat.succ_mul, List.range_add, List.range_succ, List.flatMap_append, ← ih]
    simp

/-- Whole words in a row below the top of the address space are distinct. -/
theorem nodup_wholeWord (positive : 0 < simpleBytes) {count : Nat}
    (below : first.toNat + count * simpleBytes ≤ UInt64.size) (lane : Nat) :
    (((List.range count).map (wholeWord simpleBytes first lane)).map (·.address)).Nodup := by
  have place {turn : Nat} (inside : turn < count) :
      (wholeWord simpleBytes first lane turn).address.toNat = first.toNat + turn * simpleBytes := by
    have before : turn * simpleBytes < count * simpleBytes :=
      Nat.mul_lt_mul_of_pos_right inside positive
    exact Address.toNat_add_ofNat (by omega)
  rw [List.map_map]
  apply List.Nodup.map_on _ List.nodup_range
  intro one inside another within same
  have meet := congrArg BitVec.toNat same
  simp only [Function.comp] at meet
  rw [place (List.mem_range.mp inside), place (List.mem_range.mp within)] at meet
  exact Nat.eq_of_mul_eq_mul_right positive (Nat.add_left_cancel meet)

/-- A beat that is not shorter than a word of the simple bus takes whole words, one after the
other. -/
theorem groupByWord_wide (cell : IsCell simpleBytes) {count : Nat}
    (aligned : simpleBytes ∣ first.toNat)
    (below : first.toNat + count * simpleBytes ≤ UInt64.size) (lane : Nat) :
    groupByWord simpleBytes (sideBySide first lane (count * simpleBytes)) =
      (List.range count).map (wholeWord simpleBytes first lane) := by
  have distinct := nodup_wholeWord cell.positive below lane
  refine (groupByWord_eq_iff cell).mpr ⟨?_, ?_, ?_, distinct.isChain⟩
  · rw [sideBySide, range_mul_eq_flatMap, List.map_flatMap, List.flatMap_map]
    congr 1
    funext turn
    unfold WordLanes.bytes wholeWord
    rw [List.map_map, List.map_map]
    apply List.map_congr_left
    intro index _
    simp only [Function.comp, BitVec.ofNat_add, BitVec.add_assoc, Nat.add_assoc]
  · intro word member
    obtain ⟨turn, _, rfl⟩ := List.mem_map.mp member
    refine ⟨Address.dvd_add cell aligned (Address.dvd_ofNat cell (Nat.dvd_mul_left _ _)), ?_⟩
    intro pair held
    obtain ⟨index, inside, rfl⟩ := List.mem_map.mp held
    exact List.mem_range.mp inside
  · intro word member
    obtain ⟨turn, _, rfl⟩ := List.mem_map.mp member
    apply List.ne_nil_of_length_pos
    rw [wholeWord, List.length_map, List.length_range]
    exact cell.positive

/-- The bytes of a beat, from a beat boundary on, take as many words as the beat is longer than one,
and none of these twice. -/
theorem words_sideBySide (cell : IsCell simpleBytes) (beat : IsCell bytes)
    (aligned : bytes ∣ first.toNat) (lane : Nat) :
    ((groupByWord simpleBytes (sideBySide first lane bytes)).map (·.address)).Nodup ∧
      (groupByWord simpleBytes (sideBySide first lane bytes)).length =
        max 1 (bytes / simpleBytes) := by
  rcases Nat.lt_or_ge bytes simpleBytes with narrow | wide
  · rw [groupByWord_narrow cell beat aligned (Nat.le_of_lt narrow), Nat.div_eq_of_lt narrow]
    exact ⟨by simp, rfl⟩
  · obtain ⟨count, rfl⟩ := cell.dvd beat wide
    have some_ := Nat.pos_of_mul_pos_left beat.positive
    have below := add_le_of_dvd_of_lt aligned beat.dvd_space first.toNat_lt
    rw [Nat.mul_comm] at below ⊢
    have start := Nat.dvd_trans (Nat.dvd_mul_right simpleBytes count) aligned
    rw [groupByWord_wide cell start below, Nat.mul_div_cancel _ cell.positive]
    refine ⟨nodup_wholeWord cell.positive below lane, ?_⟩
    rw [List.length_map, List.length_range]
    omega

end

theorem Inbound.planBeat_eq_sideBySide (bridge : Inbound) (burst : AddressBeat) (beat : Nat) :
    bridge.planBeat burst beat =
      let start := (burst.beatAddress beat - bridge.origin).alignDown burst.beatBytes
      groupByWord bridge.conversion.simpleBytes (sideBySide (bridge.conversion.translate start)
        (start.toNat % bridge.conversion.splitBytes) burst.beatBytes) :=
  rfl

/-- For every width of the simple bus, the words are a grouping of the bytes, whatever these are,
and the only one. Where a bridge plans a beat of a burst that it takes, no word comes twice, and
there are as many words as the beat is longer than one. -/
theorem bytes_part_into_words :
    (∀ simpleBytes : Nat, simpleBytes.isPowerOfTwo → simpleBytes ≤ 16 →
      ∀ (pairs : List (Address × Nat)) (words : List WordLanes),
        groupByWord simpleBytes pairs = words ↔ Groups simpleBytes words pairs) ∧
    ∀ (source target : Protocol) (sourceWidth targetWidth : Nat) (bridge : Inbound),
      Conversion.between source sourceWidth target targetWidth = .ok bridge.conversion →
      ∀ burst : AddressBeat, bridge.violation? burst = none → ∀ beat < burst.beats,
        ((bridge.planBeat burst beat).map (·.address)).Nodup ∧
          (bridge.planBeat burst beat).length =
            max 1 (burst.beatBytes / bridge.conversion.simpleBytes) := by
  constructor
  · intro simpleBytes power narrow pairs words
    exact groupByWord_eq_iff
      (isCell_of_isPowerOfTwo power (Nat.lt_of_le_of_lt narrow (by decide)))
  · intro source target sourceWidth targetWidth bridge built burst legal beat _
    have regular := Conversion.isRegular_of_between built
    have cell := (beatBytes_cell regular (Inbound.size_of_violation? legal)).1
    rw [bridge.planBeat_eq_sideBySide]
    exact words_sideBySide regular.simpleBytes cell
      (Conversion.dvd_translate regular cell (Address.dvd_alignDown _ cell)) _

/-- Eight bytes from the middle of a word of four bytes on touch three words; the second beat of a
wrapping burst of a bridge from sixteen bytes to four takes four of them. -/
theorem three_words_and_four :
    let pairs : List (Address × Nat) :=
      (List.range 8).map fun index => (0x202 + BitVec.ofNat 64 index, index)
    let words : List WordLanes :=
      [⟨0x200, [⟨2, 0⟩, ⟨3, 1⟩]⟩, ⟨0x204, [⟨0, 2⟩, ⟨1, 3⟩, ⟨2, 4⟩, ⟨3, 5⟩]⟩,
        ⟨0x208, [⟨0, 6⟩, ⟨1, 7⟩]⟩]
    let bridge : Inbound :=
      { port := ⟨1⟩, conversion := ⟨.wideSplit, 128, .simpleSync, 32⟩, origin := 0x1000 }
    let burst : AddressBeat := ⟨7, 0x1023, 3, 4, .wrap⟩
    (Nat.isPowerOfTwo 4 ∧ 4 ≤ 16 ∧ Groups 4 words pairs) ∧
      Conversion.between .wideSplit 128 .simpleSync 32 = .ok bridge.conversion ∧
      bridge.violation? burst = none ∧ 1 < burst.beats ∧
      (bridge.planBeat burst 1).map (·.address) = [0xc0, 0xc4, 0xc8, 0xcc] ∧
      ((bridge.planBeat burst 1).map (·.address)).Nodup ∧
        (bridge.planBeat burst 1).length =
          max 1 (burst.beatBytes / bridge.conversion.simpleBytes) := by
  intro pairs words bridge burst
  have power : Nat.isPowerOfTwo 4 := ⟨2, rfl⟩
  have grouped : groupByWord 4 pairs = words := by decide
  have built : Conversion.between .wideSplit 128 .simpleSync 32 = .ok bridge.conversion := rfl
  have legal : bridge.violation? burst = none := by decide
  obtain ⟨parts, plans⟩ := bytes_part_into_words
  exact ⟨⟨power, by decide, (parts 4 power (by decide) pairs words).mp grouped⟩, built, legal,
    by decide, by decide, plans _ _ _ _ bridge built burst legal 1 (by decide)⟩

end BusFabric.Bridge
