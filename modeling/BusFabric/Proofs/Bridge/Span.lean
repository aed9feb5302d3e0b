import BusFabric.Bridge.Inbound
import BusFabric.Proofs.Bridge.Translation
import BusFabric.Proofs.Split.Beats
import BusFabric.Proofs.Word.Lanes

set_option autoImplicit false

namespace BusFabric.Bridge

open Simple (Request Response)
open Split (AddressBeat WriteBeat)

/-- The bytes of a data beat. -/
structure Span where
  /-- The first byte for the master, counted from the origin. -/
  start : Address
  /-- The first byte on the simple bus. -/
  target : Address
  bytes : Nat
  splitBytes : Nat
  simpleBytes : Nat

namespace Span

/-- The bytes of beat `beat` of a burst: its address counted from the origin, brought to a beat
boundary, and translated. -/
def of (conversion : Conversion) (origin : Address) (burst : AddressBeat) (beat : Nat) : Span :=
  let start := (burst.beatAddress beat - origin).alignDown burst.beatBytes
  { start
    target := conversion.translate start
    bytes := burst.beatBytes
    splitBytes := conversion.splitBytes
    simpleBytes := conversion.simpleBytes }

/-- The simple-bus address of byte `index`. -/
def address (span : Span) (index : Nat) : Address :=
  span.target + BitVec.ofNat 64 index

def word (span : Span) (index : Nat) : Address :=
  (span.address index).alignDown span.simpleBytes

def simpleLane (span : Span) (index : Nat) : Nat :=
  (span.address index).toNat % span.simpleBytes

def splitLane (span : Span) (index : Nat) : Nat :=
  (span.start.toNat + index) % span.splitBytes

/-- The distinct simple-bus words of the beat, in the order of its bytes. -/
def words (span : Span) : List Address :=
  ((List.range span.bytes).map span.word).eraseDups

theorem mem_words {span : Span} {word : Address} :
    word ∈ span.words ↔ ∃ index < span.bytes, span.word index = word := by
  unfold words
  simp only [List.mem_eraseDups, List.mem_map, List.mem_range]

theorem word_mem {span : Span} {index : Nat} (inside : index < span.bytes) :
    span.word index ∈ span.words :=
  mem_words.mpr ⟨index, inside, rfl⟩

def byteAt? (span : Span) (word : Address) (lane : Nat) : Option Nat :=
  (List.range span.bytes).find? fun index => span.word index = word ∧ span.simpleLane index = lane

def byteOn? (span : Span) (lane : Nat) : Option Nat :=
  (List.range span.bytes).find? fun index => span.splitLane index = lane

/-- The read of one word: the lanes that the beat covers. -/
def readRequest (span : Span) (word : Address) : Request :=
  .read word (Strobe.ofLanes fun lane => (span.byteAt? word lane).isSome)

/-- The write of one word: the bytes of the beat that its strobe enables. -/
def writeRequest (span : Span) (beat : WriteBeat) (word : Address) : Request where
  address := word
  data := Data.ofLanes fun lane =>
    match span.byteAt? word lane with
    | some index =>
      if beat.strobe.selects (span.splitLane index) then beat.data.lane (span.splitLane index)
      else 0
    | none => 0
  select := Strobe.ofLanes fun lane =>
    match span.byteAt? word lane with
    | some index => beat.strobe.selects (span.splitLane index)
    | none => false
  write := true

/-- The read data of the beat: each byte from the answer to its word, every other lane zero. -/
def readData (span : Span) (answers : List Response) : Data :=
  Data.ofLanes fun lane =>
    match span.byteOn? lane with
    | some index =>
      match (span.words.zip answers).lookup (span.word index) with
      | some answer => answer.data.lane (span.simpleLane index)
      | none => 0
    | none => 0

def plan (span : Span) : List WordLanes :=
  groupByWord span.simpleBytes ((List.range span.bytes).map fun index =>
    (span.target + BitVec.ofNat 64 index, span.start.toNat % span.splitBytes + index))

/-- The beat lies inside one word of the split bus, and its place on the simple bus does not run
over the top of the address space. -/
structure Fits (span : Span) : Prop where
  simple : IsCell span.simpleBytes
  simple_le : span.simpleBytes ≤ 16
  split_le : span.splitBytes ≤ 16
  nonempty : 0 < span.bytes
  inside : span.start.toNat % span.splitBytes + span.bytes ≤ span.splitBytes
  below : span.target.toNat + span.bytes ≤ UInt64.size

end Span

section

variable {simpleBytes : Nat}

def lanesIn (simpleBytes : Nat) (pairs : List (Address × Nat)) (word : Address) : WordLanes where
  address := word
  lanes := (pairs.filter fun pair => pair.1.alignDown simpleBytes = word).map fun pair =>
    ⟨pair.1.toNat % simpleBytes, pair.2⟩

@[simp] theorem lanesIn_address (pairs : List (Address × Nat)) (word : Address) :
    (lanesIn simpleBytes pairs word).address = word := rfl

theorem lanesIn_cons_same (address : Address) (split : Nat) (rest : List (Address × Nat)) :
    lanesIn simpleBytes ((address, split) :: rest) (address.alignDown simpleBytes) =
      ⟨address.alignDown simpleBytes, ⟨address.toNat % simpleBytes, split⟩ ::
        (lanesIn simpleBytes rest (address.alignDown simpleBytes)).lanes⟩ := by
  simp [lanesIn]

theorem lanesIn_cons_other {address word : Address} (split : Nat) (rest : List (Address × Nat))
    (other : address.alignDown simpleBytes ≠ word) :
    lanesIn simpleBytes ((address, split) :: rest) word = lanesIn simpleBytes rest word := by
  simp [lanesIn, other]

/-- Neighbours with one word are grouped; where words only go up, those are all that share it. -/
theorem groupByWord_eq (cell : IsCell simpleBytes) (pairs : List (Address × Nat))
    (sorted : pairs.Pairwise fun first second => first.1.toNat ≤ second.1.toNat) :
    groupByWord simpleBytes pairs =
      (pairs.map fun pair => pair.1.alignDown simpleBytes).eraseDups.map
        (lanesIn simpleBytes pairs) := by
  induction pairs with
  | nil => rfl
  | cons first rest ih =>
    obtain ⟨address, split⟩ := first
    obtain ⟨least, ordered⟩ := List.pairwise_cons.mp sorted
    have grouped := ih ordered
    cases rest with
    | nil => simp [groupByWord, lanesIn, List.eraseDups_cons]
    | cons second rest =>
      rw [List.map_cons, List.eraseDups_cons, List.map_cons] at grouped
      rw [groupByWord, grouped, List.map_cons, List.eraseDups_cons, List.map_cons,
        lanesIn_cons_same address split (second :: rest)]
      by_cases same : second.1.alignDown simpleBytes = address.alignDown simpleBytes
      · -- the head joins the group of its neighbour
        rw [List.map_cons, same, List.filter_cons_of_neg (by simp)]
        simp only [lanesIn_address, if_true]
        congr 1
        apply List.map_congr_left
        intro word mem
        have kept := List.mem_filter.mp (List.mem_eraseDups.mp mem)
        have other : address.alignDown simpleBytes ≠ word := by
          intro equal
          simp [equal] at kept
        rw [lanesIn_cons_other split _ other]
      · -- the head's word does not come back: the words after it are higher
        have above : ∀ pair ∈ second :: rest,
            address.alignDown simpleBytes ≠ pair.1.alignDown simpleBytes := by
          intro pair mem equal
          have low := Address.alignDown_mono cell (least second List.mem_cons_self)
          have high : (second.1.alignDown simpleBytes).toNat ≤
              (pair.1.alignDown simpleBytes).toNat := by
            rcases List.mem_cons.mp mem with rfl | later
            · exact Nat.le_refl _
            · exact Address.alignDown_mono cell
                ((List.pairwise_cons.mp ordered).1 pair later)
          rw [← equal] at high
          exact same (BitVec.eq_of_toNat_eq (Nat.le_antisymm high low))
        have untouched : ((second :: rest).map fun pair => pair.1.alignDown simpleBytes).filter
            (fun word => !word == address.alignDown simpleBytes) =
            (second :: rest).map fun pair => pair.1.alignDown simpleBytes := by
          apply List.filter_eq_self.mpr
          intro word mem
          obtain ⟨pair, held, rfl⟩ := List.mem_map.mp mem
          simpa using fun equal => above pair held equal.symm
        have alone : (lanesIn simpleBytes (second :: rest)
            (address.alignDown simpleBytes)).lanes = [] := by
          unfold lanesIn
          rw [List.map_eq_nil_iff, List.filter_eq_nil_iff]
          intro pair mem
          simpa using fun equal => above pair mem equal.symm
        rw [untouched, alone]
        simp only [lanesIn_address, same, if_false]
        rw [List.map_cons, List.eraseDups_cons, ← List.map_cons, List.map_cons]
        congr 1
        rw [← List.map_cons]
        apply List.map_congr_left
        intro word mem
        have listed : word ∈ (second :: rest).map fun pair => pair.1.alignDown simpleBytes := by
          rw [List.map_cons, ← List.mem_eraseDups, List.eraseDups_cons]
          exact mem
        obtain ⟨pair, held, rfl⟩ := List.mem_map.mp listed
        rw [lanesIn_cons_other split _ (above pair held)]

end

/-- A key whose entries are distinct is looked up where it stands. -/
theorem lookup_zip_of_mem {α β : Type} [BEq α] [LawfulBEq α] {keys : List α} {values : List β}
    (distinct : keys.Nodup) {key : α} {value : β} (mem : (key, value) ∈ keys.zip values) :
    (keys.zip values).lookup key = some value := by
  induction keys generalizing values with
  | nil => simp at mem
  | cons first rest ih =>
    cases values with
    | nil => simp at mem
    | cons head tail =>
      obtain ⟨fresh, apart⟩ := List.nodup_cons.mp distinct
      rw [List.zip_cons_cons] at mem ⊢
      rcases List.mem_cons.mp mem with here | later
      · cases here
        exact List.lookup_cons_self
      · have other : key ≠ first := by
          intro same
          subst same
          exact fresh (List.of_mem_zip later).1
        rw [List.lookup_cons, beq_false_of_ne other]
        exact ih apart later

theorem nodup_eraseDups {α : Type} [BEq α] [LawfulBEq α] (items : List α) :
    items.eraseDups.Nodup := by
  induction length : items.length using Nat.strongRecOn generalizing items with
  | ind size ih =>
    cases items with
    | nil => simp
    | cons first rest =>
      rw [List.eraseDups_cons, List.nodup_cons]
      constructor
      · intro mem
        have kept := List.mem_filter.mp (List.mem_eraseDups.mp mem)
        simp at kept
      · have shorter := List.length_filter_le (fun item => !item == first) rest
        simp only [List.length_cons] at length
        exact ih _ (by omega) _ rfl

def gathered (accesses : List Access) (answers : List Response) : Data :=
  (accesses.zip answers).foldl (fun data pair => pair.1.gather pair.2.data data) 0

theorem gathered_append (accesses : List Access) (answers : List Response) (access : Access)
    (answer : Response) (same : accesses.length = answers.length) :
    gathered (accesses ++ [access]) (answers ++ [answer]) =
      access.gather answer.data (gathered accesses answers) := by
  unfold gathered
  rw [List.zip_append same, List.foldl_append]
  rfl

namespace Span

variable {span : Span}

/-- The bytes of the beat with their split-bus lanes, as the bridge lists them. -/
def pairs (span : Span) : List (Address × Nat) :=
  (List.range span.bytes).map fun index =>
    (span.target + BitVec.ofNat 64 index, span.start.toNat % span.splitBytes + index)

def lanesOf (span : Span) (word : Address) : WordLanes :=
  lanesIn span.simpleBytes span.pairs word

theorem Fits.toNat_address (fits : span.Fits) {index : Nat} (inside : index < span.bytes) :
    (span.address index).toNat = span.target.toNat + index := by
  have below := fits.below
  exact Address.toNat_add_ofNat (by omega)

theorem Fits.splitLane_eq (fits : span.Fits) {index : Nat} (inside : index < span.bytes) :
    span.splitLane index = span.start.toNat % span.splitBytes + index := by
  have room := fits.inside
  have small : index < span.splitBytes := by omega
  unfold splitLane
  rw [Nat.add_mod, Nat.mod_eq_of_lt small, Nat.mod_eq_of_lt (by omega)]

theorem Fits.splitLane_lt (fits : span.Fits) {index : Nat} (inside : index < span.bytes) :
    span.splitLane index < 16 := by
  have room := fits.inside
  have width := fits.split_le
  rw [fits.splitLane_eq inside]
  omega

theorem Fits.simpleLane_lt (fits : span.Fits) (index : Nat) : span.simpleLane index < 16 :=
  Nat.lt_of_lt_of_le (Nat.mod_lt _ fits.simple.positive) fits.simple_le

theorem Fits.splitLane_inj (fits : span.Fits) {first second : Nat} (one : first < span.bytes)
    (two : second < span.bytes) (same : span.splitLane first = span.splitLane second) :
    first = second := by
  rw [fits.splitLane_eq one, fits.splitLane_eq two] at same
  omega

/-- A place on the simple bus holds one byte of the beat. -/
theorem Fits.place_inj (fits : span.Fits) {first second : Nat} (one : first < span.bytes)
    (two : second < span.bytes) (word : span.word first = span.word second)
    (lane : span.simpleLane first = span.simpleLane second) : first = second := by
  have same := congrArg BitVec.toNat word
  have here := Address.alignDown_add_mod (span.address first) fits.simple
  have there := Address.alignDown_add_mod (span.address second) fits.simple
  unfold Span.word at same
  unfold simpleLane at lane
  rw [fits.toNat_address one] at here lane
  rw [fits.toNat_address two] at there lane
  omega

theorem Fits.plan_eq (fits : span.Fits) : span.plan = span.words.map span.lanesOf := by
  have sorted : span.pairs.Pairwise fun first second => first.1.toNat ≤ second.1.toNat := by
    unfold pairs
    rw [List.pairwise_map]
    apply List.Pairwise.imp_of_mem _ List.pairwise_lt_range
    intro first second one two less
    have here := fits.toNat_address (List.mem_range.mp one)
    have there := fits.toNat_address (List.mem_range.mp two)
    unfold Span.address at here there
    dsimp only
    omega
  have same : span.pairs.map (fun pair => pair.1.alignDown span.simpleBytes) =
      (List.range span.bytes).map span.word := by
    unfold pairs
    rw [List.map_map]
    rfl
  have grouped := groupByWord_eq fits.simple span.pairs sorted
  rw [same] at grouped
  exact grouped

/-- The lanes that the bridge uses of a word are those of the bytes that lie in it. -/
theorem Fits.mem_lanes (fits : span.Fits) {word : Address} {pair : LanePair} :
    pair ∈ (span.lanesOf word).lanes ↔
      ∃ index, index < span.bytes ∧ span.word index = word ∧
        pair = ⟨span.simpleLane index, span.splitLane index⟩ := by
  unfold lanesOf lanesIn pairs
  simp only [List.mem_map, List.mem_filter, List.mem_range, decide_eq_true_eq]
  constructor
  · rintro ⟨_, ⟨⟨index, inside, rfl⟩, same⟩, rfl⟩
    refine ⟨index, inside, same, ?_⟩
    rw [fits.splitLane_eq inside]
    rfl
  · rintro ⟨index, inside, same, rfl⟩
    refine ⟨_, ⟨⟨index, inside, rfl⟩, same⟩, ?_⟩
    rw [fits.splitLane_eq inside]
    rfl

theorem byteAt?_eq_none {word : Address} {lane : Nat} (absent : span.byteAt? word lane = none)
    {index : Nat} (inside : index < span.bytes) :
    ¬ (span.word index = word ∧ span.simpleLane index = lane) := by
  have missed := List.find?_eq_none.mp absent index (List.mem_range.mpr inside)
  simpa using missed

theorem byteAt?_eq_some {word : Address} {lane index : Nat}
    (found : span.byteAt? word lane = some index) :
    index < span.bytes ∧ span.word index = word ∧ span.simpleLane index = lane := by
  have mem := List.mem_range.mp (List.mem_of_find?_eq_some found)
  have place := List.find?_some found
  simp only [decide_eq_true_eq] at place
  exact ⟨mem, place⟩

theorem byteOn?_eq_none {lane : Nat} (absent : span.byteOn? lane = none) {index : Nat}
    (inside : index < span.bytes) : span.splitLane index ≠ lane := by
  have missed := List.find?_eq_none.mp absent index (List.mem_range.mpr inside)
  simpa using missed

theorem byteOn?_eq_some {lane index : Nat} (found : span.byteOn? lane = some index) :
    index < span.bytes ∧ span.splitLane index = lane := by
  have mem := List.mem_range.mp (List.mem_of_find?_eq_some found)
  have place := List.find?_some found
  simp only [decide_eq_true_eq] at place
  exact ⟨mem, place⟩

/-- The bridge writes what the bytes of the beat say. -/
theorem Fits.write_request (fits : span.Fits) (beat : WriteBeat) (word : Address) :
    ((span.lanesOf word).write beat).request = span.writeRequest beat word := by
  have enabled : ∀ pair, pair ∈ (span.lanesOf word).lanes.filter
      (fun pair => beat.strobe.selects pair.split) ↔
        ∃ index, index < span.bytes ∧ span.word index = word ∧
          beat.strobe.selects (span.splitLane index) = true ∧
          pair = ⟨span.simpleLane index, span.splitLane index⟩ := by
    intro pair
    rw [List.mem_filter, fits.mem_lanes]
    constructor
    · rintro ⟨⟨index, inside, same, rfl⟩, on⟩
      exact ⟨index, inside, same, on, rfl⟩
    · rintro ⟨index, inside, same, on, rfl⟩
      exact ⟨⟨index, inside, same, rfl⟩, on⟩
  have data : ((span.lanesOf word).write beat).request.data =
      (span.writeRequest beat word).data := by
    apply Data.ext_lanes
    intro lane low
    unfold WordLanes.write writeRequest
    dsimp only
    rw [Data.lane_ofLanes _ low]
    cases found : span.byteAt? word lane with
    | none =>
      rw [Data.lane_foldl_setLane_of_not_mem]
      · exact Data.lane_zero lane
      · intro pair mem
        obtain ⟨index, inside, same, _, rfl⟩ := (enabled pair).mp mem
        exact fun equal => byteAt?_eq_none found inside ⟨same, equal⟩
    | some index =>
      obtain ⟨inside, same, rfl⟩ := byteAt?_eq_some found
      have unique : ∀ pair ∈ (span.lanesOf word).lanes.filter
          (fun pair => beat.strobe.selects pair.split), pair.simple = span.simpleLane index →
            pair = ⟨span.simpleLane index, span.splitLane index⟩ ∧
              beat.strobe.selects (span.splitLane index) = true := by
        intro pair mem equal
        obtain ⟨other, within, here, on, rfl⟩ := (enabled pair).mp mem
        obtain rfl := fits.place_inj within inside (here.trans same.symm) equal
        exact ⟨rfl, on⟩
      dsimp only
      split
      · rename_i on
        apply Data.lane_foldl_setLane_of_mem _ _ _ _ low
        · intro pair mem equal
          rw [(unique pair mem equal).1]
        · exact ⟨_, (enabled _).mpr ⟨index, inside, same, on, rfl⟩, rfl⟩
      · rename_i off
        rw [Data.lane_foldl_setLane_of_not_mem]
        · exact Data.lane_zero _
        · exact fun pair mem equal => off (unique pair mem equal).2
  have select : ((span.lanesOf word).write beat).request.select =
      (span.writeRequest beat word).select := by
    apply Strobe.ext_lanes
    intro lane low
    unfold WordLanes.write writeRequest
    dsimp only
    rw [Strobe.selects_ofLanes _ low, Strobe.selects_foldl_select _ _ _ low,
      Strobe.selects_zero, Bool.false_or, Bool.eq_iff_iff, List.any_eq_true]
    cases found : span.byteAt? word lane with
    | none =>
      simp only [Bool.false_eq_true, iff_false]
      rintro ⟨pair, mem, equal⟩
      obtain ⟨index, inside, same, _, rfl⟩ := (enabled pair).mp mem
      exact byteAt?_eq_none found inside ⟨same, of_decide_eq_true equal⟩
    | some index =>
      obtain ⟨inside, same, rfl⟩ := byteAt?_eq_some found
      constructor
      · rintro ⟨pair, mem, equal⟩
        obtain ⟨other, within, here, on, rfl⟩ := (enabled pair).mp mem
        obtain rfl := fits.place_inj within inside (here.trans same.symm) (of_decide_eq_true equal)
        exact on
      · intro on
        exact ⟨_, (enabled _).mpr ⟨index, inside, same, on, rfl⟩, decide_eq_true rfl⟩
  unfold WordLanes.write writeRequest at *
  dsimp only at data select ⊢
  rw [data, select]
  rfl

/-- The bridge reads the lanes that the bytes of the beat lie in. -/
theorem Fits.read_request (fits : span.Fits) (word : Address) :
    (span.lanesOf word).read.request = span.readRequest word := by
  have select : (span.lanesOf word).read.request.select = (span.readRequest word).select := by
    apply Strobe.ext_lanes
    intro lane low
    unfold WordLanes.read readRequest Request.read
    dsimp only
    rw [Strobe.selects_ofLanes _ low, Strobe.selects_foldl_select _ _ _ low,
      Strobe.selects_zero, Bool.false_or, Bool.eq_iff_iff, List.any_eq_true,
      Option.isSome_iff_exists]
    constructor
    · rintro ⟨pair, mem, equal⟩
      obtain ⟨index, inside, same, rfl⟩ := fits.mem_lanes.mp mem
      cases found : span.byteAt? word lane with
      | none => exact absurd ⟨same, of_decide_eq_true equal⟩ (byteAt?_eq_none found inside)
      | some index => exact ⟨index, rfl⟩
    · rintro ⟨index, found⟩
      obtain ⟨inside, same, equal⟩ := byteAt?_eq_some found
      exact ⟨_, fits.mem_lanes.mpr ⟨index, inside, same, rfl⟩, decide_eq_true equal⟩
  unfold WordLanes.read readRequest Request.read at *
  dsimp only at select ⊢
  rw [select]
  rfl

/-- The bridge assembles the read data byte by byte from the answers. -/
theorem Fits.gathered_eq (fits : span.Fits) {answers : List Response}
    (whole : answers.length = span.words.length) :
    gathered (span.words.map fun word => (span.lanesOf word).read) answers =
      span.readData answers := by
  -- one list of lane writes, in the order of the answers
  have flat : gathered (span.words.map fun word => (span.lanesOf word).read) answers =
      ((span.words.zip answers).flatMap fun entry =>
        (span.lanesOf entry.1).lanes.map fun pair => (pair, entry.2)).foldl
          (fun data item => data.setLane item.1.split (item.2.data.lane item.1.simple)) 0 := by
    unfold gathered
    rw [List.foldl_flatMap, List.zip_map_left, List.foldl_map]
    congr 1
    funext data entry
    rw [List.foldl_map]
    rfl
  have items : ∀ item, item ∈ ((span.words.zip answers).flatMap fun entry =>
      (span.lanesOf entry.1).lanes.map fun pair => (pair, entry.2)) ↔
        ∃ index answer, index < span.bytes ∧ (span.word index, answer) ∈ span.words.zip answers ∧
          item = (⟨span.simpleLane index, span.splitLane index⟩, answer) := by
    intro item
    simp only [List.mem_flatMap, List.mem_map, fits.mem_lanes]
    constructor
    · rintro ⟨⟨word, answer⟩, mem, _, ⟨index, inside, same, rfl⟩, rfl⟩
      dsimp only at same
      exact ⟨index, answer, inside, same ▸ mem, rfl⟩
    · rintro ⟨index, answer, inside, mem, rfl⟩
      exact ⟨_, mem, _, ⟨index, inside, rfl, rfl⟩, rfl⟩
  rw [flat]
  apply Data.ext_lanes
  intro lane low
  unfold readData
  rw [Data.lane_ofLanes _ low]
  cases found : span.byteOn? lane with
  | none =>
    rw [Data.lane_foldl_setLane_of_not_mem]
    · exact Data.lane_zero lane
    · intro item mem
      obtain ⟨index, answer, inside, _, rfl⟩ := (items item).mp mem
      exact byteOn?_eq_none found inside
  | some index =>
    obtain ⟨inside, rfl⟩ := byteOn?_eq_some found
    obtain ⟨place, bound, here⟩ := List.mem_iff_getElem.mp (span.word_mem inside)
    have reached : place < answers.length := by omega
    have answered : (span.word index, answers[place]) ∈ span.words.zip answers := by
      rw [List.mem_iff_getElem]
      exact ⟨place, by rw [List.length_zip]; omega, by rw [List.getElem_zip, here]⟩
    have looked := lookup_zip_of_mem (nodup_eraseDups _) answered
    dsimp only
    rw [show (span.words.zip answers).lookup (span.word index) = _ from looked]
    apply Data.lane_foldl_setLane_of_mem _ _ _ _ low
    · intro item mem equal
      obtain ⟨other, answer, within, entry, rfl⟩ := (items item).mp mem
      obtain rfl := fits.splitLane_inj within inside equal
      have again := lookup_zip_of_mem (nodup_eraseDups _) entry
      have same : some answer = some _ := again.symm.trans looked
      rw [Option.some.inj same]
    · exact ⟨_, (items _).mpr ⟨index, _, inside, answered, rfl⟩, rfl⟩

theorem Fits.words_ne_nil (fits : span.Fits) : span.words ≠ [] :=
  List.ne_nil_of_mem (span.word_mem fits.nonempty)

end Span

section

variable {conversion : Conversion} {burst : AddressBeat}

theorem beatBytes_cell (regular : conversion.IsRegular)
    (size : burst.size.toNat ≤ conversion.splitBytes.log2) :
    IsCell burst.beatBytes ∧ burst.beatBytes ≤ conversion.splitBytes := by
  obtain ⟨power, small⟩ := regular.splitWidth.log2_eq
  have exponent : burst.size.toNat ≤ 4 := Nat.le_trans size small
  rw [AddressBeat.beatBytes_eq exponent]
  refine ⟨⟨burst.size.toNat, by omega, rfl⟩, ?_⟩
  have whole : conversion.splitBytes = 1 <<< conversion.splitBytes.log2 := power
  rw [whole, Nat.one_shiftLeft, Nat.one_shiftLeft]
  exact Nat.pow_le_pow_right (by decide) size

/-- A beat no wider than the split bus lies inside one of its words. -/
theorem Span.of_fits (regular : conversion.IsRegular)
    (inward : conversion.direction = .splitToSimple) (origin : Address)
    (size : burst.size.toNat ≤ conversion.splitBytes.log2) (beat : Nat) :
    (Span.of conversion origin burst beat).Fits := by
  obtain ⟨cell, narrow⟩ := beatBytes_cell regular size
  have source := Conversion.sourceBytes_inward inward
  have room : ((burst.beatAddress beat - origin).alignDown burst.beatBytes).toNat %
      conversion.splitBytes + burst.beatBytes ≤ conversion.splitBytes := by
    have wider := cell.dvd regular.splitBytes narrow
    have start := (Nat.dvd_mod_iff wider).mpr
      (Address.dvd_alignDown (burst.beatAddress beat - origin) cell)
    exact add_le_of_dvd_of_lt start wider (Nat.mod_lt _ regular.splitBytes.positive)
  refine ⟨regular.simpleBytes, regular.simpleBytes_le, regular.splitBytes_le, cell.positive,
    room, ?_⟩
  have positive := cell.positive
  have last : ((burst.beatAddress beat - origin).alignDown burst.beatBytes).toNat %
      conversion.sourceBytes + (burst.beatBytes - 1) < conversion.sourceBytes := by
    rw [source]
    omega
  have below := (Conversion.translate_add regular last).1
  show (conversion.translate _).toNat + burst.beatBytes ≤ UInt64.size
  omega

end

theorem Inbound.planBeat_eq {conversion : Conversion} {origin : Address} {bridge : Inbound}
    {burst : AddressBeat} {beat : Nat} (sameConversion : bridge.conversion = conversion)
    (sameOrigin : bridge.origin = origin)
    (fits : (Span.of conversion origin burst beat).Fits) :
    bridge.planBeat burst beat =
      (Span.of conversion origin burst beat).words.map
        (Span.of conversion origin burst beat).lanesOf := by
  subst sameConversion sameOrigin
  exact fits.plan_eq

end BusFabric.Bridge
