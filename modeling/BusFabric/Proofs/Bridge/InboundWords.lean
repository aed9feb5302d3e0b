import BusFabric.Proofs.Bridge.InboundBursts

set_option autoImplicit false

namespace BusFabric

/-- The request is for a word of `bytes` bytes: it starts one and selects lanes of it only. -/
structure Simple.Request.InWord (request : Simple.Request) (bytes : Nat) : Prop where
  aligned : bytes ∣ request.address.toNat
  narrow : ∀ lane, request.select.selects lane = true → lane < bytes

theorem Strobe.lt_of_selects {strobe : Strobe} {lane : Nat} (selected : strobe.selects lane = true) :
    lane < 16 := by
  apply Decidable.byContradiction
  intro past
  rw [Strobe.selects, BitVec.getLsbD_of_ge strobe lane (by omega)] at selected
  cases selected

namespace Bridge

open Simple (Request Response)

variable {simpleBytes : Nat}

structure WordLanes.InWord (word : WordLanes) (simpleBytes : Nat) : Prop where
  aligned : simpleBytes ∣ word.address.toNat
  narrow : ∀ pair ∈ word.lanes, pair.simple < simpleBytes

theorem groupByWord_inWord (cell : IsCell simpleBytes) (pairs : List (Address × Nat)) :
    ∀ word ∈ groupByWord simpleBytes pairs, word.InWord simpleBytes := by
  induction pairs with
  | nil => nofun
  | cons first rest ih =>
    obtain ⟨address, split⟩ := first
    have aligned := Address.dvd_alignDown address cell
    have low : address.toNat % simpleBytes < simpleBytes := Nat.mod_lt _ cell.positive
    have alone : WordLanes.InWord
        ⟨address.alignDown simpleBytes, [⟨address.toNat % simpleBytes, split⟩]⟩ simpleBytes := by
      refine ⟨aligned, ?_⟩
      intro pair member
      rw [List.mem_singleton.mp member]
      exact low
    intro word member
    rw [groupByWord] at member
    cases grouped : groupByWord simpleBytes rest with
    | nil =>
      rw [grouped] at member
      rw [List.mem_singleton.mp member]
      exact alone
    | cons next others =>
      rw [grouped] at ih member
      dsimp only at member
      split at member
      · -- The first byte joins the word of its neighbour.
        rcases List.mem_cons.mp member with rfl | later
        · have joined := ih next (List.mem_cons_self ..)
          refine ⟨joined.aligned, ?_⟩
          intro pair listed
          rcases List.mem_cons.mp listed with rfl | held
          · exact low
          · exact joined.narrow pair held
        · exact ih word (List.mem_cons_of_mem _ later)
      · rcases List.mem_cons.mp member with rfl | later
        · exact alone
        · exact ih word later

namespace WordLanes

variable {word : WordLanes}

theorem InWord.select (inWord : word.InWord simpleBytes) {pairs : List LanePair}
    (among : ∀ pair ∈ pairs, pair ∈ word.lanes) {lane : Nat}
    (selected : Strobe.selects
      (pairs.foldl (fun select pair => select.select pair.simple) 0) lane = true) :
    lane < simpleBytes := by
  rw [Strobe.selects_foldl_select pairs (·.simple) 0 (Strobe.lt_of_selects selected),
    Strobe.selects_zero, Bool.false_or, List.any_eq_true] at selected
  obtain ⟨pair, member, here⟩ := selected
  rw [← of_decide_eq_true here]
  exact inWord.narrow pair (among pair member)

theorem InWord.read (inWord : word.InWord simpleBytes) : word.read.request.InWord simpleBytes :=
  ⟨inWord.aligned, fun _ => inWord.select fun _ member => member⟩

theorem InWord.write (inWord : word.InWord simpleBytes) (beat : Split.WriteBeat) :
    (word.write beat).request.InWord simpleBytes :=
  ⟨inWord.aligned, fun _ => inWord.select fun _ member => (List.mem_filter.mp member).1⟩

end WordLanes

namespace Inbound

theorem planBeat_inWord {bridge : Inbound} (cell : IsCell bridge.conversion.simpleBytes)
    (burst : Split.AddressBeat) (beat : Nat) :
    ∀ word ∈ bridge.planBeat burst beat, word.InWord bridge.conversion.simpleBytes :=
  groupByWord_inWord cell _

/-- The accesses that are left of the present beat; none without a burst. -/
def left (bridge : Inbound) : List Access :=
  bridge.active.elim [] (·.pending)

theorem left_finishBeat (bridge : Inbound) (transfer : Transfer) :
    (bridge.finishBeat transfer).left ⊆ transfer.pending := by
  unfold finishBeat left
  dsimp only
  split <;> split <;> simp

theorem left_absorb (bridge : Inbound) (response : Response) :
    (bridge.absorb response).left ⊆ bridge.left := by
  unfold absorb
  split
  · rename_i access transfer _ active
    have here : bridge.left = transfer.pending := by rw [left, active, Option.elim_some]
    rw [here]
    dsimp only
    split
    · exact left_finishBeat _ _
    · exact List.Subset.refl _
  · exact List.Subset.refl _

theorem left_begun (bridge : Inbound) (burst : Split.AddressBeat) (write preferRead : Bool) :
    (bridge.begun burst write preferRead).left = [] := by
  unfold begun
  split <;> rfl

theorem begun_conversion (bridge : Inbound) (burst : Split.AddressBeat) (write preferRead : Bool) :
    (bridge.begun burst write preferRead).conversion = bridge.conversion := by
  unfold begun
  split <;> rfl

namespace Junction

/-- All that the bridge is going to ask for, and what it asks for, is in single words. -/
structure InWords (junction : Junction) (conversion : Conversion) : Prop where
  same : junction.bridge.conversion = conversion
  left : ∀ access ∈ junction.bridge.left, access.request.InWord conversion.simpleBytes
  raised : ∀ request, junction.simple.request? = some request →
    request.InWord conversion.simpleBytes

variable {junction : Junction} {conversion : Conversion}

theorem request?_completed {link : Simple.Link} {request : Request}
    (held : link.completed.request? = some request) : link.request? = some request := by
  cases link with
  | idle => cases held
  | waiting _ => exact held
  | answered _ _ => cases held

theorem InWords.collect (inWords : junction.InWords conversion) :
    junction.flush.collect.InWords conversion := by
  obtain ⟨same, left, raised⟩ := inWords
  unfold Junction.collect
  split
  · exact ⟨same, left, raised⟩
  · rename_i response _
    refine ⟨(absorb_conversion _ _).trans same, ?_, ?_⟩
    · intro access member
      exact left access (left_absorb junction.flush.bridge response member)
    · intro request held
      exact raised request (request?_completed held)

theorem InWords.acceptAddress (inWords : junction.InWords conversion) :
    junction.acceptAddress.1.InWords conversion := by
  obtain ⟨same, left, raised⟩ := inWords
  rcases junction.acceptAddress_cases with kept | ⟨burst, _, taken⟩ | ⟨burst, _, taken⟩
  · rw [kept]
    exact ⟨same, left, raised⟩
  all_goals
    rw [taken]
    refine ⟨(begun_conversion _ _ _ _).trans same, ?_, raised⟩
    intro access member
    rw [left_begun] at member
    cases member

theorem InWords.prepare (regular : conversion.IsRegular) {after : Junction}
    (inWords : junction.InWords conversion) (prepared : junction.prepare = .ok after) :
    after.InWords conversion := by
  obtain ⟨rfl, left, raised⟩ := inWords
  have planned (burst : Split.AddressBeat) (beat : Nat) :
      ∀ word ∈ junction.bridge.planBeat burst beat,
        word.InWord junction.bridge.conversion.simpleBytes :=
    planBeat_inWord regular.simpleBytes burst beat
  rcases prepare_cases prepared with rfl | ⟨transfer, _, _, ⟨data, _, _, rfl⟩ | ⟨_, _, rfl⟩⟩
  · exact ⟨rfl, left, raised⟩
  · refine ⟨rfl, ?_, raised⟩
    intro access member
    obtain ⟨word, listed, rfl⟩ := List.mem_map.mp member
    exact (planned _ _ word listed).write data
  · refine ⟨rfl, ?_, raised⟩
    intro access member
    obtain ⟨word, listed, rfl⟩ := List.mem_map.mp member
    exact (planned _ _ word listed).read

theorem InWords.issue (inWords : junction.InWords conversion) :
    junction.issue.InWords conversion := by
  obtain ⟨same, left, raised⟩ := inWords
  rcases junction.issue_cases with kept | ⟨transfer, access, pending, active, first, _, issued⟩
  · rw [kept]
    exact ⟨same, left, raised⟩
  · have here : junction.bridge.left = access :: pending := by
      rw [Inbound.left, active, Option.elim_some, first]
    rw [issued]
    refine ⟨same, ?_, ?_⟩
    · intro other member
      exact left other (here ▸ List.mem_cons_of_mem _ member)
    · intro request held
      cases held
      exact left access (here ▸ List.mem_cons_self ..)

theorem InWords.halt (inWords : junction.InWords conversion) :
    junction.halt.InWords conversion :=
  ⟨inWords.same, nofun, inWords.raised⟩

theorem InWords.advance (regular : conversion.IsRegular) (inWords : junction.InWords conversion) :
    junction.advance.1.InWords conversion := by
  unfold Junction.advance
  cases prepared : junction.prepare with
  | error kind => exact inWords.halt
  | ok next => exact (inWords.prepare regular prepared).issue

theorem InWords.drain (inWords : junction.InWords conversion) :
    junction.drain.InWords conversion := by
  unfold Junction.drain
  split
  · exact inWords
  · exact ⟨inWords.same, inWords.left,
      fun request held => inWords.raised request (request?_completed held)⟩

/-- Through a cycle, the bridge goes on asking for single words. -/
theorem InWords.tick (regular : conversion.IsRegular) (inWords : junction.InWords conversion)
    (cycle : Nat) : (junction.tick cycle).1.InWords conversion := by
  unfold Junction.tick
  split
  · exact inWords.drain
  · obtain ⟨begins, ends⟩ := junction.step_cases
    generalize junction.entered.1 = middle at begins ends
    have first : middle.InWords conversion := by
      rcases begins with rfl | ⟨_, _, _, rfl⟩
      · exact inWords.collect
      · exact inWords.collect.acceptAddress
    show junction.step.1.InWords conversion
    rcases ends with same | ⟨_, same⟩
    · rw [same]
      exact first
    · rw [same]
      exact first.advance regular

end Junction

end Inbound

end Bridge

end BusFabric
