import BusFabric.Proofs.Crossbar.Quiet

set_option autoImplicit false

namespace BusFabric.Crossbar

open Simple (Request Response)

variable {MasterAgent SlaveAgent : Type}

def solo (frame : Crossbar MasterAgent SlaveAgent) (lane : Lane MasterAgent) (index : Nat)
    (slot : Slot SlaveAgent) : Crossbar MasterAgent SlaveAgent :=
  { frame with lanes := [lane], slots := frame.slots.set index slot }

/-- A list in which one item gives something, and gives it alone. -/
theorem filterMap_mapIdx_eq_singleton {α β γ : Type} {give : Nat → α → β} {take : β → Option γ}
    {items : List α} {index : Nat} {item : α} {given : γ} (found : items[index]? = some item)
    (gives : take (give index item) = some given)
    (others : ∀ place other, items[place]? = some other → place ≠ index →
      take (give place other) = none) :
    (items.mapIdx give).filterMap take = [given] := by
  induction items generalizing index give with
  | nil => cases found
  | cons head items ih =>
    rw [List.mapIdx_cons]
    cases index with
    | zero =>
      obtain rfl : head = item := Option.some.inj found
      have rest : (items.mapIdx fun place => give (place + 1)).filterMap take = [] := by
        rw [List.filterMap_eq_nil_iff]
        intro made member
        obtain ⟨place, within, rfl⟩ := List.mem_mapIdx.mp member
        exact others (place + 1) _ (List.getElem?_eq_getElem within) (Nat.succ_ne_zero _)
      rw [List.filterMap_cons_some gives, rest]
    | succ index =>
      rw [List.filterMap_cons_none (others 0 head rfl (Nat.succ_ne_zero _).symm)]
      exact ih found gives fun place other at_ apart =>
        others (place + 1) other at_ fun same => apart (Nat.succ.inj same)

variable {frame : Crossbar MasterAgent SlaveAgent} {lane moved : Lane MasterAgent} {index : Nat}
  {slot : Slot SlaveAgent} {request : Request} {response : Response}

section

variable (wants : lane.wants? = some request)
  (target : frame.target? request.address = some index)

include wants target

theorem candidates_solo (place : Nat) :
    { frame with lanes := [lane] }.candidates place =
      if place = index then [⟨0, lane.port, lane.rank, request⟩] else [] := by
  have same : { frame with lanes := [lane] }.target? request.address = some index := target
  by_cases here : place = index
  · simp [candidates, wants, same, here]
  · simp [candidates, wants, same, here, Ne.symm here]

theorem choose_solo (idle : slot.phase = .idle) (free : slot.link = .idle) :
    { frame with lanes := [lane] }.choose index slot =
      some ⟨0, lane.port, lane.rank, request⟩ := by
  unfold choose
  rw [candidates_solo wants target, if_pos rfl, if_pos ⟨idle, by rw [free]; rfl⟩]
  unfold pick
  cases slot.lastRank with
  | none => rfl
  | some last => by_cases after : last < lane.rank <;> simp [after, first?]

theorem choose_solo_other {place : Nat} (apart : place ≠ index) (other : Slot SlaveAgent) :
    { frame with lanes := [lane] }.choose place other = none := by
  unfold choose
  rw [candidates_solo wants target, if_neg apart]
  split
  · cases other.lastRank <;> rfl
  · rfl

theorem grantAll_solo (found : frame.slots[index]? = some slot) (idle : slot.phase = .idle)
    (free : slot.link = .idle) (cycle : Nat) :
    { frame with lanes := [lane] }.grantAll cycle =
      (solo frame { lane with isServed := true } index
          (slot.grant (some ⟨0, lane.port, lane.rank, request⟩)),
        [⟨cycle, slot.port, lane.port⟩]) := by
  have chosen := choose_solo wants target idle free
  have others {place : Nat} (apart : place ≠ index) := choose_solo_other wants target apart
  have choices := @filterMap_mapIdx_eq_singleton _ _ _
    (fun place slot => (slot, { frame with lanes := [lane] }.choose place slot)) Prod.snd _ _ _ _
    found chosen fun place other _ apart => others apart other
  have grants : (frame.slots.mapIdx fun place slot =>
      (slot, { frame with lanes := [lane] }.choose place slot)).filterMap (fun choice =>
        choice.2.map fun candidate => (⟨cycle, choice.1.port, candidate.port⟩ : Grant)) =
      [⟨cycle, slot.port, lane.port⟩] :=
    filterMap_mapIdx_eq_singleton found (by rw [chosen]; rfl)
      fun place other _ apart => by rw [others apart]; rfl
  have slots : (frame.slots.mapIdx fun place slot =>
      (slot, { frame with lanes := [lane] }.choose place slot)).map (fun choice =>
        choice.1.grant choice.2) =
      frame.slots.set index (slot.grant (some ⟨0, lane.port, lane.rank, request⟩)) := by
    apply List.ext_getElem?
    intro place
    rw [List.getElem?_map, List.getElem?_mapIdx, List.getElem?_set]
    by_cases here : index = place
    · subst here
      rw [found, if_pos rfl, if_pos (List.getElem?_eq_some_iff.mp found).1]
      exact congrArg (fun choice => some (slot.grant choice)) chosen
    · cases at_ : frame.slots[place]? with
      | none => simp [here]
      | some other => simp [here, others (Ne.symm here), Slot.grant]
  unfold grantAll
  dsimp only
  rw [choices, slots, grants]
  rfl

end

section

variable (idle : ∀ slot ∈ frame.slots, slot.phase = .idle)

include idle

/-- Only the slot that works may have an acknowledge to hand over. -/
theorem deliverAll_solo (within : index < frame.slots.length) (lanes : List (Lane MasterAgent)) :
    deliverAll (frame.slots.set index slot) lanes = deliverAll [slot] lanes := by
  generalize frame.slots = slots at idle within
  induction slots generalizing index with
  | nil => cases within
  | cons head slots ih =>
    have rest : ∀ slot ∈ slots, slot.phase = .idle :=
      fun slot member => idle slot (List.mem_cons_of_mem _ member)
    cases index with
    | zero => rw [List.set_cons_zero, deliverAll_cons, deliverAll_idle rest]
    | succ index =>
      have first : deliverAll [head] lanes = lanes :=
        deliverAll_idle (by simpa using idle head (List.mem_cons_self ..)) lanes
      rw [List.set_cons_succ, deliverAll_cons, first]
      exact ih rest (Nat.lt_of_succ_lt_succ within)

/-- Where the lane asks for nothing, the slot moves on and that is all. -/
theorem tick_solo (within : index < frame.slots.length)
    (delivers : deliverAll [slot] [lane] = [moved]) (quiet : moved.wants? = none) (cycle : Nat) :
    (solo frame lane index slot).tick cycle = (solo frame moved index slot.moveOn, []) := by
  have serves : (solo frame lane index slot).serve = solo frame moved index slot.moveOn := by
    unfold serve solo
    dsimp only
    rw [deliverAll_solo idle within, delivers, List.map_set, map_moveOn_idle idle]
  rw [tick_eq_serve (by rw [serves]; simpa [solo] using quiet), serves]

theorem tick_solo_wait (within : index < frame.slots.length) (granted : slot.phase = .granted 0)
    (waits : slot.link = .waiting request) (served : lane.isServed = true) (cycle : Nat) :
    (solo frame lane index slot).tick cycle = (solo frame lane index slot, []) := by
  have stays : slot.moveOn = slot := by
    simp [Slot.moveOn, granted, waits, Simple.Link.response?]
  have delivers : deliverAll [slot] [lane] = [lane] := by simp [deliverAll, granted]
  rw [tick_solo idle within delivers (by simp [Lane.wants?, served]), stays]

/-- The slave's acknowledge is taken. -/
theorem tick_solo_take (within : index < frame.slots.length) (granted : slot.phase = .granted 0)
    (answered : slot.link = .answered request response) (served : lane.isServed = true)
    (cycle : Nat) :
    (solo frame lane index slot).tick cycle =
      (solo frame lane index { slot with phase := .completing 0 response, link := .idle }, []) := by
  have takes : slot.moveOn = { slot with phase := .completing 0 response, link := .idle } := by
    simp [Slot.moveOn, granted, answered, Simple.Link.response?, Simple.Link.completed]
  have delivers : deliverAll [slot] [lane] = [lane] := by simp [deliverAll, granted]
  rw [tick_solo idle within delivers (by simp [Lane.wants?, served]), takes]

theorem tick_solo_deliver (within : index < frame.slots.length)
    (completing : slot.phase = .completing 0 response) (waits : lane.link = .waiting request)
    (cycle : Nat) :
    (solo frame lane index slot).tick cycle =
      (solo frame { lane with link := .answered request response, isServed := false } index
        { slot with phase := .idle }, []) := by
  have ends : slot.moveOn = { slot with phase := .idle } := by
    simp [Slot.moveOn, completing]
  have delivers : deliverAll [slot] [lane] =
      [{ lane with link := .answered request response, isServed := false }] := by
    simp [deliverAll, completing, Lane.deliver, waits, Simple.Link.acknowledge,
      Simple.Link.acknowledge?]
  rw [tick_solo idle within delivers (by simp [Lane.wants?, Simple.Link.awaiting?]), ends]

theorem tick_solo_lost (wants : lane.wants? = some request)
    (lost : frame.target? request.address = none) (cycle : Nat) :
    { frame with lanes := [lane] }.tick cycle =
      ({ frame with
          lanes := [{ lane with link := .answered request .refused }]
          decodeErrors := frame.decodeErrors + 1 }, []) := by
  have waits : lane.link = .waiting request := (Lane.wants?_eq_some.mp wants).2
  have serves : { frame with lanes := [lane] }.serve = { frame with lanes := [lane] } :=
    serve_idle idle
  have isLost : { frame with lanes := [lane] }.isLost lane = true := by
    unfold Crossbar.isLost
    rw [wants]
    exact Option.isNone_iff_eq_none.mpr lost
  have refuses : { frame with lanes := [lane] }.refuseLost =
      { frame with
        lanes := [{ lane with link := .answered request .refused }]
        decodeErrors := frame.decodeErrors + 1 } := by
    simp [refuseLost, isLost, waits, Simple.Link.acknowledge, Simple.Link.acknowledge?]
  unfold tick
  rw [serves, refuses, grantAll_silent]
  simp [Lane.wants?, Simple.Link.awaiting?]

/-- The lane's request is forwarded to the slave. -/
theorem tick_solo_grant (wants : lane.wants? = some request)
    (target : frame.target? request.address = some index)
    (found : frame.slots[index]? = some slot) (free : slot.link = .idle) (cycle : Nat) :
    { frame with lanes := [lane] }.tick cycle =
      (solo frame { lane with isServed := true } index
          { slot with
            phase := .granted 0
            lastRank := some lane.rank
            link := .waiting request },
        [⟨cycle, slot.port, lane.port⟩]) := by
  have serves : { frame with lanes := [lane] }.serve = { frame with lanes := [lane] } :=
    serve_idle idle
  have keeps : { frame with lanes := [lane] }.refuseLost = { frame with lanes := [lane] } := by
    have kept : { frame with lanes := [lane] }.isLost lane = false := by
      unfold Crossbar.isLost
      rw [wants]
      exact Option.isNone_eq_false_iff.mpr (Option.isSome_of_eq_some target)
    simp [refuseLost, kept]
  have waiting : slot.link.issue? request = some (.waiting request) := by
    rw [free]
    rfl
  unfold tick
  rw [serves, keeps, grantAll_solo wants target found (idle slot (List.mem_of_getElem? found)) free]
  simp [Slot.grant, waiting]

end

end BusFabric.Crossbar
