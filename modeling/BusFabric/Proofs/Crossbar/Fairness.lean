import Mathlib.Data.List.Perm.Subperm
import BusFabric.Proofs.Crossbar.Ownership
import BusFabric.Proofs.Crossbar.Turns

set_option autoImplicit false

namespace BusFabric.Crossbar

open Simple (Link Request Response)

variable {MasterAgent SlaveAgent : Type}

theorem Slot.moveOn_lastRank {Agent : Type} (slot : Slot Agent) :
    slot.moveOn.lastRank = slot.lastRank := by
  unfold moveOn
  split
  · rfl
  · split <;> rfl
  · rfl

theorem Slot.grant_lastRank {Agent : Type} (slot : Slot Agent) (choice : Option Candidate) :
    (slot.grant choice).lastRank = (choice.map (·.rank)).or slot.lastRank := by
  cases choice <;> rfl

namespace Engaged

variable {crossbar : Crossbar MasterAgent SlaveAgent} {stages : Nat → Stage}

/-- A request that waits at a slot is still there when slots moved on and lost requests are
refused. -/
theorem waits_refuseLost (engaged : Engaged crossbar stages) {place index : Nat}
    {lane : Lane MasterAgent} {request : Request} (at_ : crossbar.lanes[place]? = some lane)
    (wants : lane.wants? = some request)
    (target : crossbar.target? request.address = some index) :
    crossbar.serve.refuseLost.lanes[place]? = some lane := by
  obtain ⟨unserved, waits⟩ := Lane.wants?_eq_some.mp wants
  obtain ⟨_, _, _, _, _, _, served, _⟩ | ⟨_, served⟩ := engaged.serve_cases at_
  · rw [unserved] at served
    cases served
  · have decoded : crossbar.serve.isLost lane = false := by
      rw [isLost_congr (frame_serve crossbar), isLost, wants]
      dsimp only
      rw [target]
      rfl
    simp [Crossbar.refuseLost, served, decoded]

/-- A waiting lane is a candidate for the slot that decodes its request. -/
theorem mem_candidates_of_waits (engaged : Engaged crossbar stages) {place index : Nat}
    {lane : Lane MasterAgent} {request : Request} (at_ : crossbar.lanes[place]? = some lane)
    (wants : lane.wants? = some request)
    (target : crossbar.target? request.address = some index) :
    (⟨place, lane.port, lane.rank, request⟩ : Candidate) ∈
      crossbar.serve.refuseLost.candidates index := by
  rw [mem_candidates]
  refine ⟨lane, engaged.waits_refuseLost at_ wants target, rfl, rfl, wants, ?_⟩
  rw [target?_congr (frame_refuseLost _), target?_congr (frame_serve crossbar)]
  exact target

theorem waits_act (engaged : Engaged crossbar stages) (move : Move) {place index : Nat}
    {lane : Lane MasterAgent} {request : Request} (at_ : crossbar.lanes[place]? = some lane)
    (wants : lane.wants? = some request)
    (target : crossbar.target? request.address = some index)
    (passed : ∀ cycle candidate, move = .tick cycle → crossbar.granted? index = some candidate →
      candidate.lane ≠ place) :
    ∃ after, (crossbar.act move).1.lanes[place]? = some after ∧ after.port = lane.port ∧
      after.rank = lane.rank ∧ after.wants? = some request := by
  obtain ⟨unserved, waits⟩ := Lane.wants?_eq_some.mp wants
  have stays {after : Lane MasterAgent} (served : after.isServed = lane.isServed)
      (keeps : Link.Keeps lane.link after.link) : after.wants? = some request :=
    Lane.wants?_eq_some.mpr ⟨served.trans unserved, keeps request waits⟩
  cases move with
  | issue other raised =>
    simp only [Crossbar.act, List.getElem?_modify, at_]
    refine ⟨_, rfl, ?_⟩
    split
    · exact ⟨rfl, rfl, stays rfl (Link.issue?_getD_keeps lane.link raised)⟩
    · exact ⟨rfl, rfl, wants⟩
  | complete other =>
    simp only [Crossbar.act, List.getElem?_modify, at_]
    refine ⟨_, rfl, ?_⟩
    split
    · exact ⟨rfl, rfl, stays rfl (Link.completed_keeps lane.link)⟩
    · exact ⟨rfl, rfl, wants⟩
  | acknowledge slot response => exact ⟨lane, at_, rfl, rfl, wants⟩
  | tick cycle =>
    refine ⟨lane, ?_, rfl, rfl, wants⟩
    simp only [Crossbar.act, Crossbar.tick]
    rw [grantAll_lanes, serveAll_getElem?, if_neg, engaged.waits_refuseLost at_ wants target]
    intro listed
    obtain ⟨candidate, member, here⟩ := List.mem_map.mp listed
    obtain ⟨other, chosen⟩ := mem_choices.mp member
    -- Whichever slot took the lane decodes its request, so it is the one at `index`.
    obtain ⟨same, found, _, _, asks, aim⟩ := engaged.granted?_lane chosen
    rw [here, at_, Option.some.injEq] at found
    subst found
    rw [wants, Option.some.injEq] at asks
    rw [← asks, target, Option.some.injEq] at aim
    subst aim
    exact passed cycle candidate rfl chosen here

theorem granted?_pick {index : Nat} {slot : Slot SlaveAgent} {candidate : Candidate}
    (at_ : crossbar.slots[index]? = some slot)
    (granted : crossbar.granted? index = some candidate) :
    pick (crossbar.serve.refuseLost.candidates index) slot.lastRank = some candidate := by
  have moved : crossbar.serve.refuseLost.slots[index]? = some slot.moveOn := by
    rw [show crossbar.serve.refuseLost.slots = crossbar.slots.map (·.moveOn) from rfl,
      List.getElem?_map, at_]
    rfl
  rw [granted?, choice?, moved, Option.bind_some, choose] at granted
  split at granted
  · rw [← slot.moveOn_lastRank]
    exact granted
  · cases granted

theorem filterMap_range {α : Type} {pick : Nat → Option α} {count index : Nat}
    (within : index < count) (absent : ∀ other < count, other ≠ index → pick other = none) :
    (List.range count).filterMap pick = (pick index).toList := by
  induction count with
  | zero => omega
  | succ count ih =>
    rw [List.range_succ, List.filterMap_append]
    rcases Nat.lt_succ_iff_lt_or_eq.mp within with before | rfl
    · rw [ih before fun other inside => absent other (by omega)]
      simp [absent count (by omega) (by omega)]
    · have none : (List.range index).filterMap pick = [] := by
        rw [List.filterMap_eq_nil_iff]
        intro other member
        have inside := List.mem_range.mp member
        exact absent other (by omega) (by omega)
      rw [none]
      cases chosen : pick index <;> simp [chosen]

theorem tick_grants_to (engaged : Engaged crossbar stages) (cycle : Nat) {port : PortId}
    {index : Nat} (first : crossbar.frame.owners.findIdx? (· = port) = some index) :
    (crossbar.tick cycle).2.filter (·.slave = port) = (crossbar.grant? cycle index).toList := by
  obtain ⟨within, owns, _⟩ := List.findIdx?_eq_some_iff_getElem.mp first
  have length : crossbar.frame.owners.length = crossbar.slots.length := by simp [frame]
  rw [tick_grants, List.filter_filterMap, filterMap_range (length ▸ within)]
  · cases made : crossbar.grant? cycle index with
    | none => rfl
    | some grant =>
      obtain ⟨slot, _, found, _, rfl⟩ := grant?_eq_some.mp made
      have same : slot.port = port := by
        obtain ⟨_, same⟩ := List.getElem?_eq_some_iff.mp found
        simpa [frame, same] using owns
      simp [Option.filter, same]
  · intro other _ differs
    rw [Option.filter_eq_none_iff]
    intro grant made same
    -- A slot with the same port further on decodes nothing.
    obtain ⟨slot, candidate, found, granted, rfl⟩ := grant?_eq_some.mp made
    obtain ⟨_, _, _, _, _, target⟩ := engaged.granted?_lane granted
    rw [target?_eq, Option.bind_eq_some_iff] at target
    obtain ⟨owner, _, place⟩ := target
    obtain ⟨inside, ownsToo, _⟩ := List.findIdx?_eq_some_iff_getElem.mp place
    have sameOwner : owner = port := by
      obtain ⟨_, here⟩ := List.getElem?_eq_some_iff.mp found
      have port_eq : slot.port = owner := by simpa [frame, here] using ownsToo
      rw [← port_eq]
      simpa using same
    rw [sameOwner, first, Option.some.injEq] at place
    exact differs place.symm

end Engaged

def Ranked (crossbar : Crossbar MasterAgent SlaveAgent) : Prop :=
  ∀ slot ∈ crossbar.slots, ∀ last, slot.lastRank = some last →
    last ∈ crossbar.frame.roster.map (·.2)

section Run

variable {crossbar : Crossbar MasterAgent SlaveAgent} {stages : Nat → Stage}

/-- A slot remembers the rank of the last grant: that of the cycle, or else the one before. -/
theorem lastRank_tick {cycle index : Nat} {slot after : Slot SlaveAgent}
    (at_ : crossbar.slots[index]? = some slot)
    (found : (crossbar.tick cycle).1.slots[index]? = some after) :
    after.lastRank = ((crossbar.granted? index).map (·.rank)).or slot.lastRank := by
  rw [tick_slots, at_, Option.map_some, Option.some.injEq] at found
  rw [← found, Slot.grant_lastRank, Slot.moveOn_lastRank]

/-- Between cycles the slots forget nothing. -/
theorem lastRank_act {move : Move} (quiet : ∀ cycle, move ≠ .tick cycle) {index : Nat}
    {slot after : Slot SlaveAgent} (at_ : crossbar.slots[index]? = some slot)
    (found : (crossbar.act move).1.slots[index]? = some after) :
    after.lastRank = slot.lastRank ∧ after.port = slot.port := by
  cases move with
  | tick cycle => exact absurd rfl (quiet cycle)
  | issue _ _ | complete _ =>
    rw [show (crossbar.act _).1.slots[index]? = crossbar.slots[index]? from rfl, at_,
      Option.some.injEq] at found
    subst found
    exact ⟨rfl, rfl⟩
  | acknowledge other response =>
    simp only [act, List.getElem?_modify, at_] at found
    cases found
    split <;> exact ⟨rfl, rfl⟩

theorem Engaged.rank_mem (engaged : Engaged crossbar stages) {index : Nat} {candidate : Candidate}
    (granted : crossbar.granted? index = some candidate) :
    (candidate.port, candidate.rank) ∈ crossbar.frame.roster := by
  obtain ⟨lane, at_, port, rank, _⟩ := engaged.granted?_lane granted
  rw [port, rank]
  exact List.mem_map_of_mem (List.mem_of_getElem? at_)

theorem Ranked.act (ranked : Ranked crossbar) (engaged : Engaged crossbar stages) (move : Move) :
    Ranked (crossbar.act move).1 := by
  intro after member last remembers
  obtain ⟨index, found⟩ := List.mem_iff_getElem?.mp member
  rw [frame_act]
  have within : index < crossbar.slots.length := by
    rw [← length_slots_act crossbar move]
    exact (List.getElem?_eq_some_iff.mp found).1
  have at_ := List.getElem?_eq_getElem within
  by_cases quiet : ∀ cycle, move ≠ .tick cycle
  · rw [(lastRank_act quiet at_ found).1] at remembers
    exact ranked _ (List.mem_of_getElem? at_) last remembers
  · simp only [ne_eq, not_forall, not_not] at quiet
    obtain ⟨cycle, rfl⟩ := quiet
    rw [lastRank_tick at_ found] at remembers
    cases granted : crossbar.granted? index with
    | none =>
      rw [granted] at remembers
      exact ranked _ (List.mem_of_getElem? at_) last remembers
    | some candidate =>
      rw [granted] at remembers
      cases remembers
      exact List.mem_map_of_mem (engaged.rank_mem granted)

theorem Ranked.play (ranked : Ranked crossbar) (engaged : Engaged crossbar stages)
    (moves : List Move) : Ranked (crossbar.play moves) := by
  induction moves generalizing crossbar stages with
  | nil => exact ranked
  | cons move rest ih =>
    obtain ⟨_, _, moved, _⟩ := engaged.act move
    exact ih (ranked.act engaged move) moved

end Run

/-- Every port has one rank, and every rank below `size` at most one port. -/
structure Seating (roster : List (PortId × Nat)) (size : Nat) : Prop where
  apart : (roster.map (·.1)).Nodup
  small : ∀ seat ∈ roster, seat.2 < size
  injective : ∀ one ∈ roster, ∀ other ∈ roster, one.2 = other.2 → one.1 = other.1

/-- Grants that follow one to rank `last` and come before `goal` in its round. -/
structure Round (roster : List (PortId × Nat)) (size goal : Nat) (last : Option Nat)
    (grants : List Grant) : Prop where
  seated : ∀ grant ∈ grants, ∃ seat, (grant.master, seat) ∈ roster
  after : ∀ grant ∈ grants, ∀ seat, (grant.master, seat) ∈ roster → ∀ rank, last = some rank →
    turn size goal rank < turn size goal seat
  ascends : grants.Pairwise fun one later => ∀ seat next, (one.master, seat) ∈ roster →
    (later.master, next) ∈ roster → turn size goal seat < turn size goal next

namespace Round

variable {roster : List (PortId × Nat)} {size goal : Nat} {last : Option Nat} {grants : List Grant}

theorem nil : Round roster size goal last [] where
  seated := nofun
  after := nofun
  ascends := .nil

/-- One more grant in front, if its turn comes after that of the last one. -/
theorem cons {grant : Grant} {seat : Nat} (seating : Seating roster size)
    (seated : (grant.master, seat) ∈ roster)
    (later : ∀ rank, last = some rank → turn size goal rank < turn size goal seat)
    (round : Round roster size goal (some seat) grants) :
    Round roster size goal last (grant :: grants) := by
  have only {other : Nat} (member : (grant.master, other) ∈ roster) : other = seat :=
    congrArg Prod.snd (List.inj_on_of_nodup_map seating.apart member seated rfl)
  refine ⟨?_, ?_, ?_⟩
  · intro one member
    rcases List.mem_cons.mp member with rfl | rest
    · exact ⟨seat, seated⟩
    · exact round.seated one rest
  · intro one member other sits rank remembered
    rcases List.mem_cons.mp member with rfl | rest
    · rw [only sits]
      exact later rank remembered
    · exact Nat.lt_trans (later rank remembered) (round.after one rest other sits seat rfl)
  · refine .cons ?_ round.ascends
    intro next member other following sits sitsNext
    rw [only sits]
    exact round.after next member following sitsNext seat rfl

theorem masters_nodup (round : Round roster size goal last grants) :
    (grants.map (·.master)).Nodup := by
  refine List.pairwise_map.mpr (round.ascends.imp_of_mem ?_)
  intro one later member _ ascends same
  obtain ⟨seat, seated⟩ := round.seated one member
  exact Nat.lt_irrefl _ (ascends seat seat seated (same ▸ seated))

end Round

section Run

variable {crossbar : Crossbar MasterAgent SlaveAgent} {stages : Nat → Stage}
  {place index size : Nat} {lane : Lane MasterAgent} {slot after : Slot SlaveAgent}
  {request : Request}

theorem first_owner (target : crossbar.target? request.address = some index)
    (found : crossbar.slots[index]? = some slot) :
    crossbar.frame.owners.findIdx? (· = slot.port) = some index := by
  rw [target?_eq, Option.bind_eq_some_iff] at target
  obtain ⟨owner, _, place⟩ := target
  obtain ⟨_, owns, _⟩ := List.findIdx?_eq_some_iff_getElem.mp place
  obtain ⟨_, same⟩ := List.getElem?_eq_some_iff.mp found
  have port : slot.port = owner := by simpa [frame, same] using owns
  rw [port]
  exact place

theorem Engaged.round_cons (engaged : Engaged crossbar stages) (ranked : Ranked crossbar)
    (seating : Seating crossbar.frame.roster size) (at_ : crossbar.lanes[place]? = some lane)
    (wants : lane.wants? = some request) (target : crossbar.target? request.address = some index)
    (found : crossbar.slots[index]? = some slot) {candidate : Candidate} {cycle : Nat}
    (granted : crossbar.granted? index = some candidate) (stranger : candidate.port ≠ lane.port)
    {later : List Grant}
    (round : Round crossbar.frame.roster size lane.rank (some candidate.rank) later) :
    Round crossbar.frame.roster size lane.rank slot.lastRank
      (⟨cycle, slot.port, candidate.port⟩ :: later) := by
  have seated := engaged.rank_mem granted
  have differs : candidate.rank ≠ lane.rank := by
    intro same
    exact stranger (seating.injective _ seated (lane.port, lane.rank)
      (List.mem_map_of_mem (List.mem_of_getElem? at_)) same)
  refine .cons seating seated ?_ round
  intro rank remembered
  have chosen := Engaged.granted?_pick found granted
  rw [remembered] at chosen
  obtain ⟨seat, member, rfl⟩ := List.mem_map.mp (ranked slot (List.mem_of_getElem? found) _ remembered)
  exact turn_lt_of_pick (engaged.mem_candidates_of_waits at_ wants target) chosen differs
    (seating.small seat member)

theorem Engaged.round (engaged : Engaged crossbar stages) (ranked : Ranked crossbar)
    (seating : Seating crossbar.frame.roster size) (at_ : crossbar.lanes[place]? = some lane)
    (wants : lane.wants? = some request) (target : crossbar.target? request.address = some index)
    (found : crossbar.slots[index]? = some slot) (moves : List Move) {earlier : List Grant}
    (start : earlier <+: (crossbar.grants moves).filter (·.slave = slot.port))
    (others : ∀ grant ∈ earlier, grant.master ≠ lane.port) :
    Round crossbar.frame.roster size lane.rank slot.lastRank earlier := by
  induction moves generalizing crossbar stages lane slot earlier with
  | nil =>
    rw [List.prefix_nil.mp start]
    exact .nil
  | cons move rest ih =>
    obtain ⟨_, _, moved, _⟩ := engaged.act move
    obtain ⟨after, foundAfter⟩ : ∃ after, (crossbar.act move).1.slots[index]? = some after := by
      have within := (List.getElem?_eq_some_iff.mp found).1
      exact ⟨_, List.getElem?_eq_getElem (length_slots_act crossbar move ▸ within)⟩
    have samePort : after.port = slot.port := by
      have owners := congrArg (·.owners[index]?) (frame_act crossbar move)
      simpa [frame, found, foundAfter] using owners
    -- The rest of the run goes on with the round, if the lane is not granted in this move.
    have continues {later : List Grant}
        (passed : ∀ cycle candidate, move = .tick cycle →
          crossbar.granted? index = some candidate → candidate.lane ≠ place)
        (start : later <+: ((crossbar.act move).1.grants rest).filter (·.slave = slot.port))
        (others : ∀ grant ∈ later, grant.master ≠ lane.port) :
        Round crossbar.frame.roster size lane.rank after.lastRank later := by
      obtain ⟨next, still, port, rank, waits⟩ := engaged.waits_act move at_ wants target passed
      have ahead : later <+:
          ((crossbar.act move).1.grants rest).filter (·.slave = after.port) := by
        rwa [samePort]
      have round := ih moved (ranked.act engaged move) (by rwa [frame_act]) still waits
        ((target?_congr (frame_act crossbar move) _).trans target) foundAfter ahead
        (by rwa [port])
      rwa [frame_act, rank] at round
    rw [grants, List.filter_append] at start
    cases move with
    | issue _ _ | complete _ | acknowledge _ _ =>
      rw [← (lastRank_act (fun _ tick => by cases tick) found foundAfter).1]
      exact continues (fun _ _ tick => by cases tick) start others
    | tick cycle =>
      rw [show (crossbar.act (.tick cycle)).2.filter (·.slave = slot.port) =
        (crossbar.grant? cycle index).toList from
          engaged.tick_grants_to cycle (first_owner target found)] at start
      have remembers : after.lastRank = ((crossbar.granted? index).map (·.rank)).or slot.lastRank :=
        lastRank_tick found foundAfter
      cases granted : crossbar.granted? index with
      | none =>
        have none : crossbar.grant? cycle index = none := by simp [grant?, granted]
        rw [none] at start
        rw [granted] at remembers
        rw [show slot.lastRank = after.lastRank from remembers.symm]
        exact continues (by simp [granted]) start others
      | some candidate =>
        have grant : crossbar.grant? cycle index = some ⟨cycle, slot.port, candidate.port⟩ :=
          grant?_eq_some.mpr ⟨slot, candidate, found, granted, rfl⟩
        rw [grant, Option.toList_some, List.singleton_append, List.prefix_cons_iff] at start
        rw [granted] at remembers
        rcases start with rfl | ⟨later, rfl, start⟩
        · exact .nil
        have stranger : candidate.port ≠ lane.port := others _ (List.mem_cons_self ..)
        have passed : candidate.lane ≠ place := by
          rintro rfl
          obtain ⟨held, same, port, _⟩ := engaged.granted?_lane granted
          rw [at_, Option.some.injEq] at same
          exact stranger (same ▸ port)
        refine engaged.round_cons ranked seating at_ wants target found granted stranger ?_
        rw [show some candidate.rank = after.lastRank from remembers.symm]
        exact continues (by simpa [granted] using passed) start
          fun grant member => others grant (List.mem_cons_of_mem _ member)

end Run

section Create

variable (map : AddressMap) (masters : List (PortId × MasterAgent))
  (slaves : List (PortId × SlaveAgent)) (tieBreak : TieBreak)

theorem ranked_create : Ranked (create map masters slaves tieBreak) := by
  intro slot member last remembers
  simp only [create, List.mem_map] at member
  obtain ⟨_, _, rfl⟩ := member
  cases remembers

theorem seating_create (apart : (masters.map (·.1)).Nodup) :
    Seating (create map masters slaves tieBreak).frame.roster masters.length := by
  have seat {one : PortId × Nat}
      (member : one ∈ (create map masters slaves tieBreak).frame.roster) :
      ∃ place : Nat, (masters.map (·.1))[place]? = some one.1 ∧
        one.2 = rank tieBreak (masters.map (·.1)) place one.1 := by
    obtain ⟨place, found⟩ := List.mem_iff_getElem?.mp member
    rw [roster_create, List.getElem?_mapIdx, Option.map_eq_some_iff] at found
    obtain ⟨master, at_, rfl⟩ := found
    exact ⟨place, by simp [at_], rfl⟩
  refine ⟨by rwa [ports_create], ?_, ?_⟩
  · intro one member
    obtain ⟨place, at_, same⟩ := seat member
    rw [same]
    simpa using rank_lt tieBreak apart at_
  · intro one member other another same
    obtain ⟨place, at_, first⟩ := seat member
    obtain ⟨elsewhere, found, second⟩ := seat another
    exact rank_inj tieBreak apart at_ found (first.symm.trans (same.trans second))

/-- However the masters ask and the slaves tarry: while the request of a master waits for a slot, no
other master is granted the slot twice, and fewer grants than there are masters come first. -/
theorem each_passes_once (apart : (masters.map (·.1)).Nodup) (past future : List Move)
    {place index : Nat} {lane : Lane MasterAgent} {slot : Slot SlaveAgent} {request : Request}
    (at_ : ((create map masters slaves tieBreak).play past).lanes[place]? = some lane)
    (wants : lane.wants? = some request)
    (target : ((create map masters slaves tieBreak).play past).target? request.address =
      some index)
    (found : ((create map masters slaves tieBreak).play past).slots[index]? = some slot)
    {earlier : List Grant}
    (start : earlier <+: (((create map masters slaves tieBreak).play past).grants future).filter
      (·.slave = slot.port))
    (others : ∀ grant ∈ earlier, grant.master ≠ lane.port) :
    (earlier.map (·.master)).Nodup ∧ earlier.length < masters.length := by
  have engaged := Engaged.create map masters slaves tieBreak
  have ranked := (ranked_create map masters slaves tieBreak).play engaged past
  obtain ⟨_, _, played, _⟩ := engaged.play past
  have seating := seating_create map masters slaves tieBreak apart
  rw [← frame_play _ past] at seating
  have round := played.round ranked seating at_ wants target found future start others
  refine ⟨round.masters_nodup, ?_⟩
  -- With the waiting master in front, these are different masters.
  have roster : ((create map masters slaves tieBreak).play past).frame.roster.map (·.1) =
      masters.map (·.1) := by
    rw [frame_play, ports_create]
  have distinct : (lane.port :: earlier.map (·.master)).Nodup := by
    refine List.nodup_cons.mpr ⟨?_, round.masters_nodup⟩
    intro member
    obtain ⟨grant, listed, same⟩ := List.mem_map.mp member
    exact others grant listed same
  have known : lane.port :: earlier.map (·.master) ⊆ masters.map (·.1) := by
    rw [← roster]
    intro port member
    rcases List.mem_cons.mp member with rfl | granted
    · exact List.mem_map.mpr ⟨(lane.port, lane.rank),
        List.mem_map_of_mem (List.mem_of_getElem? at_), rfl⟩
    · obtain ⟨grant, listed, rfl⟩ := List.mem_map.mp granted
      obtain ⟨seat, seated⟩ := round.seated grant listed
      exact List.mem_map.mpr ⟨(grant.master, seat), seated, rfl⟩
  have bound : earlier.length + 1 ≤ masters.length := by
    simpa using (distinct.subperm known).length_le
  exact bound

end Create

/-- The first of three masters has just been served and asks again: both others are granted before
it. -/
theorem two_of_three_pass :
    let masters : List (PortId × Unit) := [(⟨0⟩, ()), (⟨1⟩, ()), (⟨2⟩, ())]
    let request : Request := .read 0x10 0xF
    let past : List Move := [.issue 0 request, .tick 0, .acknowledge 0 (.ok 7), .tick 1, .tick 2,
      .complete 0, .issue 0 request, .issue 1 request, .issue 2 request]
    let future : List Move := [.tick 3, .acknowledge 0 (.ok 8), .tick 4, .tick 5,
      .acknowledge 0 (.ok 9), .tick 6, .tick 7]
    let crossbar := (create { windows := [⟨"memory", 0, 0x1000, ⟨10⟩, 32⟩] } masters
      [(⟨10⟩, ())] .ascending).play past
    let earlier : List Grant := [⟨3, ⟨10⟩, ⟨1⟩⟩, ⟨5, ⟨10⟩, ⟨2⟩⟩]
    (masters.map (·.1)).Nodup ∧
      (∃ lane slot, crossbar.lanes[0]? = some lane ∧ lane.wants? = some request ∧
        crossbar.target? request.address = some 0 ∧ crossbar.slots[0]? = some slot ∧
        earlier <+: (crossbar.grants future).filter (·.slave = slot.port) ∧
        ∀ grant ∈ earlier, grant.master ≠ lane.port) ∧
      (earlier.map (·.master)).Nodup ∧ earlier.length < masters.length := by
  intro masters request past future crossbar earlier
  have asks : crossbar.lanes[0]?.bind (·.wants?) = some request := by decide +kernel
  have first : crossbar.lanes[0]?.map (·.port) = some ⟨0⟩ := by decide +kernel
  have memory : crossbar.slots[0]?.map (·.port) = some ⟨10⟩ := by decide +kernel
  have target : crossbar.target? request.address = some 0 := by decide +kernel
  have start : earlier <+: (crossbar.grants future).filter (·.slave = ⟨10⟩) := by decide +kernel
  have others : ∀ grant ∈ earlier, grant.master ≠ ⟨0⟩ := by decide
  obtain ⟨lane, at_, wants⟩ := Option.bind_eq_some_iff.mp asks
  obtain ⟨slot, found, slave⟩ := Option.map_eq_some_iff.mp memory
  rw [at_, Option.map_some, Option.some.injEq] at first
  rw [← slave] at start
  rw [← first] at others
  exact ⟨by decide, ⟨lane, slot, at_, wants, target, found, start, others⟩,
    each_passes_once _ masters _ _ (by decide) past future at_ wants target found start others⟩

end BusFabric.Crossbar
