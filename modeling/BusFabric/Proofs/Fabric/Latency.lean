import BusFabric.Proofs.Fabric.Retiming
import BusFabric.Proofs.Fabric.Solo

set_option autoImplicit false

namespace BusFabric.Fabric

open Crossbar (Lane Slot)
open Simple (Link Request Response)
open Split (Op)

theorem map_appendList {α β : Type} (change : α → β) (items : Array α) (more : List α) :
    (items.appendList more).map change = (items.map change).appendList (more.map change) := by
  apply Array.toList_inj.mp
  simp

section

variable {fabric : Fabric}

theorem untimed_noting (fault : Option ProtocolFault) (grants : List Grant) :
    (fabric.noting fault grants).untimed =
      fabric.untimed.noting (fault.map (·.untimed)) (grants.map (·.untimed)) := by
  have faults : (fabric.faults.appendList fault.toList).map ProtocolFault.untimed =
      (fabric.faults.map (·.untimed)).appendList (fault.map (·.untimed)).toList := by
    rw [map_appendList]
    cases fault <;> rfl
  have noted : (if fabric.recordsGrants then fabric.grants.appendList grants
        else fabric.grants).map Grant.untimed =
      if fabric.recordsGrants then (fabric.grants.map (·.untimed)).appendList
        (grants.map (·.untimed)) else fabric.grants.map (·.untimed) := by
    split
    · exact map_appendList _ _ _
    · rfl
  unfold noting untimed
  dsimp only
  rw [faults, noted]

theorem untimed_between (cycle : Nat) (lane : Lane MasterAgent) (refused : Nat) :
    (fabric.between cycle lane refused).untimed =
      fabric.untimed.between 0 (untimedLane lane) refused := rfl

theorem untimed_during (cycle : Nat) (lane : Lane MasterAgent) (index : Nat)
    (slot : Slot SlaveAgent) : (fabric.during cycle lane index slot).untimed =
      fabric.untimed.during 0 (untimedLane lane) index (untimedSlot slot) := by
  unfold during untimed Crossbar.solo
  dsimp only
  rw [List.map_set]
  rfl

theorem target?_untimed (address : Address) :
    fabric.untimed.crossbar.target? address = fabric.crossbar.target? address := by
  refine Crossbar.target?_congr ?_ address
  unfold Crossbar.frame untimed
  dsimp only
  rw [List.map_map, List.map_map]
  rfl

end

/-- What comes of a fabric without times when its master has moved and left its link like this. -/
inductive Comes (fabric : Fabric) (moved : Lane MasterAgent) (fault : Option ProtocolFault) :
    Link → Fabric → Prop
  | quiet : Comes fabric moved fault .idle ((fabric.noting fault []).between 0 moved 0)
  | refused {request : Request} (lost : fabric.crossbar.target? request.address = none) :
      Comes fabric moved fault (.waiting request) ((fabric.noting fault []).between 0
        { moved with link := .answered request .refused } 1)
  | served {held : Lane MasterAgent} {request : Request} {response : Response}
      {slot after : Slot SlaveAgent} {index count : Nat}
      (holds : tickLane 0 moved = (held, none))
      (target : fabric.crossbar.target? request.address = some index)
      (found : fabric.crossbar.slots[index]? = some slot)
      (serves : Serves request response
        { slot with
          phase := .granted 0
          lastRank := some moved.rank
          link := .waiting request } count after) :
      Comes fabric moved fault (.waiting request)
        ((fabric.noting fault [⟨0, slot.port, moved.port⟩]).during 0
          { held with link := .answered request response } index
          { after with phase := .idle, link := .idle })

/-- What a fabric without times comes to next, from one request of its master to the next. -/
def Proceeds (fabric after : Fabric) : Prop :=
  ∃ lane moved fault, fabric.crossbar.lanes = [lane] ∧ tickLane 0 lane = (moved, fault) ∧
    Comes fabric moved fault moved.link after

theorem Comes.unique {fabric first second : Fabric} {moved : Lane MasterAgent}
    {fault : Option ProtocolFault} {link : Link} (one : Comes fabric moved fault link first)
    (another : Comes fabric moved fault link second) : first = second := by
  cases one with
  | quiet =>
    cases another
    rfl
  | refused lost =>
    cases another with
    | refused _ => rfl
    | served _ target _ _ => cases lost.symm.trans target
  | served holds target found serves =>
    cases another with
    | refused lost => cases lost.symm.trans target
    | served holds' target' found' serves' =>
      cases target.symm.trans target'
      cases found.symm.trans found'
      cases holds.symm.trans holds'
      obtain ⟨rfl, rfl⟩ := serves.unique serves'
      rfl

theorem Proceeds.unique {fabric first second : Fabric} (one : Proceeds fabric first)
    (another : Proceeds fabric second) : first = second := by
  obtain ⟨lane, moved, fault, alone, masters, comes⟩ := one
  obtain ⟨_, _, _, alone', masters', comes'⟩ := another
  cases alone.symm.trans alone'
  cases masters.symm.trans masters'
  exact comes.unique comes'

/-- A fabric with one master, between two of its requests. -/
structure IsPoised (fabric : Fabric) : Prop extends IsSound fabric where
  idle : ∀ slot ∈ fabric.crossbar.slots, slot.phase = .idle
  alone : ∃ lane, fabric.crossbar.lanes = [lane] ∧ lane.link.awaiting? = none

namespace IsPoised

variable {fabric : Fabric} {lane : Lane MasterAgent}

theorem slotsRest (poised : fabric.IsPoised) : fabric.SlotsRest :=
  fun slot member => ⟨poised.idle slot member, poised.still poised.idle slot member⟩

theorem unserved (poised : fabric.IsPoised) (member : lane ∈ fabric.crossbar.lanes) :
    lane.isServed = false := by
  rw [Bool.eq_false_iff]
  intro served
  obtain ⟨stages, _, attended⟩ := poised.attended
  obtain ⟨place, found⟩ := List.mem_iff_getElem?.mp member
  obtain ⟨index, request, works⟩ := attended.served found served
  cases at_ : fabric.crossbar.slots[index]? with
  | none =>
    rw [attended.beyond at_] at works
    cases works
  | some slot =>
    have phase := (attended.stands at_).phase
    rw [poised.idle slot (List.mem_of_getElem? at_)] at phase
    cases stage : stages index with
    | idle =>
      rw [stage] at works
      cases works
    | waiting _ _ | answered _ _ _ | completing _ _ _ =>
      rw [stage] at phase
      cases phase

theorem serves (poised : fabric.IsPoised) {slot : Slot SlaveAgent}
    (member : slot ∈ fabric.crossbar.slots) (rank : Nat) (request : Request) :
    ∃ response count after fewer,
      Serves request response
        { slot with phase := .granted 0, lastRank := some rank, link := .waiting request }
        count after ∧
      Serves request response
        { untimedSlot slot with
          phase := .granted 0
          lastRank := some rank
          link := .waiting request } fewer (untimedSlot after) ∧
      after.agent.IsReady := by
  obtain ⟨_, _, attended⟩ := poised.attended
  obtain ⟨_, ready⟩ := attended.rests poised.idle slot member
  obtain ⟨response, count, after, fewer, last, serves, rest, serves', same⟩ :=
    @SlaveAgent.IsReady.answers
      { slot with phase := .granted 0, lastRank := some rank, link := .waiting request }
      { untimedSlot slot with
        phase := .granted 0
        lastRank := some rank
        link := .waiting request } request ready rfl rfl rfl
  have final : last = untimedSlot after := by
    rw [serves'.frame, serves.frame, same]
    rfl
  exact ⟨response, count, after, fewer, serves, final ▸ serves', rest⟩

/-- A fabric that is poised and not idle is poised again some cycles later. -/
theorem proceeds (poised : fabric.IsPoised) (busy : fabric.isIdle = false) :
    ∃ count after, Works fabric (count + 1) after ∧ after.IsPoised ∧
      Proceeds fabric.untimed after.untimed := by
  obtain ⟨lane, alone, _⟩ := poised.alone
  have member : lane ∈ fabric.crossbar.lanes := by rw [alone]; exact List.mem_singleton_self lane
  have rests := poised.slotsRest
  obtain ⟨moved, fault, masters⟩ : ∃ moved fault, tickLane fabric.cycle lane = (moved, fault) :=
    ⟨_, _, rfl⟩
  have unanswered := (tickLane_mayRaise fabric.cycle lane).unanswered
  have steady := (poised.steady lane member).tick fabric.cycle
  have unserved := (tickLane_isServed fabric.cycle lane).trans (poised.unserved member)
  have masters' := tickLane_untimed fabric.cycle lane
  rw [masters] at unanswered steady unserved masters'
  -- the same without times
  have goesOn {after : Fabric} (comes : Comes fabric.untimed (untimedLane moved)
      (fault.map (·.untimed)) moved.link after.untimed) : Proceeds fabric.untimed after.untimed :=
    ⟨_, _, _, congrArg (List.map untimedLane) alone, masters', comes⟩
  have sound {count : Nat} {after : Fabric} (works : Works fabric count after) : after.IsSound :=
    works.1 ▸ poised.ticks count
  cases link : moved.link with
  | answered request response =>
    rw [link] at unanswered
    cases unanswered
  | idle =>
    have works := works_quiet rests busy alone masters link
    refine ⟨0, _, works, ⟨sound works, poised.idle, moved, rfl, by rw [link]; rfl⟩, goesOn ?_⟩
    rw [link, untimed_between, untimed_noting]
    exact .quiet
  | waiting request =>
    have wants : moved.wants? = some request := Lane.wants?_eq_some.mpr ⟨unserved, link⟩
    cases target : fabric.crossbar.target? request.address with
    | none =>
      have works := works_refused rests busy alone masters wants target
      refine ⟨0, _, works, ⟨sound works, poised.idle, _, rfl, rfl⟩, goesOn ?_⟩
      rw [link, untimed_between, untimed_noting]
      exact .refused ((target?_untimed _).trans target)
    | some index =>
      obtain ⟨held, _, holds, stays⟩ := steady.waits link
      obtain ⟨slot, found⟩ := Crossbar.slot_of_target? target
      have listed := List.mem_of_getElem? found
      obtain ⟨_, _, attended⟩ := poised.attended
      obtain ⟨response, count, after, fewer, serves, serves', ready⟩ :=
        poised.serves listed moved.rank request
      have works := works_served rests busy alone masters wants target found
        (attended.rests poised.idle slot listed).1 holds stays serves ready
      refine ⟨count + 2, _, works, ⟨sound works, ?_, _, rfl, rfl⟩, goesOn ?_⟩
      · intro other member
        rcases List.mem_or_eq_of_mem_set member with old | rfl
        · exact poised.idle other old
        · rfl
      · have holds' := tickLane_untimed 0 moved
        have found' : fabric.untimed.crossbar.slots[index]? = some (untimedSlot slot) := by
          rw [show fabric.untimed.crossbar.slots = fabric.crossbar.slots.map untimedSlot from rfl,
            List.getElem?_map, found]
          rfl
        rw [holds] at holds'
        rw [link, untimed_during, untimed_noting]
        exact .served holds' ((target?_untimed _).trans target) found' serves'

/-- Fabrics that differ in their times only become idle in states that differ in their times only.
-/
theorem becomes_idle {other after : Fabric} {count : Nat} (poised : fabric.IsPoised)
    (poised' : other.IsPoised) (same : fabric.untimed = other.untimed)
    (works : Works fabric count after) (idle : after.isIdle = true) :
    ∃ more last, Works other more last ∧ last.isIdle = true ∧ after.untimed = last.untimed := by
  -- by the cycles that are left, from one request to the next
  induction count using Nat.strongRecOn generalizing fabric other with
  | ind count ih =>
    have idles : fabric.isIdle = other.isIdle := by
      rw [← isIdle_untimed, same, isIdle_untimed]
    cases busy : fabric.isIdle with
    | true =>
      obtain rfl : count = 0 := by
        by_contra some_
        cases busy.symm.trans (works.2 0 (Nat.pos_of_ne_zero some_))
      obtain rfl : fabric = after := works.1
      exact ⟨0, other, .none other, idles.symm.trans busy, same⟩
    | false =>
      obtain ⟨part, middle, first, settled, proceeds⟩ := poised.proceeds busy
      obtain ⟨part', middle', first', settled', proceeds'⟩ :=
        poised'.proceeds (idles.symm.trans busy)
      rw [← same] at proceeds'
      have le : part + 1 ≤ count := by
        by_contra early
        have late := first.2 count (by omega)
        rw [works.1, idle] at late
        cases late
      obtain ⟨more, last, goesOn, ends, alike⟩ := ih (count - (part + 1)) (by omega) settled settled'
        (proceeds.unique proceeds') (works.rest first le)
      exact ⟨part' + 1 + more, last, first'.trans goesOn, ends, alike⟩

theorem push (poised : fabric.IsPoised) {action : Action} (push : action ≠ .tick) :
    (fabric.act action).IsPoised := by
  have sound := poised.act action
  obtain ⟨_, _, pushed⟩ := fabric.act_push push
  obtain ⟨lane, alone, free⟩ := poised.alone
  rw [pushed, alone] at sound ⊢
  exact ⟨sound, poised.idle, _, rfl, free⟩

theorem play (poised : fabric.IsPoised) {pushes : List Action} (plain : .tick ∉ pushes) :
    (fabric.play pushes).IsPoised := by
  induction pushes generalizing fabric with
  | nil => exact poised
  | cons action pushes ih =>
    rw [List.mem_cons, not_or] at plain
    exact ih (poised.push (Ne.symm plain.1)) plain.2

theorem build {config : Config} {port : Port} (built : Fabric.build config = .ok fabric)
    (single : config.ports.filter (·.role = .master) = [port]) : fabric.IsPoised := by
  have sound := isSound_play built []
  have ports := lane_ports_build built
  have sorted := (perm_sortByNumber config.ports).filter (·.role = .master)
  rw [single] at sorted
  rw [List.perm_singleton.mp sorted] at ports
  obtain ⟨lane, alone⟩ : ∃ lane, fabric.crossbar.lanes = [lane] := by
    rw [← List.length_eq_one_iff, ← List.length_map (f := (·.port)), ports]
    rfl
  obtain ⟨_, parts, _, _, _, rfl⟩ := build_parts built
  refine ⟨sound, fun slot member => ?_, lane, alone, ?_⟩
  · obtain ⟨_, _, rfl⟩ := List.mem_map.mp member
    rfl
  · have member := List.mem_singleton_self lane
    rw [← alone] at member
    obtain ⟨_, _, rfl⟩ := List.mem_mapIdx.mp member
    rfl

end IsPoised

/-- The latencies of the slaves change nothing but times. A fabric with one master that is built
with other latencies becomes idle as well, and then everything is the same up to the cycles on
record: what the master's operations came to, the faults, the grants, the requests that were
refused, and what the devices and memories hold. -/
theorem latencies_change_times_only {config : Config} {fabric : Fabric} {port : Port}
    (built : build config = .ok fabric)
    (single : config.ports.filter (·.role = .master) = [port]) {pushes : List Action}
    (plain : .tick ∉ pushes) (whole : config.PlaysWhole (splitOps · pushes)) (device ram : Nat) :
    ∃ other, build (config.retimed device ram) = .ok other ∧
      ∃ here there : Fabric, here.untimed = there.untimed ∧
        ∀ limits : Limits, limits.cycles = none → limits.milliseconds = none →
          (fabric.play pushes).run limits = (here, .idle) ∧
            (other.play pushes).run limits = (there, .idle) := by
  have built' : build (config.retimed device ram) = .ok (fabric.retimed device ram) := by
    rw [build_retimed, built]
    rfl
  have same : (fabric.play pushes).untimed = ((fabric.retimed device ram).play pushes).untimed := by
    rw [untimed_play _ plain, untimed_play _ plain, untimed_retimed]
  obtain ⟨⟨_, _, attended⟩, briefed⟩ := briefed_play built pushes
  have ends := briefed.ends attended whole
  have idle := Nat.find_spec ends
  have works : Works (fabric.play pushes) (Nat.find ends) _ :=
    ⟨rfl, fun earlier before => Bool.eq_false_iff.mpr (Nat.find_min ends before)⟩
  obtain ⟨more, last, works', idle', alike⟩ :=
    ((IsPoised.build built single).play plain).becomes_idle
      ((IsPoised.build built' single).play plain) same works idle
  obtain ⟨rfl, busy⟩ := works'
  exact ⟨_, built', _, _, alike, fun limits unlimited timeless =>
    ⟨run_unlimited idle works.2 unlimited timeless, run_unlimited idle' busy unlimited timeless⟩⟩

/-- A split-transaction master with a memory on the simple bus and one behind a bridge. -/
def loner : Config where
  width := 32
  ports :=
    [{ id := ⟨0⟩, name := "core", protocol := .wideSplit, role := .master, dataWidth := 32,
       addressWidth := 30 },
     { id := ⟨1⟩, name := "sram", protocol := .simpleSync, role := .slave, dataWidth := 32,
       addressWidth := 30, base := some 0, size := some 0x1000 },
     { id := ⟨2⟩, name := "dram", protocol := .wideSplit, role := .slave, dataWidth := 64,
       addressWidth := 30, base := some 0x1000, size := some 0x1000 }]

/-- Two beats that lie in both memories are written and read back, and a read for no slave. -/
def errand : List Action :=
  [.pushSplit ⟨0⟩ (.writeBurst 1 0xFFC 2 .incr [7, 8] 4),
    .pushSplit ⟨0⟩ (.readBurst 2 0xFFC 2 .incr 2), .pushSplit ⟨0⟩ (.readBurst 3 0x4000 2 .incr 1)]

/-- The errand comes to the same when the memories take their time. -/
theorem errand_without_haste :
    ∃ fabric other here there, build loner = .ok fabric ∧
      build (loner.retimed 3 5) = .ok other ∧ here.untimed = there.untimed ∧
      (fabric.play errand).run {} = (here, .idle) ∧
      (other.play errand).run {} = (there, .idle) := by
  have built : build loner = .ok _ := rfl
  have whole : loner.PlaysWhole (splitOps · errand) := by
    intro port listed asks speaks op played
    simp only [loner, List.mem_cons, List.not_mem_nil, or_false] at listed
    rcases listed with rfl | rfl | rfl
    · rcases played with _ | ⟨_, _ | ⟨_, _ | ⟨_, ⟨⟩⟩⟩⟩
      · exact rfl
      all_goals trivial
    all_goals cases asks
  have plain : .tick ∉ errand := by simp [errand]
  obtain ⟨other, built', here, there, same, runs⟩ :=
    latencies_change_times_only built rfl plain whole 3 5
  obtain ⟨first, second⟩ := runs {} rfl rfl
  exact ⟨_, other, here, there, built, built', same, first, second⟩

end BusFabric.Fabric
