import BusFabric.Proofs.Crossbar.Solo
import BusFabric.Proofs.Fabric.Stillness

set_option autoImplicit false

namespace BusFabric.Fabric

open Crossbar (Lane Slot solo)
open Simple (Request Response)

/-- So many cycles, before each of which there is something to do, make `after` of the fabric. -/
def Works (fabric : Fabric) (count : Nat) (after : Fabric) : Prop :=
  fabric.ticks count = after ∧ ∀ earlier < count, (fabric.ticks earlier).isIdle = false

namespace Works

variable {fabric after : Fabric} {count : Nat}

theorem none (fabric : Fabric) : Works fabric 0 fabric :=
  ⟨rfl, fun _ before => absurd before (Nat.not_lt_zero _)⟩

theorem next (busy : fabric.isIdle = false) (works : Works fabric.tick count after) :
    Works fabric (count + 1) after := by
  refine ⟨works.1, fun earlier before => ?_⟩
  cases earlier with
  | zero => exact busy
  | succ earlier => exact works.2 earlier (Nat.lt_of_succ_lt_succ before)

theorem trans {last : Fabric} {more : Nat} (works : Works fabric count after)
    (goesOn : Works after more last) : Works fabric (count + more) last := by
  obtain ⟨rfl, busy⟩ := works
  refine ⟨(ticks_add ..).trans goesOn.1, fun earlier before => ?_⟩
  by_cases first : earlier < count
  · exact busy earlier first
  · have rest := goesOn.2 (earlier - count) (by omega)
    rw [← ticks_add] at rest
    rwa [Nat.add_sub_cancel' (Nat.le_of_not_lt first)] at rest

/-- What is left of a run when it has come this far. -/
theorem rest {middle : Fabric} {part : Nat} (works : Works fabric count after)
    (first : Works fabric part middle) (le : part ≤ count) : Works middle (count - part) after := by
  obtain ⟨rfl, _⟩ := first
  have split : part + (count - part) = count := Nat.add_sub_cancel' le
  refine ⟨?_, fun earlier before => ?_⟩
  · rw [← ticks_add, split]
    exact works.1
  · rw [← ticks_add]
    exact works.2 (part + earlier) (by omega)

end Works

variable {fabric : Fabric} {lane moved routed held : Lane MasterAgent} {index : Nat}
  {slot granted served after : Slot SlaveAgent} {request : Request} {response : Response}

def during (fabric : Fabric) (cycle : Nat) (lane : Lane MasterAgent) (index : Nat)
    (slot : Slot SlaveAgent) : Fabric :=
  { fabric with cycle, crossbar := solo fabric.crossbar lane index slot }

/-- A lane whose master waits with its request at a slave. In the next cycle it becomes `held`. -/
structure Waits (request : Request) (lane held : Lane MasterAgent) : Prop where
  served : lane.isServed = true
  link : lane.link = .waiting request
  ticks : ∀ cycle, tickLane cycle lane = (held, none)

/-- No slot works, and no slave does anything. -/
def SlotsRest (fabric : Fabric) : Prop :=
  ∀ slot ∈ fabric.crossbar.slots,
    slot.phase = .idle ∧ ∀ cycle, tickSlot cycle slot = (slot, none)

/-- The fabric at a cycle in which its lane is this one, no slot works, and so many more requests
were refused. -/
def between (fabric : Fabric) (cycle : Nat) (lane : Lane MasterAgent) (refused : Nat) : Fabric :=
  { fabric with
    cycle
    crossbar := { fabric.crossbar with
      lanes := [lane]
      decodeErrors := fabric.crossbar.decodeErrors + refused } }

def noting (fabric : Fabric) (fault : Option ProtocolFault) (grants : List Grant) : Fabric :=
  { fabric with
    faults := fabric.faults.appendList fault.toList
    grants := if fabric.recordsGrants then fabric.grants.appendList grants else fabric.grants }

theorem isIdle_during (within : index < fabric.crossbar.slots.length) (busy : slot.phase ≠ .idle)
    (cycle : Nat) (lane : Lane MasterAgent) :
    (fabric.during cycle lane index slot).isIdle = false := by
  have works : (solo fabric.crossbar lane index slot).isIdle = false :=
    List.all_eq_false.mpr ⟨slot, List.mem_set within slot, by simpa using busy⟩
  unfold isIdle during
  rw [works, Bool.and_false, Bool.false_and]

section

variable (rests : fabric.SlotsRest)

include rests

theorem SlotsRest.idle : ∀ slot ∈ fabric.crossbar.slots, slot.phase = .idle :=
  fun slot member => (rests slot member).1

theorem SlotsRest.map (cycle : Nat) :
    fabric.crossbar.slots.map (tickSlot cycle) = fabric.crossbar.slots.map (·, none) :=
  List.map_congr_left fun slot member => (rests slot member).2 cycle

theorem SlotsRest.map_set (cycle : Nat) (ticks : tickSlot cycle granted = (served, none)) :
    (fabric.crossbar.slots.set index granted).map (tickSlot cycle) =
      (fabric.crossbar.slots.set index served).map (·, none) := by
  rw [List.map_set, rests.map cycle, ticks, List.map_set]

theorem tick_during (cycle : Nat) (masters : tickLane cycle lane = (moved, none))
    (routes : (solo fabric.crossbar moved index slot).tick cycle =
      (solo fabric.crossbar routed index granted, []))
    (slaves : tickSlot cycle granted = (served, none)) :
    (fabric.during cycle lane index slot).tick =
      fabric.during (cycle + 1) routed index served := by
  rw [@tick_of_lane (fabric.during cycle lane index slot) lane moved none _ _ _ rfl masters routes
    (rests.map_set cycle slaves)]
  have grants : (if fabric.recordsGrants then fabric.grants.appendList [] else fabric.grants) =
      fabric.grants := ite_self _
  unfold during
  dsimp only
  rw [grants]
  rfl

variable (within : index < fabric.crossbar.slots.length)

include within

/-- The slave has acknowledged: the acknowledge is taken, and handed to the lane. -/
theorem hands_over (waits : Waits request lane held) (stays : Waits request held held)
    (granted : slot.phase = .granted 0) (answered : slot.link = .answered request response)
    (ready : slot.agent.IsReady) (tidy : slot.agent.IsTidy) (cycle : Nat) :
    Works (fabric.during cycle lane index slot) 2
      (fabric.during (cycle + 2)
        { held with link := .answered request response, isServed := false } index
        { slot with phase := .idle, link := .idle }) := by
  have idle := rests.idle
  have still (phase : Crossbar.Phase) (cycle : Nat) :
      tickSlot cycle { slot with phase, link := .idle } =
        ({ slot with phase, link := .idle }, none) :=
    @SlaveAgent.IsReady.still { slot with phase, link := .idle } ready tidy rfl cycle
  have takes := tick_during rests cycle (waits.ticks cycle)
    (Crossbar.tick_solo_take idle within granted answered stays.served cycle) (still _ cycle)
  have delivers := tick_during rests (cycle + 1) (stays.ticks (cycle + 1))
    (@Crossbar.tick_solo_deliver _ _ fabric.crossbar held index
      { slot with phase := .completing 0 response, link := .idle } request response idle within rfl
      stays.link (cycle + 1))
    (still .idle (cycle + 1))
  refine .next (isIdle_during within (by rw [granted]; nofun) cycle lane) ?_
  rw [takes]
  refine .next (isIdle_during within (by nofun) (cycle + 1) held) ?_
  rw [delivers]
  exact .none _

theorem goes_through {count : Nat} (serves : Serves request response slot count after)
    (ready : after.agent.IsReady) (granted : slot.phase = .granted 0)
    (waits : Waits request lane held) (stays : Waits request held held) (cycle : Nat) :
    Works (fabric.during cycle lane index slot) (count + 3)
      (fabric.during (cycle + (count + 3))
        { held with link := .answered request response, isServed := false } index
        { after with phase := .idle, link := .idle }) := by
  have idle := rests.idle
  have tidy := serves.isTidy
  induction serves generalizing cycle lane with
  | @answers slot after asks ticks answered =>
    have phase := (tickSlot_side (ticks cycle)).2.trans granted
    have first := tick_during rests cycle (waits.ticks cycle)
      (Crossbar.tick_solo_wait idle within granted asks stays.served cycle) (ticks cycle)
    refine .next (isIdle_during within (by rw [granted]; nofun) cycle lane) ?_
    rw [first]
    exact hands_over rests within stays stays phase answered ready tidy (cycle + 1)
  | @waits slot next after count asks ticks rest ih =>
    have phase := (tickSlot_side (ticks cycle)).2.trans granted
    have first := tick_during rests cycle (waits.ticks cycle)
      (Crossbar.tick_solo_wait idle within granted asks stays.served cycle) (ticks cycle)
    have cycles : cycle + (count + 1 + 3) = cycle + 1 + (count + 3) := by omega
    rw [Nat.add_right_comm count 1 3] at cycles ⊢
    rw [cycles]
    refine .next (isIdle_during within (by rw [granted]; nofun) cycle lane) ?_
    rw [first]
    exact ih ready phase stays (cycle + 1) tidy

end

section

variable {fault : Option ProtocolFault} (rests : fabric.SlotsRest)
  (busy : fabric.isIdle = false) (alone : fabric.crossbar.lanes = [lane])
  (masters : tickLane fabric.cycle lane = (moved, fault))

include rests busy alone masters

theorem works_quiet (free : moved.link = .idle) :
    Works fabric 1 ((fabric.noting fault []).between (fabric.cycle + 1) moved 0) := by
  have silent : ∀ lane ∈ [moved], lane.wants? = none :=
    List.forall_mem_singleton.mpr (by simp [Lane.wants?, free, Simple.Link.awaiting?])
  have routes := @Crossbar.tick_idle_of_silent _ _ { fabric.crossbar with lanes := [moved] }
    rests.idle silent fabric.cycle
  refine .next busy ?_
  rw [tick_of_lane alone masters routes (rests.map fabric.cycle)]
  exact .none _

variable (wants : moved.wants? = some request)

include wants

theorem works_refused (lost : fabric.crossbar.target? request.address = none) :
    Works fabric 1 ((fabric.noting fault []).between (fabric.cycle + 1)
      { moved with link := .answered request .refused } 1) := by
  have routes := Crossbar.tick_solo_lost rests.idle wants lost fabric.cycle
  refine .next busy ?_
  rw [tick_of_lane alone masters routes (rests.map fabric.cycle)]
  exact .none _

theorem works_served {count : Nat} (target : fabric.crossbar.target? request.address = some index)
    (found : fabric.crossbar.slots[index]? = some slot) (free : slot.link = .idle)
    (holds : ∀ cycle, tickLane cycle moved = (held, none))
    (stays : ∀ cycle, tickLane cycle held = (held, none))
    (serves : Serves request response
      { slot with
        phase := .granted 0
        lastRank := some moved.rank
        link := .waiting request } count after)
    (ready : after.agent.IsReady) :
    Works fabric (count + 3)
      ((fabric.noting fault [⟨fabric.cycle, slot.port, moved.port⟩]).during
        (fabric.cycle + (count + 3)) { held with link := .answered request response } index
        { after with phase := .idle, link := .idle }) := by
  obtain ⟨unserved, waits⟩ := Lane.wants?_eq_some.mp wants
  have within := (List.getElem?_eq_some_iff.mp found).1
  have routes := Crossbar.tick_solo_grant rests.idle wants target found free fabric.cycle
  have holding {before : Lane MasterAgent} (ticks : ∀ cycle, tickLane cycle before = (held, none))
      (link : before.link = .waiting request) :
      Waits request { before with isServed := true } { held with isServed := true } :=
    ⟨rfl, link, fun cycle => by rw [tickLane_serve, ticks]⟩
  have link : held.link = .waiting request := by
    have keeps := tickLane_keeps 0 moved request waits
    rwa [holds] at keeps
  have last : { held with isServed := false } = held := by
    have same := tickLane_isServed 0 moved
    rw [holds] at same
    rw [← same.trans unserved]
  have final := congrArg
    (fun lane : Lane MasterAgent => { lane with link := .answered request response }) last
  have tidy := serves.isTidy
  -- the slave is in its first cycle when the request is granted
  cases serves with
  | answers asks ticks answered =>
    have phase := (tickSlot_side (ticks 0)).2
    refine .next busy ?_
    rw [tick_of_lane alone masters routes (rests.map_set fabric.cycle (ticks fabric.cycle)),
      ← final]
    exact @hands_over (fabric.noting fault [⟨fabric.cycle, slot.port, moved.port⟩]) _ _ _ _ _ _
      rests within (holding holds waits) (holding stays link) phase answered ready tidy
      (fabric.cycle + 1)
  | @waits _ next _ count asks ticks rest =>
    have phase := (tickSlot_side (ticks 0)).2
    have cycles : fabric.cycle + (count + 1 + 3) = fabric.cycle + 1 + (count + 3) := by omega
    rw [Nat.add_right_comm count 1 3] at cycles ⊢
    rw [cycles]
    refine .next busy ?_
    rw [tick_of_lane alone masters routes (rests.map_set fabric.cycle (ticks fabric.cycle)),
      ← final]
    exact @goes_through (fabric.noting fault [⟨fabric.cycle, slot.port, moved.port⟩]) _ _ _ _ _ _ _
      rests within _ rest ready phase (holding holds waits) (holding stays link) (fabric.cycle + 1)

end

end BusFabric.Fabric
