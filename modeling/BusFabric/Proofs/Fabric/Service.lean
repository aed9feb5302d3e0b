import BusFabric.Fabric.Tick

set_option autoImplicit false

namespace BusFabric.Fabric

open Crossbar (Slot)
open Simple (Request Response)

/-- The slave waits `count` cycles with a request and acknowledges it in the next one. -/
inductive Serves (request : Request) (response : Response) :
    Slot SlaveAgent → Nat → Slot SlaveAgent → Prop where
  | answers {slot after : Slot SlaveAgent} (waits : slot.link = .waiting request)
      (ticks : ∀ cycle, tickSlot cycle slot = (after, none))
      (answered : after.link = .answered request response) :
      Serves request response slot 0 after
  | waits {slot next after : Slot SlaveAgent} {count : Nat} (waits : slot.link = .waiting request)
      (ticks : ∀ cycle, tickSlot cycle slot = (next, none))
      (rest : Serves request response next count after) :
      Serves request response slot (count + 1) after

namespace Serves

variable {request : Request} {response : Response} {slot after : Slot SlaveAgent} {count : Nat}

theorem waiting (serves : Serves request response slot count after) :
    slot.link = .waiting request := by
  cases serves with
  | answers waits _ _ => exact waits
  | waits waits _ _ => exact waits

theorem answered (serves : Serves request response slot count after) :
    after.link = .answered request response := by
  induction serves with
  | answers _ _ answered => exact answered
  | waits _ _ _ ih => exact ih

theorem unique {other : Response} {last : Slot SlaveAgent} {more : Nat}
    (serves : Serves request response slot count after)
    (again : Serves request other slot more last) : response = other ∧ after = last := by
  induction serves generalizing more with
  | answers _ ticks answered =>
    cases again with
    | answers _ ticks' answered' =>
      obtain rfl := congrArg Prod.fst ((ticks 0).symm.trans (ticks' 0))
      cases answered.symm.trans answered'
      exact ⟨rfl, rfl⟩
    | waits _ ticks' rest =>
      obtain rfl := congrArg Prod.fst ((ticks 0).symm.trans (ticks' 0))
      cases answered.symm.trans rest.waiting
  | waits _ ticks rest ih =>
    cases again with
    | answers _ ticks' answered' =>
      obtain rfl := congrArg Prod.fst ((ticks 0).symm.trans (ticks' 0))
      cases answered'.symm.trans rest.waiting
    | waits _ ticks' rest' =>
      obtain rfl := congrArg Prod.fst ((ticks 0).symm.trans (ticks' 0))
      exact ih rest'

theorem tickSlot_frame (cycle : Nat) (slot : Slot SlaveAgent) :
    (tickSlot cycle slot).1 =
      { slot with
        agent := (tickSlot cycle slot).1.agent
        link := (tickSlot cycle slot).1.link } := by
  unfold tickSlot
  split <;> rfl

/-- What comes of the request is the slave's. -/
theorem frame (serves : Serves request response slot count after) :
    after = { slot with agent := after.agent, link := .answered request response } := by
  rw [← serves.answered]
  induction serves with
  | @answers slot after _ ticks _ =>
    have same := tickSlot_frame 0 slot
    rw [ticks] at same
    exact same
  | @waits slot next after _ _ ticks _ ih =>
    have same := tickSlot_frame 0 slot
    rw [ticks] at same
    dsimp only at same
    rw [ih, same]

end Serves

/-- A slave leaves the crossbar's side of its slot alone. -/
theorem tickSlot_side {slot served : Slot SlaveAgent} {cycle : Nat} {fault : Option ProtocolFault}
    (ticks : tickSlot cycle slot = (served, fault)) :
    served.port = slot.port ∧ served.phase = slot.phase := by
  have frame := Serves.tickSlot_frame cycle slot
  rw [ticks] at frame
  dsimp only at frame
  rw [frame]
  exact ⟨rfl, rfl⟩

end BusFabric.Fabric
