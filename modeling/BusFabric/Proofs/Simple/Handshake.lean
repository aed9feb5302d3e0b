import BusFabric.Simple.Master

set_option autoImplicit false

namespace BusFabric.Simple

namespace Link

/-- The request that came up between two states of a link. -/
def raised? (before after : Link) : Option Request :=
  match before.awaiting? with
  | none => after.awaiting?
  | some _ => none

/-- The request that was acknowledged between two states of a link, with its acknowledge. -/
def acknowledged? (before after : Link) : Option (Request × Response) :=
  match before.awaiting?, after.response? with
  | some request, some response => some (request, response)
  | _, _ => none

def Keeps (before after : Link) : Prop :=
  ∀ request, before = waiting request → after = waiting request

/-- Nothing happens to a link except that a waiting request may be acknowledged. -/
inductive MayAcknowledge (before : Link) : Link → Prop
  | same : MayAcknowledge before before
  | acknowledged {request : Request} (response : Response) (waits : before = waiting request) :
      MayAcknowledge before (answered request response)

/-- What a master does to its link in a cycle: it takes the acknowledge, if there is one, and may
raise a request after that. -/
inductive MayRaise (before : Link) : Link → Prop
  | seen : MayRaise before before.completed
  | raised {after : Link} {request : Request}
      (issued : before.completed.issue? request = some after) : MayRaise before after

@[simp] theorem raised?_self (link : Link) : link.raised? link = none := by
  cases link <;> rfl

@[simp] theorem raised?_completed (link : Link) : link.raised? link.completed = none := by
  cases link <;> rfl

@[simp] theorem acknowledged?_self (link : Link) : link.acknowledged? link = none := by
  cases link <;> rfl

theorem Keeps.refl (link : Link) : Keeps link link := fun _ waits => waits

theorem Keeps.trans {first second third : Link} (before : Keeps first second)
    (after : Keeps second third) : Keeps first third :=
  fun request waits => after request (before request waits)

theorem completed_keeps (link : Link) : Keeps link link.completed := by
  rintro request rfl
  rfl

theorem issue?_keeps {before after : Link} {request : Request}
    (issued : before.issue? request = some after) : Keeps before after := by
  rintro held rfl
  cases issued

/-- A master holds its request until it has seen the acknowledge. -/
theorem MayRaise.keeps {before after : Link} (raises : MayRaise before after) :
    Keeps before after := by
  cases raises with
  | seen => exact completed_keeps before
  | raised issued => exact (completed_keeps before).trans (issue?_keeps issued)

/-- A master leaves no acknowledge behind that it has not seen. -/
theorem MayRaise.unanswered {before after : Link} (raises : MayRaise before after) :
    after.response? = none := by
  cases raises with
  | seen => cases before <;> rfl
  | raised issued => cases before <;> cases issued <;> rfl

/-- A request that cannot be raised leaves the link as it is. -/
theorem issue?_getD_keeps (link : Link) (request : Request) :
    Keeps link ((link.issue? request).getD link) := by
  rintro held rfl
  rfl

theorem acknowledge_mayAcknowledge (link : Link) (response : Response) :
    MayAcknowledge link (link.acknowledge response) := by
  cases link with
  | idle => exact .same
  | waiting request => exact .acknowledged response rfl
  | answered request given => exact .same

/-- A master holds its request until it has seen the acknowledge. -/
theorem request?_acknowledge (link : Link) (response : Response) :
    (link.acknowledge response).request? = link.request? := by
  cases link <;> rfl

theorem Keeps.acknowledged?_eq_none {before after : Link} (keeps : Keeps before after) :
    before.acknowledged? after = none := by
  cases before with
  | idle | answered _ _ => rfl
  | waiting request =>
    rw [keeps request rfl]
    rfl

theorem MayAcknowledge.raised?_eq_none {before after : Link}
    (served : MayAcknowledge before after) : before.raised? after = none := by
  cases served with
  | same => exact raised?_self before
  | acknowledged response waits =>
    rw [waits]
    rfl

theorem MayAcknowledge.eq_of_awaiting? {before after : Link}
    (served : MayAcknowledge before after) (settled : before.awaiting? = none) :
    after = before := by
  cases served with
  | same => rfl
  | acknowledged response waits =>
    rw [waits] at settled
    cases settled

end Link

namespace Master

theorem observe_link (master : Master) (link : Link) (cycle : Nat) :
    (master.observe link cycle).2 = link.completed := by
  unfold observe
  split <;> rfl

theorem tick_mayRaise (master : Master) (link : Link) (cycle : Nat) :
    Link.MayRaise link (master.tick link cycle).2 := by
  have seen := master.observe_link link cycle
  unfold tick raise
  dsimp only
  rw [seen]
  split
  · split
    · rename_i issued
      exact .raised issued
    · exact .seen
  · exact .seen

end Master

end BusFabric.Simple
