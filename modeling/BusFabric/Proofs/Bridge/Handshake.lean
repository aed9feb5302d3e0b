import BusFabric.Bridge.Inbound
import BusFabric.Bridge.Outbound
import BusFabric.Device.Endpoint
import BusFabric.Proofs.Simple.Handshake

set_option autoImplicit false

namespace BusFabric

open Simple (Link)

namespace Bridge.Inbound.Junction

theorem collect_simple (junction : Junction) :
    junction.collect.simple = junction.simple.completed := by
  unfold collect
  cases link : junction.simple with
  | idle => exact link
  | waiting request => exact link
  | answered request response => rfl

@[simp] theorem acceptAddress_simple (junction : Junction) :
    junction.acceptAddress.1.simple = junction.simple := by
  unfold acceptAddress
  dsimp only
  split
  · rfl
  · split <;> rfl

theorem prepare_simple {before after : Junction} (prepared : before.prepare = .ok after) :
    after.simple = before.simple := by
  unfold prepare at prepared
  split at prepared
  · split at prepared
    · cases prepared
      rfl
    · split at prepared
      · split at prepared
        · cases prepared
          rfl
        · rename_i transfer _ _ _ _ beat _
          cases planned : before.bridge.nextWrite transfer beat with
          | error kind => simp [planned, Except.map] at prepared
          | ok pending =>
            simp only [planned, Except.map, Except.ok.injEq] at prepared
            rw [← prepared]
      · split at prepared <;> cases prepared <;> rfl
  · cases prepared
    rfl

theorem issue_simple (junction : Junction) : junction.issue.simple = junction.simple ∨
    ∃ request, junction.simple.issue? request = some junction.issue.simple := by
  unfold issue
  split
  · exact .inl rfl
  · split
    · exact .inl rfl
    · split
      · exact .inl rfl
      · rename_i issued
        exact .inr ⟨_, issued⟩

/-- A bridge goes on by raising a request, if it does anything to its link. -/
theorem advance_simple (junction : Junction) :
    junction.advance.1.simple = junction.simple ∨
      ∃ request, junction.simple.issue? request = some junction.advance.1.simple := by
  unfold advance
  cases prepared : junction.prepare with
  | error kind => exact .inl rfl
  | ok next =>
    rw [← prepare_simple prepared]
    exact next.issue_simple

theorem step_mayRaise (junction : Junction) :
    Link.MayRaise junction.simple junction.step.1.simple := by
  -- the acknowledge is taken before anything else is done
  have goesOn {next : Junction} (seen : next.simple = junction.simple.completed) :
      Link.MayRaise junction.simple next.advance.1.simple := by
    rcases next.advance_simple with same | ⟨request, issued⟩
    · rw [same, seen]
      exact .seen
    · rw [seen] at issued
      exact .raised issued
  have collected : junction.flush.collect.simple = junction.simple.completed := collect_simple _
  simp only [step]
  split
  · split
    · rw [acceptAddress_simple, collected]
      exact .seen
    · exact goesOn (by rw [acceptAddress_simple, collected])
  · split
    · rw [collected]
      exact .seen
    · exact goesOn collected

theorem tick_mayRaise (junction : Junction) (cycle : Nat) :
    Link.MayRaise junction.simple (junction.tick cycle).1.simple := by
  unfold tick
  split
  · have drained : junction.drain.simple = junction.simple.completed := by
      unfold drain
      cases link : junction.simple with
      | idle | waiting _ => exact link
      | answered _ _ => rfl
    rw [drained]
    exact .seen
  · exact step_mayRaise junction

end Bridge.Inbound.Junction

namespace Bridge.Outbound.Junction

@[simp] theorem accept_simple (junction : Junction) : junction.accept.simple = junction.simple := by
  unfold accept
  split <;> rfl

theorem halt_mayAcknowledge (junction : Junction) :
    Link.MayAcknowledge junction.simple junction.halt.simple :=
  Link.acknowledge_mayAcknowledge _ _

theorem advanceWrite_mayAcknowledge (junction : Junction) (carrier : Carrier) :
    Link.MayAcknowledge junction.simple (junction.advanceWrite carrier).simple := by
  simp only [advanceWrite]
  split
  · split
    · exact Link.acknowledge_mayAcknowledge _ _
    · exact .same
  · exact .same

theorem advanceRead_mayAcknowledge (junction : Junction) (carrier : Carrier) :
    Link.MayAcknowledge junction.simple (junction.advanceRead carrier).1.simple := by
  simp only [advanceRead]
  split
  · exact .same
  · split
    · exact .same
    · split
      · exact Link.acknowledge_mayAcknowledge _ _
      · split
        · exact Link.acknowledge_mayAcknowledge _ _
        · exact .same

theorem step_mayAcknowledge (junction : Junction) :
    Link.MayAcknowledge junction.simple junction.step.1.simple := by
  unfold step
  split
  · exact halt_mayAcknowledge junction
  · rw [← accept_simple junction]
    dsimp only
    split
    · exact .same
    · rename_i carrier _
      split
      · exact advanceWrite_mayAcknowledge
          { junction.accept with split := (carrier.sendAddress junction.accept.split).2 } _
      · exact advanceRead_mayAcknowledge
          { junction.accept with split := (carrier.sendAddress junction.accept.split).2 } _

/-- All that the bridge does to its simple link is to acknowledge the request that waits. -/
theorem tick_mayAcknowledge (junction : Junction) (cycle : Nat) :
    Link.MayAcknowledge junction.simple (junction.tick cycle).1.simple := by
  unfold tick
  split
  · exact Link.acknowledge_mayAcknowledge _ _
  · exact step_mayAcknowledge junction

end Bridge.Outbound.Junction

namespace Device.Endpoint

/-- All that a device does to its link is to acknowledge the request that waits. -/
theorem tick_mayAcknowledge (endpoint : Endpoint) (link : Link) :
    Link.MayAcknowledge link (endpoint.tick link).2 := by
  unfold tick
  split
  · exact .same
  · split
    · exact .same
    · exact Link.acknowledge_mayAcknowledge _ _

end Device.Endpoint

end BusFabric
