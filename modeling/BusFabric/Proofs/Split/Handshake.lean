import BusFabric.Split.Link

set_option autoImplicit false

namespace BusFabric.Split

namespace Channel

variable {α : Type}

def driven? (before after : Channel α) : Option α :=
  if before.isReady then after.beat else none

def taken? (before after : Channel α) : Option α :=
  if after.isReady then before.beat else none

@[simp] theorem driven?_self (channel : Channel α) : channel.driven? channel = none := by
  obtain ⟨_ | _⟩ := channel <;> rfl

@[simp] theorem taken?_self (channel : Channel α) : channel.taken? channel = none := by
  obtain ⟨_ | _⟩ := channel <;> rfl

theorem driven?_send {channel sent : Channel α} {beat : α}
    (sends : channel.send? beat = some sent) : channel.driven? sent = some beat := by
  obtain ⟨_ | held⟩ := channel
  · cases sends
    rfl
  · cases sends

@[simp] theorem taken?_clear (channel : Channel α) :
    channel.taken? channel.clear = channel.beat := rfl

/-- What is owed to a channel is driven or goes on being owed. -/
theorem driven?_settle (channel : Channel α) (owed : Option α) :
    (channel.driven? (channel.settle owed).1).toList ++ (channel.settle owed).2.toList =
      owed.toList := by
  cases owed with
  | none => simp [settle]
  | some beat => obtain ⟨_ | held⟩ := channel <;> rfl

theorem driven?_trans {first second third : Channel α}
    (apart : first = second ∨ second = third) :
    (first.driven? third).toList =
      (first.driven? second).toList ++ (second.driven? third).toList := by
  rcases apart with rfl | rfl
  · simp
  · simp

theorem taken?_trans {first second third : Channel α}
    (apart : first = second ∨ second = third) :
    (first.taken? third).toList = (first.taken? second).toList ++ (second.taken? third).toList := by
  rcases apart with rfl | rfl
  · simp
  · simp

/-- What was sent into a channel lies in it behind what lay in it. -/
theorem driven?_getD_send (channel : Channel α) (beat : α) :
    ((channel.send? beat).getD channel).beat.toList =
      channel.beat.toList ++ (channel.driven? ((channel.send? beat).getD channel)).toList := by
  obtain ⟨_ | held⟩ := channel <;> rfl

theorem driven?_of_sender {before after : Channel α}
    (sends : after = before ∨ before.beat = none) :
    before.beat.toList ++ (before.driven? after).toList = after.beat.toList := by
  rcases sends with rfl | free
  · simp
  · unfold driven? isReady
    rw [free]
    rfl

theorem taken?_of_receiver {before after : Channel α}
    (receives : after = before ∨ after.beat = none) :
    before.beat.toList = (before.taken? after).toList ++ after.beat.toList ∧
      before.driven? after = none := by
  rcases receives with rfl | none_
  · simp
  · obtain rfl : after = ⟨none⟩ := by
      cases after
      dsimp only at none_
      rw [none_]
    obtain ⟨_ | held⟩ := before <;> exact ⟨rfl, rfl⟩

end Channel

end BusFabric.Split
