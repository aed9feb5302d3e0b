import Mathlib.Data.List.Count
import Mathlib.Data.List.Nodup
import BusFabric.Proofs.Crossbar.Engagement

set_option autoImplicit false

namespace BusFabric.Crossbar

section Ranks

variable {ports : List PortId} {first second : Nat} {port other : PortId}

/-- Counting by a weaker condition that one more element meets gives more. -/
theorem countP_lt_countP {α : Type} {strong weak : α → Bool} {items : List α} {extra : α}
    (weaker : ∀ item, strong item = true → weak item = true) (member : extra ∈ items)
    (counted : weak extra = true) (uncounted : strong extra = false) :
    items.countP strong < items.countP weak := by
  induction items with
  | nil => cases member
  | cons item items ih =>
    rw [List.countP_cons, List.countP_cons]
    rcases List.mem_cons.mp member with rfl | later
    · have rest := List.countP_mono_left (l := items) fun item _ => weaker item
      simp only [counted, uncounted, if_true, Bool.false_eq_true, if_false]
      omega
    · have rest := ih later
      have here := weaker item
      split
      · rename_i strongly
        rw [if_pos (here strongly)]
        omega
      · omega

/-- Without repeated ports, the rank of a port counts the ports of smaller numbers. -/
theorem ascendingRank_eq (apart : ports.Nodup) (at_ : ports[first]? = some port) :
    ascendingRank ports first port = ports.countP (·.number < port.number) := by
  obtain ⟨within, rfl⟩ := List.getElem?_eq_some_iff.mp at_
  have none : (ports.take first).countP (·.number = ports[first].number) = 0 := by
    rw [List.countP_eq_zero]
    intro other member
    obtain ⟨place, before, rfl⟩ := List.mem_take_iff_getElem.mp member
    intro same
    have equal : ports[place] = ports[first] := congrArg PortId.mk (by simpa using same)
    have := (List.getElem_inj apart).mp equal
    omega
  rw [ascendingRank, none, Nat.add_zero]

theorem ascendingRank_lt (apart : ports.Nodup) (at_ : ports[first]? = some port) :
    ascendingRank ports first port < ports.length := by
  rw [ascendingRank_eq apart at_, List.countP_lt_length_iff]
  exact ⟨port, List.mem_of_getElem? at_, by simp⟩

theorem ascendingRank_strictMono (apart : ports.Nodup) (at_ : ports[first]? = some port)
    (other_at : ports[second]? = some other) (below : port.number < other.number) :
    ascendingRank ports first port < ascendingRank ports second other := by
  rw [ascendingRank_eq apart at_, ascendingRank_eq apart other_at]
  refine countP_lt_countP ?_ (List.mem_of_getElem? at_) (by simpa using below) (by simp)
  intro item smaller
  simp only [decide_eq_true_eq] at smaller ⊢
  omega

theorem rank_lt (tieBreak : TieBreak) (apart : ports.Nodup) (at_ : ports[first]? = some port) :
    rank tieBreak ports first port < ports.length := by
  have bound := ascendingRank_lt apart at_
  cases tieBreak with
  | ascending => exact bound
  | descending =>
    simp only [rank]
    omega

theorem rank_inj (tieBreak : TieBreak) (apart : ports.Nodup) (at_ : ports[first]? = some port)
    (other_at : ports[second]? = some other)
    (same : rank tieBreak ports first port = rank tieBreak ports second other) : port = other := by
  have ranks : ascendingRank ports first port = ascendingRank ports second other := by
    cases tieBreak with
    | ascending => exact same
    | descending =>
      have one := ascendingRank_lt apart at_
      have another := ascendingRank_lt apart other_at
      simp only [rank] at same
      omega
  have numbers : port.number = other.number := by
    rcases Nat.lt_trichotomy port.number other.number with below | equal | above
    · have := ascendingRank_strictMono apart at_ other_at below
      omega
    · exact equal
    · have := ascendingRank_strictMono apart other_at at_ above
      omega
  exact congrArg PortId.mk numbers

end Ranks

theorem first?_isSome {candidates : List Candidate} {member : Candidate}
    (waits : member ∈ candidates) : ∃ least, first? candidates = some least := by
  cases candidates with
  | nil => cases waits
  | cons head rest =>
    unfold first?
    split
    · exact ⟨_, rfl⟩
    · split <;> exact ⟨_, rfl⟩

theorem first?_le {candidates : List Candidate} {least member : Candidate}
    (chosen : first? candidates = some least) (waits : member ∈ candidates) :
    least.rank ≤ member.rank := by
  induction candidates generalizing least with
  | nil => cases waits
  | cons head rest ih =>
    unfold first? at chosen
    split at chosen
    · rename_i alone
      rcases List.mem_cons.mp waits with rfl | later
      · cases chosen
        exact Nat.le_refl _
      · obtain ⟨other, found⟩ := first?_isSome later
        rw [alone] at found
        cases found
    · rename_i other found
      have fromRest : member ∈ rest → other.rank ≤ member.rank := ih found
      rcases List.mem_cons.mp waits with rfl | later
      · split at chosen <;> cases chosen <;> omega
      · have := fromRest later
        split at chosen <;> cases chosen <;> omega

/-- When a rank has its turn in the round that ends with `goal`: the ranks above `goal` come first,
and the ranks below it after them. There are `size` ranks. -/
def turn (size goal rank : Nat) : Nat :=
  if rank < goal then rank + size else rank

/-- While a candidate waits, each choice of another one is later in its round than the choice
before. -/
theorem turn_lt_of_pick {candidates : List Candidate} {last size : Nat}
    {waiting picked : Candidate} (waits : waiting ∈ candidates)
    (chosen : pick candidates (some last) = some picked)
    (passed : picked.rank ≠ waiting.rank) (small : last < size) :
    turn size waiting.rank last < turn size waiting.rank picked.rank := by
  simp only [pick, Option.or_eq_some_iff] at chosen
  unfold turn
  rcases chosen with above | ⟨none, least⟩
  · have rises : last < picked.rank := by
      simpa using (List.mem_filter.mp (mem_of_first? above)).2
    by_cases ahead : last < waiting.rank
    · -- The waiting candidate is above the last grant too, and the choice comes before it.
      have before := first?_le above (List.mem_filter.mpr ⟨waits, by simpa using ahead⟩)
      rw [if_pos ahead, if_pos (by omega)]
      omega
    · rw [if_neg ahead, if_neg (by omega)]
      exact rises
  · -- The turns start over, so the waiting candidate is not above the last grant.
    have behind : ¬ last < waiting.rank := by
      intro ahead
      have listed : waiting ∈ candidates.filter (last < ·.rank) :=
        List.mem_filter.mpr ⟨waits, by simpa using ahead⟩
      obtain ⟨other, found⟩ := first?_isSome listed
      rw [none] at found
      cases found
    have before := first?_le least waits
    rw [if_neg behind, if_pos (by omega)]
    omega

end BusFabric.Crossbar
