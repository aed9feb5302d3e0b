import BusFabric.Fabric.Run
import BusFabric.Proofs.Fabric.Play

set_option autoImplicit false

namespace BusFabric.Fabric

/-- The loop "while the fabric is not idle and its cycle is below the limit, tick" ends after
`count` cycles in the state `final`. An idle fabric at its limit counts as idle. -/
inductive LoopEnds (limit : Option Nat) : Nat → Fabric → Fabric → RunEnd → Prop
  | idle {fabric : Fabric} (idle : fabric.isIdle = true) : LoopEnds limit 0 fabric fabric .idle
  | cycleLimit {fabric : Fabric} {cycles : Nat} (busy : fabric.isIdle = false)
      (limited : limit = some cycles) (reached : cycles ≤ fabric.cycle) :
      LoopEnds limit 0 fabric fabric .cycleLimit
  | tick {fabric final : Fabric} {reason : RunEnd} {count : Nat} (busy : fabric.isIdle = false)
      (below : ∀ cycles, limit = some cycles → fabric.cycle < cycles)
      (rest : LoopEnds limit count fabric.tick final reason) :
      LoopEnds limit (count + 1) fabric final reason

inductive EndsAfter (limits : Limits) : Nat → Fabric → Fabric → RunEnd → Prop
  | idle {fabric final : Fabric} (last : fabric.runQuantum limits = (final, .idle)) :
      EndsAfter limits 1 fabric final .idle
  | cycleLimit {fabric final : Fabric} (last : fabric.runQuantum limits = (final, .cycleLimit)) :
      EndsAfter limits 1 fabric final .cycleLimit
  | unfinished {fabric next final : Fabric} {reason : RunEnd} {quanta : Nat}
      (first : fabric.runQuantum limits = (next, .unfinished))
      (rest : EndsAfter limits quanta next final reason) :
      EndsAfter limits (quanta + 1) fabric final reason

variable {limits : Limits} {fabric final : Fabric} {reason : RunEnd} {count quanta : Nat}

def RunEnd.quantumEnd : RunEnd → QuantumEnd
  | idle => .idle
  | cycleLimit => .cycleLimit
  | timeout => .unfinished

theorem RunEnd.quantumEnd_injective {first second : RunEnd}
    (same : first.quantumEnd = second.quantumEnd) : first = second := by
  cases first <;> cases second <;> first | rfl | cases same

theorem EndsAfter.run_eq (ends : EndsAfter limits quanta fabric final reason)
    (timed : limits.milliseconds ≠ some 0) : fabric.run limits = (final, reason) := by
  induction ends with
  | idle last => rw [run, if_neg timed, last]
  | cycleLimit last => rw [run, if_neg timed, last]
  | unfinished first rest ih => rw [run, if_neg timed, first, ← ih]

theorem EndsAfter.of_quantum (last : fabric.runQuantum limits = (final, reason.quantumEnd))
    (ended : reason ≠ .timeout) : EndsAfter limits 1 fabric final reason := by
  cases reason with
  | idle => exact .idle last
  | cycleLimit => exact .cycleLimit last
  | timeout => exact absurd rfl ended

theorem stop?_of_idle (idle : fabric.isIdle = true) : limits.stop? fabric = some .idle := by
  simp [Limits.stop?, idle]

theorem stop?_of_reached {cycles : Nat} (busy : fabric.isIdle = false)
    (limited : limits.cycles = some cycles) (reached : cycles ≤ fabric.cycle) :
    limits.stop? fabric = some .cycleLimit := by
  simp [Limits.stop?, Limits.reached, busy, limited, reached]

theorem stop?_of_below (busy : fabric.isIdle = false)
    (below : ∀ cycles, limits.cycles = some cycles → fabric.cycle < cycles) :
    limits.stop? fabric = none := by
  have open_ : limits.reached fabric = false := by
    unfold Limits.reached
    cases limited : limits.cycles with
    | none => rfl
    | some cycles =>
      have room := below cycles limited
      simp only [Option.any_some, decide_eq_false_iff_not]
      omega
  simp [Limits.stop?, busy, open_]

namespace LoopEnds

theorem ne_timeout {limit : Option Nat} (ends : LoopEnds limit count fabric final reason) :
    reason ≠ .timeout := by
  induction ends with
  | idle | cycleLimit => nofun
  | tick _ _ _ ih => exact ih

theorem runFor_of_le (ends : LoopEnds limits.cycles count fabric final reason) {budget : Nat}
    (enough : count ≤ budget) : runFor limits budget fabric = (final, reason.quantumEnd) := by
  induction ends generalizing budget with
  | idle idle =>
    cases budget <;> simp [runFor, stop?_of_idle idle, RunEnd.quantumEnd]
  | cycleLimit busy limited reached =>
    cases budget <;> simp [runFor, stop?_of_reached busy limited reached, RunEnd.quantumEnd]
  | tick busy below _ ih =>
    obtain ⟨rest, rfl⟩ : ∃ rest, budget = rest + 1 := ⟨budget - 1, by omega⟩
    simpa only [runFor, stop?_of_below busy below] using ih (by omega)

theorem runFor_of_lt (ends : LoopEnds limits.cycles count fabric final reason) {budget : Nat}
    (short : budget < count) :
    ∃ next, runFor limits budget fabric = (next, .unfinished) ∧
      LoopEnds limits.cycles (count - budget) next final reason := by
  induction ends generalizing budget with
  | idle | cycleLimit => omega
  | tick busy below rest ih =>
    have goes := stop?_of_below busy below
    cases budget with
    | zero => exact ⟨_, by simp [runFor, goes], .tick busy below rest⟩
    | succ budget =>
      obtain ⟨next, used, later⟩ := ih (by omega : budget < _)
      refine ⟨next, ?_, ?_⟩
      · simpa only [runFor, goes] using used
      · rwa [Nat.add_sub_add_right]

/-- The loop in terms of quanta: so many are needed that their cycles cover those of the loop, and
at least one. -/
theorem endsAfter {fabric : Fabric} (ends : LoopEnds limits.cycles count fabric final reason) :
    EndsAfter limits ((count - 1) / max limits.quantum 1 + 1) fabric final reason := by
  -- by the cycles that are left, a quantum at a time
  induction count using Nat.strongRecOn generalizing fabric with
  | ind count ih =>
    have positive : 0 < max limits.quantum 1 := by omega
    by_cases within : count ≤ max limits.quantum 1
    · have once : (count - 1) / max limits.quantum 1 = 0 := Nat.div_eq_of_lt (by omega)
      rw [once]
      exact .of_quantum (ends.runFor_of_le within) ends.ne_timeout
    · obtain ⟨next, used, later⟩ := ends.runFor_of_lt (Nat.lt_of_not_le within)
      have fewer : (count - 1) / max limits.quantum 1 =
          (count - max limits.quantum 1 - 1) / max limits.quantum 1 + 1 := by
        rw [← Nat.add_div_right _ positive]
        congr 1
        omega
      rw [fewer]
      exact .unfinished used (ih _ (by omega) later)

/-- What the loop leaves behind: no cycle was run in an idle fabric, nor at or past the limit. -/
structure Stopped (limit : Option Nat) (count : Nat) (fabric final : Fabric) (reason : RunEnd) :
    Prop where
  reached : final = fabric.ticks count
  busy : ∀ earlier < count, (fabric.ticks earlier).isIdle = false
  below : ∀ earlier < count, ∀ cycles, limit = some cycles → (fabric.ticks earlier).cycle < cycles
  idle : reason = .idle ↔ final.isIdle = true
  cycleLimit : reason = .cycleLimit ↔
    final.isIdle = false ∧ ∃ cycles, limit = some cycles ∧ cycles ≤ final.cycle

theorem stopped {limit : Option Nat} (ends : LoopEnds limit count fabric final reason) :
    Stopped limit count fabric final reason := by
  induction ends with
  | idle idle => exact ⟨rfl, nofun, nofun, by simp [idle], by simp [idle]⟩
  | cycleLimit busy limited reached =>
    exact ⟨rfl, nofun, nofun, by simp [busy], by simp [busy, limited, reached]⟩
  | tick busy below _ ih =>
    refine ⟨ih.reached, ?_, ?_, ih.idle, ih.cycleLimit⟩
    · intro earlier before
      cases earlier with
      | zero => exact busy
      | succ earlier => exact ih.busy earlier (by omega)
    · intro earlier before
      cases earlier with
      | zero => exact below
      | succ earlier => exact ih.below earlier (by omega)

/-- The loop stops here, or goes on by a cycle. -/
theorem now_or_later (limit : Option Nat) (fabric : Fabric) :
    (∃ reason, LoopEnds limit 0 fabric fabric reason) ∨
      fabric.isIdle = false ∧ ∀ cycles, limit = some cycles → fabric.cycle < cycles := by
  cases idle : fabric.isIdle with
  | true => exact .inl ⟨.idle, .idle idle⟩
  | false =>
    by_cases reached : ∃ cycles, limit = some cycles ∧ cycles ≤ fabric.cycle
    · obtain ⟨cycles, limited, past⟩ := reached
      exact .inl ⟨.cycleLimit, .cycleLimit idle limited past⟩
    · refine .inr ⟨rfl, fun cycles limited => Nat.lt_of_not_le fun past => ?_⟩
      exact reached ⟨cycles, limited, past⟩

theorem of_limit (cycles : Nat) (fabric : Fabric) :
    ∃ count final reason, LoopEnds (some cycles) count fabric final reason := by
  induction left : cycles - fabric.cycle generalizing fabric with
  | zero =>
    rcases now_or_later (some cycles) fabric with ⟨reason, here⟩ | ⟨_, below⟩
    · exact ⟨0, fabric, reason, here⟩
    · have room := below cycles rfl
      omega
  | succ left ih =>
    rcases now_or_later (some cycles) fabric with ⟨reason, here⟩ | ⟨busy, below⟩
    · exact ⟨0, fabric, reason, here⟩
    · have next : fabric.tick.cycle = fabric.cycle + 1 := rfl
      obtain ⟨count, final, reason, rest⟩ := ih fabric.tick (by omega)
      exact ⟨count + 1, final, reason, .tick busy below rest⟩

theorem runFor_cases (limits : Limits) (budget : Nat) (fabric : Fabric) :
    (∃ count final reason, LoopEnds limits.cycles count fabric final reason ∧
        runFor limits budget fabric = (final, reason.quantumEnd)) ∨
      ∃ next, runFor limits budget fabric = (next, .unfinished) ∧
        ∀ count final reason, LoopEnds limits.cycles count next final reason →
          LoopEnds limits.cycles (count + budget) fabric final reason := by
  induction budget generalizing fabric with
  | zero =>
    rcases now_or_later limits.cycles fabric with ⟨reason, here⟩ | ⟨busy, below⟩
    · exact .inl ⟨0, fabric, reason, here, here.runFor_of_le (Nat.le_refl 0)⟩
    · exact .inr ⟨fabric, by simp [runFor, stop?_of_below busy below], fun _ _ _ ends => ends⟩
  | succ budget ih =>
    rcases now_or_later limits.cycles fabric with ⟨reason, here⟩ | ⟨busy, below⟩
    · exact .inl ⟨0, fabric, reason, here, here.runFor_of_le (Nat.zero_le _)⟩
    · have cycle : runFor limits (budget + 1) fabric = runFor limits budget fabric.tick := by
        simp only [runFor, stop?_of_below busy below]
      rw [cycle]
      rcases ih fabric.tick with ⟨count, final, reason, ends, runs⟩ | ⟨next, runs, goesOn⟩
      · exact .inl ⟨count + 1, final, reason, .tick busy below ends, runs⟩
      · refine .inr ⟨next, runs, fun count final reason ends => ?_⟩
        exact .tick busy below (goesOn count final reason ends)

variable {next : Fabric}

theorem of_quantum (runs : fabric.runQuantum limits = (final, reason.quantumEnd))
    (ended : reason ≠ .timeout) : ∃ count, LoopEnds limits.cycles count fabric final reason := by
  unfold runQuantum at runs
  rcases runFor_cases limits (max limits.quantum 1) fabric with
    ⟨count, there, cause, ends, stops⟩ | ⟨next, stops, _⟩
  · obtain ⟨rfl, same⟩ := Prod.mk.inj (stops.symm.trans runs)
    obtain rfl : cause = reason := RunEnd.quantumEnd_injective same
    exact ⟨count, ends⟩
  · obtain ⟨_, same⟩ := Prod.mk.inj (stops.symm.trans runs)
    exact absurd (@RunEnd.quantumEnd_injective .timeout reason same).symm ended

theorem through_quantum (used : fabric.runQuantum limits = (next, .unfinished))
    (ends : LoopEnds limits.cycles count next final reason) :
    LoopEnds limits.cycles (count + max limits.quantum 1) fabric final reason := by
  unfold runQuantum at used
  rcases runFor_cases limits (max limits.quantum 1) fabric with
    ⟨_, _, cause, stopped, stops⟩ | ⟨there, stops, goesOn⟩
  · obtain ⟨_, same⟩ := Prod.mk.inj (stops.symm.trans used)
    exact absurd (@RunEnd.quantumEnd_injective cause .timeout same) stopped.ne_timeout
  · obtain ⟨rfl, _⟩ := Prod.mk.inj (stops.symm.trans used)
    exact goesOn count final reason ends

end LoopEnds

theorem EndsAfter.exists_loopEnds (ends : EndsAfter limits quanta fabric final reason) :
    ∃ count, LoopEnds limits.cycles count fabric final reason := by
  induction ends with
  | idle last => exact @LoopEnds.of_quantum _ _ _ .idle last nofun
  | cycleLimit last => exact @LoopEnds.of_quantum _ _ _ .cycleLimit last nofun
  | unfinished first _ ih =>
    obtain ⟨count, ends⟩ := ih
    exact ⟨_, ends.through_quantum first⟩

/-- The quantum is of no consequence: a run without a time limit ends if and only if the loop that
looks at the fabric before every cycle ends, and then it ends in the same state and for the same
reason. That loop runs no cycle in an idle fabric, nor at or past the cycle limit, and an idle
fabric at its limit counts as idle. Only the number of quanta depends on their size. -/
theorem quantum_is_of_no_consequence (fabric : Fabric) (cycles : Option Nat) :
    (∀ quantum final reason,
      (∃ quanta, EndsAfter ⟨cycles, none, quantum⟩ quanta fabric final reason) ↔
        ∃ count, LoopEnds cycles count fabric final reason) ∧
    (∀ count final reason, LoopEnds cycles count fabric final reason →
      LoopEnds.Stopped cycles count fabric final reason ∧
      ∀ quantum,
        EndsAfter ⟨cycles, none, quantum⟩ ((count - 1) / max quantum 1 + 1) fabric final reason ∧
        fabric.run ⟨cycles, none, quantum⟩ = (final, reason)) ∧
    (cycles ≠ none → ∃ count final reason, LoopEnds cycles count fabric final reason) := by
  refine ⟨fun quantum final reason => ⟨?_, ?_⟩, fun count final reason ends => ?_, fun limited => ?_⟩
  · rintro ⟨quanta, ends⟩
    exact ends.exists_loopEnds
  · rintro ⟨count, ends⟩
    exact ⟨_, ends.endsAfter⟩
  · refine ⟨ends.stopped, fun quantum => ?_⟩
    have runs : EndsAfter ⟨cycles, none, quantum⟩ ((count - 1) / max quantum 1 + 1) fabric final
      reason := ends.endsAfter
    exact ⟨runs, runs.run_eq nofun⟩
  · obtain ⟨limit, rfl⟩ := Option.ne_none_iff_exists'.mp limited
    exact LoopEnds.of_limit limit fabric

end BusFabric.Fabric
