import BusFabric.Proofs.Bridge.InboundCycles
import BusFabric.Split.Master
import Mathlib.Algebra.Group.Nat.Defs

set_option autoImplicit false

namespace BusFabric

open Split (AddressBeat Op WriteBeat)

namespace Split

/-- A burst that a port of this protocol carries on a bus of `busBytes` bytes. -/
structure AddressBeat.Suits (burst : AddressBeat) (protocol : Protocol) (busBytes : Nat) :
    Prop where
  size : 2 ^ burst.size.toNat ≤ busBytes
  wrap : burst.mode = .wrap → burst.beats ∈ [2, 4, 8, 16]
  single : protocol = .wideSplitLite → burst.beats = 1

/-- A write has as many data beats as its address announces. -/
def Op.IsWhole : Op → Prop
  | .write burst beats => beats.length = burst.beats
  | .read _ => True

/-- An operation that suits its port. Where last-beat marks are looked at, the last data beat of a
write is marked and no other one. -/
def Op.IsLegal (protocol : Protocol) (busBytes : Nat) : Op → Prop
  | .write burst beats =>
    burst.Suits protocol busBytes ∧ beats.length = burst.beats ∧
      (protocol ≠ .wideSplitLite → ∀ (index : Nat) (beat : WriteBeat),
        beats[index]? = some beat → beat.last = decide (index + 1 = burst.beats))
  | .read burst => burst.Suits protocol busBytes

theorem Op.IsLegal.isWhole {protocol : Protocol} {busBytes : Nat} {op : Op}
    (legal : op.IsLegal protocol busBytes) : op.IsWhole := by
  cases op with
  | write burst beats => exact legal.2.1
  | read burst => trivial

end Split

namespace Bridge

theorem length_groupByWord_le (simpleBytes : Nat) (pairs : List (Address × Nat)) :
    (groupByWord simpleBytes pairs).length ≤ pairs.length := by
  induction pairs with
  | nil => exact Nat.le_refl 0
  | cons pair rest ih =>
    obtain ⟨address, split⟩ := pair
    unfold groupByWord
    dsimp only
    split
    · exact Nat.succ_le_succ (Nat.zero_le _)
    · rename_i next others grouped
      rw [grouped] at ih
      split
      · exact Nat.le_succ_of_le ih
      · exact Nat.succ_le_succ ih

theorem groupByWord_ne_nil (simpleBytes : Nat) {pairs : List (Address × Nat)}
    (some_ : pairs ≠ []) : groupByWord simpleBytes pairs ≠ [] := by
  cases pairs with
  | nil => exact absurd rfl some_
  | cons pair rest =>
    obtain ⟨address, split⟩ := pair
    unfold groupByWord
    dsimp only
    split
    · exact List.cons_ne_nil _ _
    · split <;> exact List.cons_ne_nil _ _

namespace Inbound

/-- A data beat touches a word at least, and no more words than it has bytes. -/
theorem planBeat_cons (bridge : Inbound) (burst : AddressBeat) (beat : Nat) :
    ∃ first rest, bridge.planBeat burst beat = first :: rest ∧ rest.length < burst.beatBytes := by
  have few := length_groupByWord_le bridge.conversion.simpleBytes
    ((List.range burst.beatBytes).map fun index =>
      (bridge.conversion.translate
          ((burst.beatAddress beat - bridge.origin).alignDown burst.beatBytes) +
            BitVec.ofNat 64 index,
        ((burst.beatAddress beat - bridge.origin).alignDown burst.beatBytes).toNat %
          bridge.conversion.splitBytes + index))
  rw [List.length_map, List.length_range] at few
  change (bridge.planBeat burst beat).length ≤ _ at few
  cases planned : bridge.planBeat burst beat with
  | nil =>
    have some_ := burst.beatBytes_pos
    refine absurd planned (groupByWord_ne_nil _ fun none_ => ?_)
    rw [List.map_eq_nil_iff, List.range_eq_nil] at none_
    omega
  | cons first rest =>
    rw [planned, List.length_cons] at few
    exact ⟨first, rest, rfl, few⟩

section

variable (conversion : Conversion) (origin : Address) (burst : AddressBeat) (beat : Nat)

theorem plansRead_cons : ∃ next pending,
    PlansRead conversion origin burst beat (next :: pending) ∧ pending.length < burst.beatBytes := by
  obtain ⟨first, rest, planned, few⟩ :=
    ({ port := ⟨0⟩, conversion, origin } : Inbound).planBeat_cons burst beat
  refine ⟨first.read, rest.map (·.read), ?_, by rwa [List.length_map]⟩
  rintro bridge transfer rfl rfl rfl rfl
  unfold nextRead
  rw [show bridge.planBeat transfer.burst transfer.beat = first :: rest from planned]
  rfl

/-- A write data beat is taken up unless its last-beat mark is wrong, which a lite port does not
look at. -/
theorem plansWrite_or_refuses (data : WriteBeat) :
    (∃ next pending, PlansWrite conversion origin burst beat data (next :: pending) ∧
      pending.length < burst.beatBytes) ∨
    conversion.source ≠ .wideSplitLite ∧ data.last ≠ decide (beat + 1 = burst.beats) ∧
      ∃ kind, Refuses conversion burst beat data kind := by
  obtain ⟨first, rest, planned, few⟩ :=
    ({ port := ⟨0⟩, conversion, origin } : Inbound).planBeat_cons burst beat
  have plans (unmarked : conversion.source ≠ .wideSplitLite →
      data.last = decide (beat + 1 = burst.beats)) :
      PlansWrite conversion origin burst beat data
        (first.write data :: rest.map (·.write data)) := by
    rintro bridge transfer rfl rfl rfl rfl
    unfold nextWrite isLite
    dsimp only
    rw [show bridge.planBeat transfer.burst transfer.beat = first :: rest from planned]
    by_cases lite : bridge.conversion.source = .wideSplitLite
    · simp [lite]
    · rw [unmarked lite]
      by_cases final : transfer.beat + 1 = transfer.burst.beats <;> simp [final]
  by_cases lite : conversion.source = .wideSplitLite
  · exact .inl ⟨_, _, plans fun full => absurd lite full, by rwa [List.length_map]⟩
  · by_cases agrees : data.last = decide (beat + 1 = burst.beats)
    · exact .inl ⟨_, _, plans fun _ => agrees, by rwa [List.length_map]⟩
    · refine .inr ⟨lite, agrees, ?_⟩
      by_cases final : beat + 1 = burst.beats
      · have unmarked : data.last = false := by simpa [final] using agrees
        refine ⟨.missingLast beat, ?_⟩
        rintro bridge transfer rfl rfl rfl
        simp [nextWrite, isLite, lite, final, unmarked]
      · have marked : data.last = true := by simpa [final] using agrees
        refine ⟨.earlyLast beat burst.beats, ?_⟩
        rintro bridge transfer rfl rfl rfl
        simp [nextWrite, isLite, lite, final, marked]

theorem accepts_or_rejects : Accepts conversion burst ∨
    ¬ burst.Suits conversion.source conversion.splitBytes ∧
      ∃ kind, Rejects conversion burst kind := by
  by_cases many : conversion.source = .wideSplitLite ∧ burst.beats > 1
  · refine .inr ⟨fun suits => ?_, .burstOnLitePort burst.beats, ?_⟩
    · have single := suits.single many.1
      omega
    · rintro bridge rfl
      simp [violation?, isLite, many.1, many.2]
  have few (bridge : Inbound) (same : bridge.conversion = conversion) :
      ¬ (bridge.isLite = true ∧ burst.beats > 1) := by
    rintro ⟨lite, beats⟩
    exact many ⟨same ▸ of_decide_eq_true lite, beats⟩
  by_cases large : burst.size.toNat > conversion.splitBytes.log2
  · refine .inr ⟨fun suits => ?_, .oversizedBeat burst.beatBytes conversion.splitBytes, ?_⟩
    · have power := Nat.two_pow_pos burst.size.toNat
      have some_ : conversion.splitBytes ≠ 0 := by
        have := suits.size
        omega
      exact Nat.not_le_of_lt large ((Nat.le_log2 some_).mpr suits.size)
    · rintro bridge rfl
      unfold violation?
      rw [if_neg (few bridge rfl), if_pos large]
  by_cases wrapping : burst.mode = .wrap ∧ burst.beats ∉ [2, 4, 8, 16]
  · refine .inr ⟨fun suits => wrapping.2 (suits.wrap wrapping.1), .badWrapLength burst.beats, ?_⟩
    rintro bridge rfl
    unfold violation?
    rw [if_neg (few bridge rfl), if_neg large, if_pos wrapping]
  · left
    rintro bridge rfl
    unfold violation?
    rw [if_neg (few bridge rfl), if_neg large, if_neg wrapping]

end

theorem violation?_eq_none_iff {bridge : Inbound} (some_ : bridge.conversion.splitBytes ≠ 0)
    (burst : AddressBeat) : bridge.violation? burst = none ↔
      burst.Suits bridge.conversion.source bridge.conversion.splitBytes := by
  have size : burst.size.toNat > bridge.conversion.splitBytes.log2 ↔
      ¬ 2 ^ burst.size.toNat ≤ bridge.conversion.splitBytes := by
    rw [← Nat.le_log2 some_]
    omega
  have lite : bridge.isLite = true ↔ bridge.conversion.source = .wideSplitLite := by
    unfold isLite
    exact decide_eq_true_iff
  have few : 0 < burst.beats := Nat.succ_pos _
  unfold violation?
  dsimp only
  simp only [lite, size]
  split
  · rename_i many
    refine ⟨nofun, fun suits => ?_⟩
    have single := suits.single many.1
    omega
  · rename_i single
    split
    · rename_i large
      exact ⟨nofun, fun suits => absurd suits.size large⟩
    · rename_i fits
      split
      · rename_i wrapping
        exact ⟨nofun, fun suits => absurd (suits.wrap wrapping.1) wrapping.2⟩
      · rename_i whole
        refine ⟨fun _ => ⟨Classical.not_not.mp fits, ?_, ?_⟩, fun _ => rfl⟩
        · intro wrap
          exact Classical.not_not.mp fun other => whole ⟨wrap, other⟩
        · intro isLite
          have most := Nat.not_lt.mp fun more => single ⟨isLite, more⟩
          exact Nat.le_antisymm most few

structure Junction.Reports {Fault : Type} (before : Junction) (result : Junction × Option Fault) :
    Prop where
  port : result.1.bridge.port = before.bridge.port
  conversion : result.1.bridge.conversion = before.bridge.conversion
  halts : result.1.bridge.isHalted = (before.bridge.isHalted || result.2.isSome)

namespace Junction

variable {before middle : Junction}

theorem Reports.quiet {Fault : Type} {after : Junction}
    (port : after.bridge.port = before.bridge.port)
    (conversion : after.bridge.conversion = before.bridge.conversion)
    (halted : after.bridge.isHalted = before.bridge.isHalted) :
    Reports before (after, (none : Option Fault)) :=
  ⟨port, conversion, by rw [halted]; exact (Bool.or_false _).symm⟩

theorem Reports.trans {Fault : Type} {result : Junction × Option Fault}
    (first : Reports before (middle, (none : Option Fault))) (second : Reports middle result) :
    Reports before result where
  port := second.port.trans first.port
  conversion := second.conversion.trans first.conversion
  halts := by
    rw [second.halts, first.halts]
    simp

theorem flush_reports (junction : Junction) :
    Reports junction (junction.flush, (none : Option FaultKind)) :=
  .quiet rfl rfl rfl

theorem collect_reports (junction : Junction) :
    Reports junction (junction.collect, (none : Option FaultKind)) := by
  unfold collect
  split
  · exact .quiet rfl rfl rfl
  · rename_i response _
    refine .trans ?_ (flush_reports _)
    unfold absorb finishBeat
    split
    · dsimp only
      split
      · split <;> exact .quiet rfl rfl rfl
      · exact .quiet rfl rfl rfl
    · exact .quiet rfl rfl rfl

theorem halt_reports (junction : Junction) (kind : FaultKind) :
    Reports junction (junction.halt, some kind) :=
  ⟨rfl, rfl, (Bool.or_true _).symm⟩

theorem acceptAddress_reports (junction : Junction) : Reports junction junction.acceptAddress := by
  unfold acceptAddress
  dsimp only
  split
  · exact .quiet rfl rfl rfl
  · split
    · exact ⟨rfl, rfl, (Bool.or_true _).symm⟩
    · exact .quiet rfl rfl rfl

theorem prepare_reports {junction after : Junction} (prepared : junction.prepare = .ok after) :
    Reports junction (after, (none : Option FaultKind)) := by
  unfold prepare at prepared
  split at prepared
  · split at prepared
    · cases prepared
      exact .quiet rfl rfl rfl
    · split at prepared
      · split at prepared
        · cases prepared
          exact .quiet rfl rfl rfl
        · rename_i transfer _ _ _ _ beat _
          cases planned : junction.bridge.nextWrite transfer beat with
          | error kind =>
            rw [planned] at prepared
            cases prepared
          | ok pending =>
            rw [planned] at prepared
            cases prepared
            exact .quiet rfl rfl rfl
      · split at prepared
        all_goals
          cases prepared
          exact .quiet rfl rfl rfl
  · cases prepared
    exact .quiet rfl rfl rfl

theorem issue_reports (junction : Junction) :
    Reports junction (junction.issue, (none : Option FaultKind)) := by
  unfold issue
  split
  · exact .quiet rfl rfl rfl
  · split
    · exact .quiet rfl rfl rfl
    · split <;> exact .quiet rfl rfl rfl

theorem advance_reports (junction : Junction) : Reports junction junction.advance := by
  unfold advance
  cases prepared : junction.prepare with
  | error kind => exact halt_reports junction kind
  | ok next => exact (prepare_reports prepared).trans (issue_reports next)

theorem step_reports (junction : Junction) : Reports junction junction.step := by
  have collected := junction.flush_reports.trans junction.flush.collect_reports
  unfold step
  dsimp only
  generalize junction.flush.collect = settled at collected
  split
  · split
    · exact collected.trans settled.acceptAddress_reports
    · rename_i goes
      have silent : settled.acceptAddress.2 = none := by
        simp only [Bool.or_eq_true, not_or, Bool.not_eq_true, Option.isSome_eq_false_iff,
          Option.isNone_iff_eq_none] at goes
        exact goes.1
      have accepted : Reports settled (settled.acceptAddress.1, (none : Option FaultKind)) := by
        rw [← silent]
        exact settled.acceptAddress_reports
      exact (collected.trans accepted).trans (advance_reports _)
  · split
    · exact collected
    · exact collected.trans settled.advance_reports

/-- A running bridge halts just when it reports a fault, under its own port; a halted one reports
nothing. -/
theorem tick_reports (junction : Junction) (cycle : Nat) :
    Reports junction (junction.tick cycle) ∧
      ∀ fault, (junction.tick cycle).2 = some fault →
        fault.port = junction.bridge.port ∧ junction.bridge.isHalted = false := by
  unfold tick
  cases halted : junction.bridge.isHalted with
  | true =>
    rw [if_pos rfl]
    refine ⟨?_, nofun⟩
    unfold drain
    split <;> exact .quiet rfl rfl rfl
  | false =>
    rw [if_neg Bool.false_ne_true]
    have reports := junction.step_reports
    refine ⟨⟨reports.port, reports.conversion, ?_⟩, ?_⟩
    · rw [reports.halts]
      simp
    · intro fault reported
      obtain ⟨_, _, rfl⟩ := Option.map_eq_some_iff.mp reported
      exact ⟨reports.port, rfl⟩

end Junction

end Inbound

end Bridge

end BusFabric
