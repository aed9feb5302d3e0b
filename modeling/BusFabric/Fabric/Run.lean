import BusFabric.Fabric.Tick

set_option autoImplicit false

namespace BusFabric.Fabric

inductive QuantumEnd where
  /-- The quantum is used up and there is more to do. -/
  | unfinished
  | idle
  | cycleLimit
  deriving DecidableEq

inductive RunEnd where
  | idle
  | cycleLimit
  | timeout
  deriving DecidableEq, Inhabited

def defaultQuantum : Nat := 64

/-- When a run stops before the fabric is idle. -/
structure Limits where
  /-- The cycle, counted from the fabric's first, at which the run stops. -/
  cycles : Option Nat := none
  /-- Milliseconds for the run. -/
  milliseconds : Option Nat := none
  /-- Cycles in a quantum; none counts as one. -/
  quantum : Nat := defaultQuantum
  deriving DecidableEq

def Limits.reached (limits : Limits) (fabric : Fabric) : Bool :=
  limits.cycles.any (· ≤ fabric.cycle)

/-- How a quantum ends at this state, if it does. An idle fabric at its limit counts as idle. -/
def Limits.stop? (limits : Limits) (fabric : Fabric) : Option QuantumEnd :=
  if fabric.isIdle then some .idle
  else if limits.reached fabric then some .cycleLimit
  else none

def runFor (limits : Limits) : Nat → Fabric → Fabric × QuantumEnd
  | 0, fabric => (fabric, (limits.stop? fabric).getD .unfinished)
  | cycles + 1, fabric =>
    match limits.stop? fabric with
    | some reason => (fabric, reason)
    | none => runFor limits cycles fabric.tick

/-- Runs one quantum. Whether the fabric is idle or the cycle limit is reached is looked at before
every cycle, so the size of the quantum only says how often the time limit is looked at. -/
def runQuantum (fabric : Fabric) (limits : Limits) : Fabric × QuantumEnd :=
  runFor limits (max limits.quantum 1) fabric

/-- Runs until the fabric is idle or a limit is reached. The time limit is looked at before each
quantum, by an idealised clock: a run takes no time, so a limit above zero is never exceeded. -/
def run (fabric : Fabric) (limits : Limits) : Fabric × RunEnd :=
  if limits.milliseconds = some 0 then (fabric, .timeout)
  else
    match fabric.runQuantum limits with
    | (fabric, .unfinished) => fabric |>.run limits
    | (fabric, .idle) => (fabric, .idle)
    | (fabric, .cycleLimit) => (fabric, .cycleLimit)
partial_fixpoint

/-- Cycles of the fabric's clock in a second. -/
def clockRate : Nat := 50000000

/-- The time that the cycles so far take at the fabric's clock, in nanoseconds. The product of
cycles and nanoseconds in a second stops at the largest 64-bit count. -/
def nanoseconds (fabric : Fabric) : Nat :=
  min (fabric.cycle * 1000000000) (UInt64.size - 1) / clockRate

end BusFabric.Fabric
