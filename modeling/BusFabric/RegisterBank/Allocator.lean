import BusFabric.RegisterBank.Layout

set_option autoImplicit false

namespace BusFabric.RegisterBank

/-- A region and the banks placed in it so far, which are all the state there is: a refused bank
leaves it as it was. -/
structure Allocator where
  bus : PortId
  origin : Address
  granularity : Nat
  stride : Nat
  dataWidth : Nat
  /-- How many bank indices the region decodes. -/
  maxBanks : Nat
  banks : List Bank := []
  deriving DecidableEq

def placeRegisters (base : Address) (stride dataWidth : Nat) :
    Nat → List Register → List PlacedRegister
  | _, [] => []
  | offset, register :: rest =>
    let words := register.words dataWidth
    { name := register.name
      offset
      address := base + BitVec.ofNat 64 (offset * stride)
      width := register.width
      words
      access := register.access
      reset := register.reset } ::
      placeRegisters base stride dataWidth (offset + words) rest

namespace Allocator

/-- An empty region for the banks of `bus`, whose words lie `stride` bytes apart. The granularity
has to be a power of two and hold at least one word. -/
def create (bus : Port) (origin : Address) (granularity stride maxBanks : Nat) :
    Except ConfigError Allocator :=
  if ¬ granularity.isPowerOfTwo ∨ granularity < stride then
    .error (.badGranularity granularity stride)
  else .ok ⟨bus.id, origin, granularity, stride, bus.dataWidth, maxBanks, []⟩

def bankAt? (allocator : Allocator) (index : Nat) : Option Bank :=
  allocator.banks.find? (·.index = index)

/-- The least index without a bank. One of the first `n + 1` indices is free beside `n` banks. -/
def freeIndex (allocator : Allocator) : Nat :=
  ((List.range (allocator.banks.length + 1)).find?
    fun index => (allocator.bankAt? index).isNone).getD allocator.maxBanks

/-- Bytes that `words` words take, as a 64-bit count that stops at the largest one. -/
def bytes (allocator : Allocator) (words : Nat) : Nat :=
  min (words * allocator.stride) (UInt64.size - 1)

/-- The base of the bank window at an index; `none` if the window would reach past the last
address. -/
def base? (allocator : Allocator) (index : Nat) : Option Address :=
  let base := allocator.origin.toNat + allocator.granularity * index
  if base + allocator.granularity < UInt64.size then some (BitVec.ofNat 64 base) else none

def placement (allocator : Allocator) (base : Address) : Contents → Placement
  | .registers registers =>
    .registers (placeRegisters base allocator.stride allocator.dataWidth 0 registers)
  | .memory words => .memory words

def place (allocator : Allocator) (name : String) (index : Nat) (contents : Contents) :
    Except BuildError (Allocator × Window) :=
  let outOfRange := BuildError.config (.bankIndexOutOfRange index allocator.maxBanks)
  let words := contents.wordCount allocator.dataWidth
  if allocator.banks.any (·.name = name) then .error (.map (.duplicateName name))
  else if index ≥ allocator.maxBanks then .error outOfRange
  else if ¬ contents.isCountable allocator.dataWidth then
    .error (.map (.arithmetic .divisionByZero))
  else if allocator.bytes words > allocator.granularity then
    .error (.config (.bankOverflow name (allocator.bytes words) allocator.granularity))
  else match allocator.base? index with
    | none => .error outOfRange
    | some base =>
      let bank : Bank :=
        ⟨name, index, base, allocator.granularity, words, allocator.placement base contents⟩
      .ok ({ allocator with banks := allocator.banks ++ [bank] },
        ⟨name, base, allocator.granularity, allocator.bus, allocator.dataWidth⟩)

/-- Places a declared bank, at its own index if it has one and else at the least free one. -/
def allocate (allocator : Allocator) (declaration : Declaration) :
    Except BuildError (Allocator × Window) :=
  match declaration.index with
  | none => allocator.place declaration.name allocator.freeIndex declaration.contents
  | some index =>
    match allocator.bankAt? index with
    | some bank => .error (.map (.indexTaken index bank.name))
    | none => allocator.place declaration.name index declaration.contents

/-- Places declared banks one after the other, with the answer for each; a refused bank takes no
place. -/
def allocateEach (allocator : Allocator) :
    List Declaration → Allocator × List (Except BuildError Window)
  | [] => (allocator, [])
  | declaration :: rest =>
    match allocator.allocate declaration with
    | .ok (allocator, window) =>
      let (allocator, answers) := allocator.allocateEach rest
      (allocator, .ok window :: answers)
    | .error error =>
      let (allocator, answers) := allocator.allocateEach rest
      (allocator, .error error :: answers)

/-- Places declared banks one after the other, up to the first that is refused. -/
def allocateAll (allocator : Allocator) : List Declaration → Except BuildError Allocator
  | [] => .ok allocator
  | declaration :: rest =>
    match allocator.allocate declaration with
    | .ok (allocator, _) => allocator.allocateAll rest
    | .error error => .error error

/-- The region with the banks placed so far. -/
def layout (allocator : Allocator) : Layout :=
  ⟨allocator.origin, allocator.granularity, allocator.stride, allocator.dataWidth,
    allocator.banks⟩

end Allocator

end BusFabric.RegisterBank
