import BusFabric.AddressMap

set_option autoImplicit false

namespace BusFabric.RegisterBank

/-- Whether the bus may write a register. -/
inductive Access where
  | readWrite
  | readOnly
  deriving DecidableEq

def Access.name : Access → String
  | readWrite => "ReadWrite"
  | readOnly => "ReadOnly"

structure Register where
  name : String
  /-- Width in bits. -/
  width : Nat
  access : Access := .readWrite
  /-- The value after reset. -/
  reset : BitVec 64 := 0
  deriving DecidableEq

/-- Words of a bus of `busWidth` bits that the register takes, at least one. A bus of no bits is not
asked about: see `Contents.isCountable`. -/
def Register.words (register : Register) (busWidth : Nat) : Nat :=
  (max register.width 1 + busWidth - 1) / busWidth

inductive Contents where
  | registers (registers : List Register)
  | memory (words : Nat)
  deriving DecidableEq

/-- The words of a register are a quotient by the width of the bus, which must not be zero then. -/
def Contents.isCountable (busWidth : Nat) : Contents → Bool
  | .registers list => list.isEmpty || busWidth ≠ 0
  | .memory _ => true

def Contents.wordCount (busWidth : Nat) : Contents → Nat
  | registers list => list.foldr (fun register words => register.words busWidth + words) 0
  | memory words => words

/-- A bank to be placed, at a fixed index or at the next free one. -/
structure Declaration where
  name : String
  index : Option Nat := none
  contents : Contents
  deriving DecidableEq

structure PlacedRegister where
  name : String
  /-- Words between the start of the bank and the register. -/
  offset : Nat
  address : Address
  width : Nat
  words : Nat
  access : Access
  reset : BitVec 64
  deriving DecidableEq

inductive Placement where
  | registers (registers : List PlacedRegister)
  | memory (words : Nat)
  deriving DecidableEq

structure Bank where
  name : String
  index : Nat
  base : Address
  /-- Bytes in the window: the granularity of the region. -/
  size : Nat
  wordCount : Nat
  placement : Placement
  deriving DecidableEq

namespace Bank

def register? (bank : Bank) (name : String) : Option PlacedRegister :=
  match bank.placement with
  | .registers registers => registers.find? (·.name = name)
  | .memory _ => none

def registerAt? (bank : Bank) (word : Nat) : Option PlacedRegister :=
  match bank.placement with
  | .registers registers =>
    registers.find? fun register =>
      register.offset ≤ word ∧ word < register.offset + register.words
  | .memory _ => none

end Bank

/-- Every bank of a register region, in the order of declaration. The region is cut into windows of
one size, the granularity, and a bank occupies the window that its index counts from the origin.
Inside a bank, register words lie one stride apart; a register wider than the bus takes several,
least significant first. -/
structure Layout where
  origin : Address
  granularity : Nat
  /-- Bytes between the starts of consecutive words. -/
  stride : Nat
  /-- Width of the register bus in bits. -/
  dataWidth : Nat
  banks : List Bank := []
  deriving DecidableEq

namespace Layout

def bank? (layout : Layout) (name : String) : Option Bank :=
  layout.banks.find? (·.name = name)

def windows (layout : Layout) (bus : Port) : List Window :=
  layout.banks.map fun bank => ⟨bank.name, bank.base, bank.size, bus.id, bus.dataWidth⟩

end Layout

end BusFabric.RegisterBank

namespace BusFabric.AddressMap

/-- Adds windows in order until one is refused. Those added before it stay. -/
def insertAll (map : AddressMap) (alignment span : Nat) :
    List Window → AddressMap × Except MapError Unit
  | [] => (map, .ok ())
  | window :: rest =>
    match map.insert? window alignment span with
    | .ok map => map.insertAll alignment span rest
    | .error error => (map, .error error)

def registerBanks (map : AddressMap) (bus : Port) (layout : RegisterBank.Layout) :
    AddressMap × Except MapError Unit :=
  map.insertAll layout.stride (UInt64.size - 1) (layout.windows bus)

end BusFabric.AddressMap
