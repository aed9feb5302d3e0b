import BusFabric.Error

set_option autoImplicit false

namespace BusFabric

/-- An interval of addresses with its owner. -/
structure Window where
  name : String
  base : Address
  /-- Bytes in the window. -/
  size : Nat
  owner : PortId
  dataWidth : Nat
  deriving DecidableEq

namespace Window

/-- The first address past the window; the top of the address space is one of them. -/
def finish (window : Window) : Nat :=
  window.base.toNat + window.size

def contains (window : Window) (address : Address) : Bool :=
  window.base.toNat ≤ address.toNat && address.toNat - window.base.toNat < window.size

end Window

/-- Which port owns an address: half-open windows that do not overlap, in ascending order of their
bases, and whether more may be added. A window enters only through `insert?`. -/
structure AddressMap where
  windows : List Window := []
  isFrozen : Bool := false
  deriving DecidableEq

namespace AddressMap

/-- Forbids any further window. -/
def freeze (map : AddressMap) : AddressMap :=
  { map with isFrozen := true }

/-- The window that holds `address`: only the last one that starts at or below it can. -/
def windowAt? (map : AddressMap) (address : Address) : Option Window :=
  (map.windows.reverse.find? (·.base.toNat ≤ address.toNat)).filter (·.contains address)

def decode (map : AddressMap) (address : Address) : Option PortId :=
  (map.windowAt? address).map (·.owner)

def window? (map : AddressMap) (owner : PortId) : Option Window :=
  map.windows.find? (·.owner = owner)

/-- The last window that starts below the end of `window`, if it reaches into `window`. -/
def overlapping? (map : AddressMap) (window : Window) : Option Window :=
  (map.windows.reverse.find? (·.base.toNat < window.finish)).filter
    (window.base.toNat < ·.finish)

/-- Places a window before the first one that starts above it. -/
def place (window : Window) (windows : List Window) : List Window :=
  windows.takeWhile (·.base.toNat < window.base.toNat) ++
    window :: windows.dropWhile (·.base.toNat < window.base.toNat)

/-- Placing a window adds it and loses none. -/
theorem mem_place {window other : Window} {windows : List Window} :
    other ∈ place window windows ↔ other = window ∨ other ∈ windows := by
  have whole := List.takeWhile_append_dropWhile
    (p := fun held : Window => decide (held.base.toNat < window.base.toNat)) (l := windows)
  have parts : other ∈ windows ↔
      other ∈ windows.takeWhile (fun held => decide (held.base.toNat < window.base.toNat)) ∨
        other ∈ windows.dropWhile (fun held => decide (held.base.toNat < window.base.toNat)) := by
    rw [← List.mem_append, whole]
  simp only [place, List.mem_append, List.mem_cons, parts]
  constructor
  · rintro (before | same | after)
    · exact Or.inr (Or.inl before)
    · exact Or.inl same
    · exact Or.inr (Or.inr after)
  · rintro (same | before | after)
    · exact Or.inr (Or.inl same)
    · exact Or.inl before
    · exact Or.inr (Or.inr after)

/-- Adds a window to a map that is not frozen. Its size has to be a power of two, at least
`alignment`, at most `span`, and must not carry the window past the last address; no existing
window may share an address with it; and its base has to be a multiple of `alignment`, which is
found out last and by a division. -/
def insert? (map : AddressMap) (window : Window) (alignment span : Nat) :
    Except MapError AddressMap :=
  let misaligned :=
    MapError.alignment window.name window.base.toNat window.size alignment
  if map.isFrozen then .error .frozen
  else if ¬ window.size.isPowerOfTwo ∨ window.size < alignment then .error misaligned
  else if window.size > span ∨ window.finish ≥ UInt64.size then
    .error (.outOfRange window.name window.size span)
  else match map.overlapping? window with
    | some existing =>
      .error (.overlap window.name window.base.toNat window.finish existing.name
        existing.base.toNat existing.finish)
    | none =>
      if alignment = 0 then .error (.arithmetic .divisionByZero)
      else if window.base.toNat % alignment ≠ 0 then .error misaligned
      else .ok { map with windows := place window map.windows }

/-- Adds a window of a slave port. How far its address lines reach is asked before anything is
checked. -/
def register? (map : AddressMap) (slave : Port) (base : Address) (size : Nat) :
    Except MapError AddressMap :=
  match slave.addressableBytes? with
  | none => .error (.arithmetic .overflow)
  | some span =>
    map.insert? ⟨slave.name, base, size, slave.id, slave.dataWidth⟩ slave.naturalAlignment span

def registerPort? (map : AddressMap) (slave : Port) : Except BuildError AddressMap :=
  match slave.base, slave.size with
  | some base, some size => (map.register? slave base size).mapError .map
  | _, _ => .error (.config (.missingWindow slave.id))

end AddressMap

end BusFabric
