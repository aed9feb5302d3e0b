import BusFabric.Proofs.AddressMap.Decode

set_option autoImplicit false

namespace BusFabric.AddressMap

/-- What may be asked of a map that is being set up. -/
inductive Call where
  /-- A window for a slave, wherever its own declaration puts it. -/
  | register (slave : Port) (base : Address) (size : Nat)
  /-- The window that a slave declares. -/
  | registerPort (slave : Port)
  /-- The windows of the banks of a layout. -/
  | registerBanks (bus : Port) (layout : RegisterBank.Layout)
  | freeze

/-- The map after a call. A refused window leaves the map as it is; of the banks of a layout, those
before the refused one stay. -/
def call (map : AddressMap) : Call → AddressMap
  | .register slave base size =>
    match map.register? slave base size with
    | .ok after => after
    | .error _ => map
  | .registerPort slave =>
    match map.registerPort? slave with
    | .ok after => after
    | .error _ => map
  | .registerBanks bus layout => (map.registerBanks bus layout).1
  | .freeze => map.freeze

/-- One map comes from another by adding windows one by one, each by the rules of the map. -/
inductive Extends : AddressMap → AddressMap → Prop
  | refl (map : AddressMap) : Extends map map
  | insert {map next after : AddressMap} {window : Window} {alignment span : Nat}
      (inserted : map.insert? window alignment span = .ok next) (rest : Extends next after) :
      Extends map after

variable {map after : AddressMap}

theorem insertAll_extends (map : AddressMap) (alignment span : Nat) (windows : List Window) :
    Extends map (map.insertAll alignment span windows).1 := by
  induction windows generalizing map with
  | nil => exact .refl map
  | cons window rest ih =>
    unfold insertAll
    cases inserted : map.insert? window alignment span with
    | error error => exact .refl map
    | ok next => exact .insert inserted (ih next)

theorem call_cases (map : AddressMap) (made : Call) :
    map.call made = map.freeze ∨ Extends map (map.call made) := by
  cases made with
  | freeze => exact .inl rfl
  | registerBanks bus layout => exact .inr (insertAll_extends map _ _ _)
  | register slave base size =>
    right
    unfold call
    dsimp only
    cases registered : map.register? slave base size with
    | error error => exact .refl map
    | ok next => exact .insert (register?_eq_ok registered).2 (.refl next)
  | registerPort slave =>
    right
    unfold call registerPort?
    dsimp only
    cases slave.base with
    | none => exact .refl map
    | some base =>
      cases slave.size with
      | none => exact .refl map
      | some size =>
        dsimp only
        cases registered : map.register? slave base size with
        | error error => exact .refl map
        | ok next => exact .insert (register?_eq_ok registered).2 (.refl next)

/-- The windows are in ascending order, apart from each other, and none reaches past the last
address. -/
structure IsLaidOut (map : AddressMap) : Prop where
  ascending : Ascending map.windows
  below : ∀ window ∈ map.windows, window.finish < UInt64.size

theorem IsLaidOut.insert? {window : Window} {alignment span : Nat} (laidOut : map.IsLaidOut)
    (inserted : map.insert? window alignment span = .ok after) : after.IsLaidOut := by
  constructor
  · exact laidOut.ascending.insert? inserted
  · obtain ⟨admits, rfl⟩ := insert?_eq_ok inserted
    intro other member
    rcases mem_place.mp member with rfl | held
    · exact admits.below
    · exact laidOut.below other held

theorem Extends.isLaidOut (extends_ : Extends map after) (laidOut : map.IsLaidOut) :
    after.IsLaidOut := by
  induction extends_ with
  | refl map => exact laidOut
  | insert inserted _ ih => exact ih (laidOut.insert? inserted)

theorem Extends.eq_of_isFrozen (extends_ : Extends map after) (frozen : map.isFrozen = true) :
    after = map := by
  cases extends_ with
  | refl => rfl
  | insert inserted rest => simp [AddressMap.insert?, frozen] at inserted

theorem IsLaidOut.call (laidOut : map.IsLaidOut) (made : Call) : (map.call made).IsLaidOut := by
  rcases map.call_cases made with frozen | added
  · rw [frozen]
    exact ⟨laidOut.ascending, laidOut.below⟩
  · exact added.isLaidOut laidOut

theorem IsLaidOut.calls (laidOut : map.IsLaidOut) (calls : List Call) :
    (calls.foldl AddressMap.call map).IsLaidOut := by
  induction calls generalizing map with
  | nil => exact laidOut
  | cons made rest ih => exact ih (laidOut.call made)

theorem calls_of_isFrozen (frozen : map.isFrozen = true) (calls : List Call) :
    calls.foldl call map = map := by
  induction calls with
  | nil => rfl
  | cons made rest ih =>
    have same : map.call made = map := by
      rcases map.call_cases made with again | added
      · rw [again, freeze, ← frozen]
      · exact added.eq_of_isFrozen frozen
    rw [List.foldl_cons, same]
    exact ih

theorem IsLaidOut.unique (laidOut : map.IsLaidOut) {address : Address} {window other : Window}
    (member : window ∈ map.windows) (holds : window.contains address = true)
    (listed : other ∈ map.windows) (shares : other.contains address = true) : other = window := by
  have found := (windowAt?_eq_some_iff laidOut.ascending).mpr ⟨member, holds⟩
  have again := (windowAt?_eq_some_iff laidOut.ascending).mpr ⟨listed, shares⟩
  exact Option.some.inj (again.symm.trans found)

/-- Windows in ascending order differ in their bases. -/
theorem Ascending.bases {windows : List Window} (ascending : Ascending windows) :
    windows.Pairwise fun lower upper =>
      lower.base.toNat < upper.base.toNat ∧ lower.finish ≤ upper.base.toNat := by
  apply ascending.apart.imp_of_mem
  intro lower upper member _ apart
  have nonempty := ascending.nonempty lower member
  unfold Window.finish at *
  omega

/-- Whatever is called on an empty map, its windows are half-open intervals in strictly ascending
order of base, none of which meets another or wraps around; an address is found in the window that
holds it and decoded to the owner of that window, which is the only one that holds it; and a frozen
map stays as it is. -/
theorem decodes_after_calls (calls : List Call) :
    let map := calls.foldl call {}
    (map.windows.Pairwise fun lower upper =>
      lower.base.toNat < upper.base.toNat ∧ lower.finish ≤ upper.base.toNat) ∧
    (∀ window ∈ map.windows, window.finish < UInt64.size) ∧
    (∀ address window, map.windowAt? address = some window ↔
      window ∈ map.windows ∧ window.contains address = true) ∧
    (∀ address owner, map.decode address = some owner ↔
      ∃ window ∈ map.windows, window.contains address = true ∧ window.owner = owner) ∧
    (∀ address, ∀ window ∈ map.windows, window.contains address = true →
      map.decode address = some window.owner ∧
        ∀ other ∈ map.windows, other.contains address = true → other = window) ∧
    (∀ address, map.decode address = (map.windowAt? address).map (·.owner)) ∧
    ∀ later : List Call, later.foldl call map.freeze = map.freeze ∧
      (later.foldl call map.freeze).windows = map.windows := by
  intro map
  have laidOut : map.IsLaidOut := IsLaidOut.calls ⟨.nil, by simp⟩ calls
  have decoded : ∀ address owner, map.decode address = some owner ↔
      ∃ window ∈ map.windows, window.contains address = true ∧ window.owner = owner := by
    intro address owner
    rw [decode_eq_some_iff laidOut.ascending]
    simp only [and_comm]
  refine ⟨laidOut.ascending.bases, laidOut.below, fun _ _ => windowAt?_eq_some_iff laidOut.ascending,
    decoded, ?_, fun _ => rfl, ?_⟩
  · intro address window member holds
    constructor
    · exact (decoded address window.owner).mpr ⟨window, member, holds, rfl⟩
    · intro other listed shares
      exact laidOut.unique member holds listed shares
  · intro later
    have same : later.foldl call map.freeze = map.freeze := calls_of_isFrozen rfl later
    constructor
    · exact same
    · rw [same]
      rfl

end BusFabric.AddressMap
