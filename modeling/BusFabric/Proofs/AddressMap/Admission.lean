import BusFabric.Proofs.AddressMap.Calls

set_option autoImplicit false

namespace BusFabric

/-- Some address lies in both windows. -/
def Window.Meets (window other : Window) : Prop :=
  ∃ address : Address, window.contains address = true ∧ other.contains address = true

/-- Windows that hold something meet if each starts before the other one ends: the later start lies
in both of them. -/
theorem Window.meets_iff {window other : Window} (holds : 0 < window.size)
    (otherHolds : 0 < other.size) :
    window.Meets other ↔
      window.base.toNat < other.finish ∧ other.base.toNat < window.finish := by
  unfold Meets
  simp only [contains_iff]
  constructor
  · rintro ⟨address, ⟨start, ends⟩, otherStart, otherEnds⟩
    omega
  · rintro ⟨before, behind⟩
    have ends : window.base.toNat < window.finish := Nat.lt_add_of_pos_right holds
    have otherEnds : other.base.toNat < other.finish := Nat.lt_add_of_pos_right otherHolds
    rcases Nat.le_total window.base.toNat other.base.toNat with below | above
    · exact ⟨other.base, ⟨below, behind⟩, Nat.le_refl _, otherEnds⟩
    · exact ⟨window.base, ⟨Nat.le_refl _, ends⟩, above, before⟩

def Port.window (slave : Port) (base : Address) (size : Nat) : Window :=
  ⟨slave.name, base, size, slave.id, slave.dataWidth⟩

namespace AddressMap

variable {map : AddressMap} {window : Window} {alignment span : Nat}

/-- The window that is named as overlapping is one of the map and meets the new one. -/
theorem overlapping?_meets (ascending : Ascending map.windows) (holds : 0 < window.size)
    {existing : Window} (found : map.overlapping? window = some existing) :
    existing ∈ map.windows ∧ window.Meets existing := by
  obtain ⟨sought, reaches⟩ := Option.filter_eq_some_iff.mp found
  have member := List.mem_reverse.mp (List.mem_of_find?_eq_some sought)
  have starts := List.find?_some sought
  simp only [decide_eq_true_eq] at starts reaches
  exact ⟨member, (Window.meets_iff holds (ascending.nonempty existing member)).mpr
    ⟨reaches, starts⟩⟩

theorem overlapping?_eq_none_iff (ascending : Ascending map.windows) (holds : 0 < window.size) :
    map.overlapping? window = none ↔ ∀ held ∈ map.windows, ¬ window.Meets held := by
  constructor
  · intro clear held member meets
    have apart := apart_of_overlapping? ascending clear member
    obtain ⟨before, behind⟩ :=
      (Window.meets_iff holds (ascending.nonempty held member)).mp meets
    omega
  · intro clear
    cases found : map.overlapping? window with
    | none => rfl
    | some existing =>
      obtain ⟨member, meets⟩ := overlapping?_meets ascending holds found
      exact absurd meets (clear existing member)

/-- The first rule that a window breaks, with what is said of it: the map is frozen, the size is
no power of two or too small, the window is too large for its port or for the address space, it
meets another one, or its base is not aligned. Nothing can be aligned to zero: it is divided by. -/
inductive Refuses (map : AddressMap) (window : Window) (alignment span : Nat) : MapError → Prop
  | frozen (frozen : map.isFrozen = true) : Refuses map window alignment span .frozen
  | size (thawed : map.isFrozen = false)
      (unfit : ¬ (window.size.isPowerOfTwo ∧ alignment ≤ window.size)) :
      Refuses map window alignment span
        (.alignment window.name window.base.toNat window.size alignment)
  | range (thawed : map.isFrozen = false)
      (sized : window.size.isPowerOfTwo ∧ alignment ≤ window.size)
      (outside : ¬ (window.size ≤ span ∧ window.finish < UInt64.size)) :
      Refuses map window alignment span (.outOfRange window.name window.size span)
  | overlap (thawed : map.isFrozen = false)
      (sized : window.size.isPowerOfTwo ∧ alignment ≤ window.size)
      (inside : window.size ≤ span ∧ window.finish < UInt64.size) {existing : Window}
      (member : existing ∈ map.windows) (meets : window.Meets existing) :
      Refuses map window alignment span
        (.overlap window.name window.base.toNat window.finish existing.name
          existing.base.toNat existing.finish)
  | division (thawed : map.isFrozen = false)
      (sized : window.size.isPowerOfTwo ∧ alignment ≤ window.size)
      (inside : window.size ≤ span ∧ window.finish < UInt64.size)
      (clear : ∀ held ∈ map.windows, ¬ window.Meets held) (zero : alignment = 0) :
      Refuses map window alignment span (.arithmetic .divisionByZero)
  | base (thawed : map.isFrozen = false)
      (sized : window.size.isPowerOfTwo ∧ alignment ≤ window.size)
      (inside : window.size ≤ span ∧ window.finish < UInt64.size)
      (clear : ∀ held ∈ map.windows, ¬ window.Meets held) (positive : 0 < alignment)
      (unaligned : ¬ alignment ∣ window.base.toNat) :
      Refuses map window alignment span
        (.alignment window.name window.base.toNat window.size alignment)

/-- The rules that a window keeps which a map takes. -/
structure Takes (map : AddressMap) (window : Window) (alignment span : Nat) : Prop where
  thawed : map.isFrozen = false
  sized : window.size.isPowerOfTwo ∧ alignment ≤ window.size
  inside : window.size ≤ span ∧ window.finish < UInt64.size
  clear : ∀ held ∈ map.windows, ¬ window.Meets held
  positive : 0 < alignment
  aligned : alignment ∣ window.base.toNat

/-- A window is taken by all the rules, or refused by the first one that it breaks. -/
theorem insert?_cases (ascending : Ascending map.windows) (window : Window)
    (alignment span : Nat) :
    (map.Takes window alignment span ∧
        map.insert? window alignment span =
          .ok { map with windows := place window map.windows }) ∨
      ∃ error, map.Refuses window alignment span error ∧
        map.insert? window alignment span = .error error := by
  unfold insert?
  dsimp only
  split
  · rename_i frozen
    exact .inr ⟨_, .frozen frozen, rfl⟩
  rename_i open_
  have thawed : map.isFrozen = false := Bool.eq_false_iff.mpr open_
  split
  · rename_i unfit
    refine .inr ⟨_, .size thawed ?_, rfl⟩
    rintro ⟨power, least⟩
    rcases unfit with other | small
    · exact other power
    · omega
  rename_i fit
  have sized : window.size.isPowerOfTwo ∧ alignment ≤ window.size := by
    simpa only [not_or, Decidable.not_not, Nat.not_lt] using fit
  have holds := Nat.pos_of_isPowerOfTwo sized.1
  split
  · refine .inr ⟨_, .range thawed sized ?_, rfl⟩
    omega
  rename_i within
  have inside : window.size ≤ span ∧ window.finish < UInt64.size := by omega
  split
  · rename_i existing found
    obtain ⟨member, meets⟩ := overlapping?_meets ascending holds found
    exact .inr ⟨_, .overlap thawed sized inside member meets, rfl⟩
  rename_i none_
  have clear := (overlapping?_eq_none_iff ascending holds).mp none_
  split
  · rename_i zero
    exact .inr ⟨_, .division thawed sized inside clear zero, rfl⟩
  rename_i nonzero
  have positive := Nat.pos_of_ne_zero nonzero
  split
  · rename_i remainder
    refine .inr ⟨_, .base thawed sized inside clear positive ?_, rfl⟩
    exact fun aligned => remainder (Nat.mod_eq_zero_of_dvd aligned)
  · rename_i exact_
    refine .inl ⟨⟨thawed, sized, inside, clear, positive, ?_⟩, rfl⟩
    exact Nat.dvd_of_mod_eq_zero (Decidable.not_not.mp exact_)

/-- A window that breaks a rule is not taken. -/
theorem Refuses.not_takes {error : MapError} (refuses : map.Refuses window alignment span error) :
    ¬ map.Takes window alignment span := by
  intro takes
  cases refuses with
  | frozen frozen =>
    rw [takes.thawed] at frozen
    cases frozen
  | size _ unfit => exact unfit takes.sized
  | range _ _ outside => exact outside takes.inside
  | overlap _ _ _ member meets => exact takes.clear _ member meets
  | division _ _ _ _ zero =>
    have positive := takes.positive
    omega
  | base _ _ _ _ _ unaligned => exact unaligned takes.aligned

theorem Refuses.ne_overflow {error : MapError} (refuses : map.Refuses window alignment span error) :
    error ≠ .arithmetic .overflow := by
  rintro rfl
  cases refuses

/-- A slave's window is looked at once the reach of the slave's lines is known. -/
theorem register?_of_counted {slave : Port} {span : Nat}
    (counted : slave.addressableBytes? = some span) (map : AddressMap) (base : Address)
    (size : Nat) :
    map.register? slave base size =
      map.insert? (slave.window base size) slave.naturalAlignment span := by
  unfold register?
  rw [counted]
  rfl

theorem register?_of_uncounted {slave : Port} (uncounted : slave.addressableBytes? = none)
    (map : AddressMap) (base : Address) (size : Nat) :
    map.register? slave base size = .error (.arithmetic .overflow) := by
  unfold register?
  rw [uncounted]

/-- A window for a slave is taken or refused by the rules of the map, unless it cannot be said how
far the lines of the slave reach. -/
theorem register?_cases (ascending : Ascending map.windows) (slave : Port) (base : Address)
    (size : Nat) :
    (∃ span, slave.addressableBytes? = some span ∧
      map.Takes (slave.window base size) slave.naturalAlignment span ∧
      map.register? slave base size =
        .ok { map with windows := place (slave.window base size) map.windows }) ∨
    (∃ span error, slave.addressableBytes? = some span ∧
      map.Refuses (slave.window base size) slave.naturalAlignment span error ∧
      map.register? slave base size = .error error) ∨
    slave.addressableBytes? = none ∧
      map.register? slave base size = .error (.arithmetic .overflow) := by
  cases counted : slave.addressableBytes? with
  | none => exact .inr (.inr ⟨rfl, register?_of_uncounted counted map base size⟩)
  | some span =>
    rw [register?_of_counted counted]
    rcases insert?_cases ascending (slave.window base size) slave.naturalAlignment span with
      ⟨takes, inserted⟩ | ⟨error, refuses, refused⟩
    · exact .inl ⟨span, rfl, takes, inserted⟩
    · exact .inr (.inl ⟨span, error, rfl, refuses, refused⟩)

theorem call_register_of_ok {slave : Port} {base : Address} {size : Nat} {after : AddressMap}
    (registered : map.register? slave base size = .ok after) :
    map.call (.register slave base size) = after := by
  simp only [call, registered]

theorem call_register_of_error {slave : Port} {base : Address} {size : Nat} {error : MapError}
    (refused : map.register? slave base size = .error error) :
    map.call (.register slave base size) = map := by
  simp only [call, refused]

/-- Whatever was called on an empty map: it takes a window for a slave just when it is not frozen,
the size is a power of two between the slave's word and its span, the window does not pass the last
address and meets no other window, and the base is aligned to the slave's word. A window that is
taken is added, and that is all; one that is refused leaves the map as it is, and the error names
the first rule that is broken, with a window that is met. For a slave whose span cannot be counted
there is neither. -/
theorem takes_legal_windows (calls : List Call) (slave : Port) (base : Address) (size : Nat) :
    let map := calls.foldl call {}
    let window := slave.window base size
    ((∃ after, map.register? slave base size = .ok after) ↔
      map.isFrozen = false ∧
        (size.isPowerOfTwo ∧ slave.naturalAlignment ≤ size ∧
          ∃ span, slave.addressableBytes? = some span ∧ size ≤ span) ∧
        base.toNat + size ≤ UInt64.size - 1 ∧
        (∀ held ∈ map.windows, ¬ window.Meets held) ∧
        slave.naturalAlignment ∣ base.toNat) ∧
    (∀ after, map.register? slave base size = .ok after →
      map.call (.register slave base size) = after ∧ after.isFrozen = map.isFrozen ∧
        after.windows.Perm (window :: map.windows) ∧ window ∉ map.windows) ∧
    (∀ error, map.register? slave base size = .error error →
      map.call (.register slave base size) = map ∧
        ∀ span, slave.addressableBytes? = some span →
          map.Refuses window slave.naturalAlignment span error) ∧
    (map.register? slave base size = .error (.arithmetic .overflow) ↔
      slave.addressableBytes? = none) := by
  intro map window
  have laidOut : map.IsLaidOut := IsLaidOut.calls ⟨.nil, by simp⟩ calls
  have positive : 0 < slave.naturalAlignment := Nat.le_max_right _ _
  rcases register?_cases laidOut.ascending slave base size with
    ⟨span, counted, takes, registered⟩ | ⟨span, named, counted, refuses, refused⟩ |
      ⟨uncounted, refused⟩
  · have holds : 0 < window.size := Nat.pos_of_isPowerOfTwo takes.sized.1
    have ends : window.base.toNat < window.finish := Nat.lt_add_of_pos_right holds
    rw [registered, counted]
    refine ⟨iff_of_true ⟨_, rfl⟩ ?_, ?_, nofun, iff_of_false nofun nofun⟩
    · exact ⟨takes.thawed, ⟨takes.sized.1, takes.sized.2, span, rfl, takes.inside.1⟩,
        Nat.le_sub_one_of_lt takes.inside.2, takes.clear, takes.aligned⟩
    · rintro _ ⟨⟩
      refine ⟨call_register_of_ok registered, rfl, perm_place window map.windows, ?_⟩
      exact fun member => takes.clear window member
        ((Window.meets_iff holds holds).mpr ⟨ends, ends⟩)
  · rw [refused, counted]
    refine ⟨iff_of_false nofun ?_, nofun, ?_, iff_of_false ?_ nofun⟩
    · rintro ⟨thawed, ⟨power, least, _, ⟨⟩, most⟩, below, clear, aligned⟩
      have inside : window.finish < UInt64.size := Nat.lt_of_le_pred (by decide) below
      exact refuses.not_takes
        ⟨thawed, ⟨power, least⟩, ⟨most, inside⟩, clear, positive, aligned⟩
    · rintro _ ⟨⟩
      refine ⟨call_register_of_error refused, ?_⟩
      rintro _ ⟨⟩
      exact refuses
    · exact fun same => refuses.ne_overflow (Except.error.inj same)
  · rw [refused, uncounted]
    refine ⟨iff_of_false nofun ?_, nofun, ?_, iff_of_true rfl rfl⟩
    · rintro ⟨_, ⟨_, _, span, some_, _⟩, _⟩
      cases some_
    · exact fun _ _ => ⟨call_register_of_error refused, nofun⟩

end AddressMap

end BusFabric
