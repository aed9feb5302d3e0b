import Mathlib.Data.List.Perm.Basic
import BusFabric.Proofs.Word.Cells
import BusFabric.RegisterBank.Layout

set_option autoImplicit false

namespace BusFabric

theorem Window.contains_iff {window : Window} {address : Address} :
    window.contains address = true ↔
      window.base.toNat ≤ address.toNat ∧ address.toNat < window.finish := by
  simp only [contains, finish, Bool.and_eq_true, decide_eq_true_eq]
  omega

namespace AddressMap

/-- Windows that hold something, in ascending order, each ending before the next one starts. -/
structure Ascending (windows : List Window) : Prop where
  apart : windows.Pairwise fun lower upper => lower.finish ≤ upper.base.toNat
  nonempty : ∀ window ∈ windows, 0 < window.size

theorem Ascending.nil : Ascending [] :=
  ⟨.nil, nofun⟩

theorem place_cons (window head : Window) (rest : List Window) :
    place window (head :: rest) =
      if head.base.toNat < window.base.toNat then head :: place window rest
      else window :: head :: rest := by
  unfold place
  by_cases before : head.base.toNat < window.base.toNat
  · simp [before]
  · simp [before]

theorem perm_place (window : Window) (windows : List Window) :
    (place window windows).Perm (window :: windows) := by
  have whole := List.takeWhile_append_dropWhile
    (p := fun held : Window => decide (held.base.toNat < window.base.toNat)) (l := windows)
  unfold place
  apply List.perm_middle.trans
  rw [whole]

/-- A window that shares nothing with the others finds its place among them. -/
theorem Ascending.place {windows : List Window} {window : Window} (ascending : Ascending windows)
    (holds : 0 < window.size)
    (clear : ∀ held ∈ windows, held.finish ≤ window.base.toNat ∨ window.finish ≤ held.base.toNat) :
    Ascending (place window windows) := by
  refine ⟨?_, ?_⟩
  · obtain ⟨apart, nonempty⟩ := ascending
    induction windows with
    | nil => exact List.pairwise_singleton ..
    | cons head rest ih =>
      obtain ⟨first, later⟩ := List.pairwise_cons.mp apart
      have here := clear head (List.mem_cons_self ..)
      have headHolds := nonempty head (List.mem_cons_self ..)
      rw [place_cons]
      split
      · rename_i before
        refine .cons ?_ (ih (fun held member => clear held (List.mem_cons_of_mem _ member)) later
          fun held member => nonempty held (List.mem_cons_of_mem _ member))
        intro other member
        rcases mem_place.mp member with rfl | member
        · rcases here with below | above
          · exact below
          · unfold Window.finish at above
            omega
        · exact first other member
      · rename_i behind
        have below : window.finish ≤ head.base.toNat := by
          rcases here with under | above
          · unfold Window.finish at under
            omega
          · exact above
        refine .cons ?_ apart
        intro other member
        rcases List.mem_cons.mp member with rfl | member
        · exact below
        · have next := first other member
          unfold Window.finish at next
          omega
  · intro other member
    rcases mem_place.mp member with rfl | member
    · exact holds
    · exact ascending.nonempty other member

/-- Against the last window that a rule holds for, each window ends below it, or is it, or the rule
does not hold for it. -/
theorem Ascending.of_find? {windows : List Window} (ascending : Ascending windows)
    {rule : Window → Bool} {last : Window} (sought : windows.reverse.find? rule = some last)
    {held : Window} (member : held ∈ windows) :
    held.finish ≤ last.base.toNat ∨ held = last ∨ rule held = false := by
  obtain ⟨_, after, before, whole, none⟩ := List.find?_eq_some_iff_append.mp sought
  have apart := List.pairwise_reverse.mpr ascending.apart
  rw [whole, List.pairwise_append, List.pairwise_cons] at apart
  have listed := List.mem_reverse.mpr member
  rw [whole, List.mem_append, List.mem_cons] at listed
  rcases listed with past | same | lower
  · exact .inr (.inr (by simpa using none held past))
  · exact .inr (.inl same)
  · exact .inl (apart.2.1.1 held lower)

theorem windowAt?_eq_some_iff {map : AddressMap} (ascending : Ascending map.windows)
    {address : Address} {window : Window} :
    map.windowAt? address = some window ↔
      window ∈ map.windows ∧ window.contains address = true := by
  constructor
  · intro found
    obtain ⟨sought, holds⟩ := Option.filter_eq_some_iff.mp found
    exact ⟨List.mem_reverse.mp (List.mem_of_find?_eq_some sought), holds⟩
  · rintro ⟨member, holds⟩
    obtain ⟨start, ends⟩ := Window.contains_iff.mp holds
    cases sought : map.windows.reverse.find? (·.base.toNat ≤ address.toNat) with
    | none =>
      have never := List.find?_eq_none.mp sought window (List.mem_reverse.mpr member)
      simp only [decide_eq_true_eq] at never
      exact absurd start never
    | some last =>
      have starts := List.find?_some sought
      have same : last = window := by
        rcases ascending.of_find? sought member with below | same | behind
        · simp only [decide_eq_true_eq] at starts
          omega
        · exact same.symm
        · simp only [decide_eq_false_iff_not] at behind
          exact absurd start behind
      rw [windowAt?, sought, same, Option.filter_some, if_pos holds]

theorem decode_eq_some_iff {map : AddressMap} (ascending : Ascending map.windows)
    {address : Address} {owner : PortId} :
    map.decode address = some owner ↔
      ∃ window ∈ map.windows, window.owner = owner ∧ window.contains address = true := by
  simp only [decode, Option.map_eq_some_iff, windowAt?_eq_some_iff ascending]
  constructor
  · rintro ⟨window, ⟨member, holds⟩, owned⟩
    exact ⟨window, member, owned, holds⟩
  · rintro ⟨window, member, owned, holds⟩
    exact ⟨window, ⟨member, holds⟩, owned⟩

/-- The rules that a window keeps which enters a map. -/
structure Admits (map : AddressMap) (window : Window) (alignment span : Nat) : Prop where
  powerOfTwo : window.size.isPowerOfTwo
  alignment_le : alignment ≤ window.size
  le_span : window.size ≤ span
  below : window.finish < UInt64.size
  clear : map.overlapping? window = none
  positive : 0 < alignment
  aligned : alignment ∣ window.base.toNat

theorem insert?_eq_ok {map after : AddressMap} {window : Window} {alignment span : Nat}
    (inserted : map.insert? window alignment span = .ok after) :
    map.Admits window alignment span ∧
      after = { map with windows := place window map.windows } := by
  unfold insert? at inserted
  dsimp only at inserted
  split at inserted
  · cases inserted
  split at inserted
  · cases inserted
  rename_i size
  split at inserted
  · cases inserted
  rename_i range
  split at inserted
  · cases inserted
  rename_i clear
  split at inserted
  · cases inserted
  rename_i nonzero
  split at inserted
  · cases inserted
  rename_i aligned
  cases inserted
  simp only [not_or, Decidable.not_not, Nat.not_lt, ge_iff_le, Nat.not_le, gt_iff_lt] at size range
  exact ⟨⟨size.1, size.2, range.1, range.2, clear, Nat.pos_of_ne_zero nonzero,
    Nat.dvd_of_mod_eq_zero (Decidable.not_not.mp aligned)⟩, rfl⟩

/-- A slave's window is held against what the slave's lines reach, and these are few enough to be
counted. -/
theorem register?_eq_ok {map after : AddressMap} {slave : Port} {base : Address} {size : Nat}
    (registered : map.register? slave base size = .ok after) :
    slave.addressableBytes? = some slave.addressableBytes ∧
      map.insert? ⟨slave.name, base, size, slave.id, slave.dataWidth⟩ slave.naturalAlignment
        slave.addressableBytes = .ok after := by
  unfold register? Port.addressableBytes? at registered
  unfold Port.addressableBytes?
  split at registered
  · cases registered
  · rename_i span counted
    split at counted
    · rename_i fits
      cases counted
      exact ⟨if_pos fits, registered⟩
    · cases counted

theorem apart_of_overlapping? {map : AddressMap} (ascending : Ascending map.windows)
    {window : Window} (clear : map.overlapping? window = none) {held : Window}
    (member : held ∈ map.windows) :
    held.finish ≤ window.base.toNat ∨ window.finish ≤ held.base.toNat := by
  unfold overlapping? at clear
  cases sought : map.windows.reverse.find? (·.base.toNat < window.finish) with
  | none =>
    have never := List.find?_eq_none.mp sought held (List.mem_reverse.mpr member)
    simp only [decide_eq_true_eq, Nat.not_lt] at never
    exact .inr never
  | some last =>
    rw [sought, Option.filter_some] at clear
    have ends : last.finish ≤ window.base.toNat := by simpa using clear
    rcases ascending.of_find? sought member with below | rfl | behind
    · unfold Window.finish at ends
      exact .inl (by omega)
    · exact .inl ends
    · simp only [decide_eq_false_iff_not, Nat.not_lt] at behind
      exact .inr behind

/-- Adding a window keeps the order. -/
theorem Ascending.insert? {map after : AddressMap} (ascending : Ascending map.windows)
    {window : Window} {alignment span : Nat}
    (inserted : map.insert? window alignment span = .ok after) : Ascending after.windows := by
  obtain ⟨admits, rfl⟩ := insert?_eq_ok inserted
  exact ascending.place (Nat.pos_of_isPowerOfTwo admits.powerOfTwo) fun held member =>
    apart_of_overlapping? ascending admits.clear member

/-- Windows that are all added keep the rules and the order. -/
theorem insertAll_eq_ok {map after : AddressMap} {alignment span : Nat} {windows : List Window}
    (ascending : Ascending map.windows)
    (inserted : map.insertAll alignment span windows = (after, .ok ())) :
    Ascending after.windows ∧
      (∀ window, window ∈ after.windows ↔ window ∈ map.windows ∨ window ∈ windows) ∧
      ∀ window ∈ windows, ∃ earlier : AddressMap, earlier.Admits window alignment span := by
  induction windows generalizing map with
  | nil =>
    cases inserted
    exact ⟨ascending, by simp, nofun⟩
  | cons window rest ih =>
    unfold insertAll at inserted
    split at inserted
    · rename_i next first
      obtain ⟨admits, rfl⟩ := insert?_eq_ok first
      obtain ⟨ordered, members, kept⟩ := ih (ascending.insert? first) inserted
      refine ⟨ordered, ?_, ?_⟩
      · intro other
        rw [members, mem_place, List.mem_cons]
        constructor
        · rintro ((same | held) | later)
          · exact .inr (.inl same)
          · exact .inl held
          · exact .inr (.inr later)
        · rintro (held | same | later)
          · exact .inl (.inr held)
          · exact .inl (.inl same)
          · exact .inr later
      · intro other member
        rcases List.mem_cons.mp member with rfl | later
        · exact ⟨map, admits⟩
        · exact kept other later
    · cases inserted

/-- A window of whole cells holds all of a cell or nothing of it. -/
theorem contains_alignDown {window : Window} {bytes : Nat} (cell : IsCell bytes)
    (base : bytes ∣ window.base.toNat) (size : bytes ∣ window.size) (address : Address) :
    window.contains (address.alignDown bytes) = window.contains address := by
  have finish : bytes ∣ window.finish := Nat.dvd_add base size
  rw [Bool.eq_iff_iff, Window.contains_iff, Window.contains_iff,
    Address.le_alignDown_iff address cell base, ← Nat.not_le, ← Nat.not_le,
    Address.le_alignDown_iff address cell finish]

/-- Where windows are made of whole cells, the cell of an address has the owner of the address. -/
theorem decode_alignDown {map : AddressMap} (ascending : Ascending map.windows) {bytes : Nat}
    (cell : IsCell bytes)
    (whole : ∀ window ∈ map.windows, bytes ∣ window.base.toNat ∧ bytes ∣ window.size)
    (address : Address) : map.decode (address.alignDown bytes) = map.decode address := by
  unfold decode
  congr 1
  apply Option.ext
  intro window
  rw [windowAt?_eq_some_iff ascending, windowAt?_eq_some_iff ascending, and_congr_right_iff]
  intro member
  obtain ⟨base, size⟩ := whole window member
  rw [contains_alignDown cell base size]

/-- A window that is all that its owner has is made of whole cells, if every cell has the owner of
each of its addresses. -/
theorem whole_of_decode_alignDown {map : AddressMap} (ascending : Ascending map.windows)
    {bytes : Nat} (cell : IsCell bytes)
    (alike : ∀ address, map.decode (address.alignDown bytes) = map.decode address)
    {window : Window} (member : window ∈ map.windows) (below : window.finish < UInt64.size)
    (only : ∀ other ∈ map.windows, other.owner = window.owner → other = window) :
    bytes ∣ window.base.toNat ∧ bytes ∣ window.size := by
  have owned {address : Address} :
      map.decode address = some window.owner ↔ window.contains address = true := by
    rw [decode_eq_some_iff ascending]
    constructor
    · rintro ⟨other, held, owner, holds⟩
      rw [only other held owner] at holds
      exact holds
    · exact fun holds => ⟨window, member, rfl, holds⟩
  have nonempty := ascending.nonempty window member
  have base : bytes ∣ window.base.toNat := by
    have holds : window.contains window.base = true := by
      rw [Window.contains_iff, Window.finish]
      omega
    have start := (Window.contains_iff.mp (owned.mp ((alike _).trans (owned.mpr holds)))).1
    have least := Nat.mod_le window.base.toNat bytes
    rw [Address.toNat_alignDown _ cell] at start
    exact Nat.dvd_of_mod_eq_zero (by omega)
  refine ⟨base, (Nat.dvd_add_iff_right base).mpr (Decidable.byContradiction fun cut => ?_)⟩
  -- The cell in which the window ends starts in the window and goes on behind it.
  have finish : (BitVec.ofNat 64 window.finish).toNat = window.finish := Nat.mod_eq_of_lt below
  have holds : window.contains (Address.alignDown (BitVec.ofNat 64 window.finish) bytes) = true := by
    have cuts : window.finish % bytes ≠ 0 := fun none => cut (Nat.dvd_of_mod_eq_zero none)
    have least := Nat.mod_le window.finish bytes
    have start := Address.toNat_alignDown (BitVec.ofNat 64 window.finish) cell
    rw [Window.contains_iff, Address.le_alignDown_iff _ cell base, start, finish]
    unfold Window.finish at *
    omega
  have past := (Window.contains_iff.mp (owned.mp ((alike _).symm.trans (owned.mpr holds)))).2
  rw [finish] at past
  exact Nat.lt_irrefl _ past

end AddressMap

end BusFabric
