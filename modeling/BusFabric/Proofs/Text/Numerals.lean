import BusFabric.Text.Number
import Mathlib.Data.List.Forall2
import Mathlib.Data.Nat.Digits.Defs

set_option autoImplicit false

namespace BusFabric.Text

/-- The character writes the digit `value` of a base, in either case. -/
structure IsDigit (base : Nat) (c : Char) (value : Nat) : Prop where
  small : value < base
  written : c = value.digitChar ∨ c = value.digitChar.toUpper

variable {base : Nat} {c : Char} {value : Nat}

theorem digit?_eq_some_iff_of_le (le : base ≤ 16) :
    digit? base c = some value ↔ digit? 16 c = some value ∧ value < base := by
  unfold digit?
  simp only [Option.filter_eq_some_iff, decide_eq_true_eq]
  constructor
  · rintro ⟨counts, small⟩
    exact ⟨⟨counts, Nat.lt_of_lt_of_le small le⟩, small⟩
  · rintro ⟨⟨counts, _⟩, small⟩
    exact ⟨counts, small⟩

theorem toNat_lt_of_digit? (digit : digit? base c = some value) : c.toNat < 128 := by
  have order : ∀ last : Char, c ≤ last → c.toNat ≤ last.toNat := fun _ below => below
  unfold digit? at digit
  obtain ⟨counts, _⟩ := Option.filter_eq_some_iff.mp digit
  split at counts
  · rename_i range
    exact Nat.lt_of_le_of_lt (order '9' range.2) (by decide)
  split at counts
  · rename_i range
    exact Nat.lt_of_le_of_lt (order 'f' range.2) (by decide)
  split at counts
  · rename_i range
    exact Nat.lt_of_le_of_lt (order 'F' range.2) (by decide)
  · cases counts

theorem digit?_digitChar : ∀ value < 16,
    digit? 16 value.digitChar = some value ∧ digit? 16 value.digitChar.toUpper = some value := by
  decide

theorem digit?_ofNat : ∀ code < 128, (digit? 16 (Char.ofNat code)).all (fun value =>
    Char.ofNat code = value.digitChar ∨ Char.ofNat code = value.digitChar.toUpper) = true := by
  decide

theorem digit?_eq_some_iff (le : base ≤ 16) :
    digit? base c = some value ↔ IsDigit base c value := by
  rw [digit?_eq_some_iff_of_le le]
  constructor
  · rintro ⟨digit, small⟩
    have known := digit?_ofNat c.toNat (toNat_lt_of_digit? digit)
    rw [Char.ofNat_toNat, digit, Option.all_some, decide_eq_true_eq] at known
    exact ⟨small, known⟩
  · rintro ⟨small, written⟩
    have known := digit?_digitChar value (Nat.lt_of_lt_of_le small le)
    rcases written with rfl | rfl
    · exact ⟨known.1, small⟩
    · exact ⟨known.2, small⟩

theorem not_isDigit (le : base ≤ 16) (other : digit? 16 c = none) : ¬ IsDigit base c value := by
  intro digit
  have read := (digit?_eq_some_iff_of_le le).mp ((digit?_eq_some_iff le).mpr digit)
  cases other.symm.trans read.1

/-- The digits of a base, most significant first, write the value. -/
def Writes (base : Nat) (digits : List Char) (value : Nat) : Prop :=
  ∃ values, List.Forall₂ (IsDigit base) digits values ∧ Nat.ofDigits base values.reverse = value

theorem Writes.isDigit_of_mem {digits : List Char} (writes : Writes base digits value)
    (member : c ∈ digits) : ∃ value, IsDigit base c value := by
  obtain ⟨values, same, -⟩ := writes
  induction same with
  | nil => cases member
  | cons digit _ ih =>
    rcases List.mem_cons.mp member with rfl | later
    · exact ⟨_, digit⟩
    · exact ih later

/-- The number that `start` becomes when digits are put behind it. -/
def extend (base start : Nat) (values : List Nat) : Nat :=
  values.foldl (fun number digit => number * base + digit) start

theorem extend_zero (base : Nat) (values : List Nat) :
    extend base 0 values = Nat.ofDigits base values.reverse := by
  rw [Nat.ofDigits_eq_foldr, List.foldr_reverse]
  unfold extend
  congr 1
  funext number digit
  rw [Nat.add_comm, Nat.mul_comm]
  rfl

theorem le_extend (positive : 0 < base) (start : Nat) (values : List Nat) :
    start ≤ extend base start values := by
  induction values generalizing start with
  | nil => exact Nat.le_refl start
  | cons digit rest ih =>
    have grown : start ≤ start * base + digit :=
      Nat.le_trans (Nat.le_mul_of_pos_right start positive) (Nat.le_add_right _ digit)
    exact Nat.le_trans grown (ih _)

/-- Digits are read on as long as the number has 64 bits; it never gets smaller. -/
theorem digitsFrom_eq_ok_iff (le : base ≤ 16) {start : Nat} (fits : start < UInt64.size)
    (cs : List Char) :
    digitsFrom base start cs = .ok value ↔
      (∃ values, List.Forall₂ (IsDigit base) cs values ∧ extend base start values = value) ∧
        value < UInt64.size := by
  induction cs generalizing start with
  | nil =>
    simp only [digitsFrom, Except.ok.injEq, List.forall₂_nil_left_iff, exists_eq_left]
    constructor
    · rintro rfl
      exact ⟨rfl, fits⟩
    · exact fun same => same.1
  | cons c cs ih =>
    unfold digitsFrom
    cases read : digit? base c with
    | none =>
      refine iff_of_false nofun ?_
      rintro ⟨⟨values, digits, _⟩, _⟩
      cases digits with
      | cons digit _ =>
        rw [(digit?_eq_some_iff le).mpr digit] at read
        cases read
    | some first =>
      have digit := (digit?_eq_some_iff le).mp read
      -- The first digit is fixed, so the values differ in the others only.
      have only : (∃ values, List.Forall₂ (IsDigit base) (c :: cs) values ∧
            extend base start values = value) ↔
          ∃ values, List.Forall₂ (IsDigit base) cs values ∧
            extend base (start * base + first) values = value := by
        constructor
        · rintro ⟨values, digits, same⟩
          cases digits with
          | cons head tail =>
            rw [(digit?_eq_some_iff le).mpr head] at read
            cases read
            exact ⟨_, tail, same⟩
        · rintro ⟨values, digits, same⟩
          exact ⟨first :: values, .cons digit digits, same⟩
      dsimp only
      rw [only]
      split
      · rename_i next
        exact ih next
      · rename_i large
        refine iff_of_false nofun ?_
        rintro ⟨⟨values, _, rfl⟩, small⟩
        have grown := le_extend (Nat.zero_lt_of_lt digit.small) (start * base + first) values
        omega

/-- The text is a numeral of a base: an optional `+`, and digits that write the value. -/
def IsNumeral (base : Nat) (text : List Char) (value : Nat) : Prop :=
  ∃ digits, (text = digits ∨ text = '+' :: digits) ∧ digits ≠ [] ∧ Writes base digits value

/-- The text is a number: a decimal numeral, or a hexadecimal one after `0x`, of 64 bits. -/
structure IsNumber (text : List Char) (value : Nat) : Prop where
  numeral : IsNumeral 10 text value ∨ ∃ digits, text = '0' :: 'x' :: digits ∧
    IsNumeral 16 digits value
  fits : value < UInt64.size

theorem IsNumeral.isDigit_of_mem {text : List Char} (numeral : IsNumeral base text value)
    (member : c ∈ text) : c = '+' ∨ ∃ value, IsDigit base c value := by
  obtain ⟨digits, rfl | rfl, _, writes⟩ := numeral
  · exact .inr (writes.isDigit_of_mem member)
  · rcases List.mem_cons.mp member with sign | later
    · exact .inl sign
    · exact .inr (writes.isDigit_of_mem later)

theorem IsNumber.not_mem {text : List Char} (counts : IsNumber text value) {c : Char}
    (other : digit? 16 c = none) (noSign : c ≠ '+') (noMark : c ≠ 'x') : c ∉ text := by
  intro member
  rcases counts.numeral with decimal | ⟨digits, rfl, hexadecimal⟩
  · rcases decimal.isDigit_of_mem member with sign | ⟨_, digit⟩
    · exact noSign sign
    · exact not_isDigit (by decide) other digit
  · rcases List.mem_cons.mp member with rfl | later
    · exact absurd other (by decide)
    rcases List.mem_cons.mp later with mark | last
    · exact noMark mark
    rcases hexadecimal.isDigit_of_mem last with sign | ⟨_, digit⟩
    · exact noSign sign
    · exact not_isDigit (by decide) other digit

theorem digitsFrom_zero_eq_ok_iff (le : base ≤ 16) (digits : List Char) :
    digitsFrom base 0 digits = .ok value ↔ Writes base digits value ∧ value < UInt64.size := by
  rw [digitsFrom_eq_ok_iff le (by decide)]
  simp only [extend_zero, Writes]

theorem isNumeral_iff_writes {c : Char} {cs : List Char} (noSign : c ≠ '+') :
    IsNumeral base (c :: cs) value ↔ Writes base (c :: cs) value := by
  constructor
  · rintro ⟨digits, rfl | signed, _, writes⟩
    · exact writes
    · exact absurd (List.cons.inj signed).1 noSign
  · exact fun writes => ⟨c :: cs, .inl rfl, List.cons_ne_nil _ _, writes⟩

theorem isNumeral_plus_iff_writes (le : base ≤ 16) {cs : List Char} :
    IsNumeral base ('+' :: cs) value ↔ cs ≠ [] ∧ Writes base cs value := by
  constructor
  · rintro ⟨digits, rfl | signed, some_, writes⟩
    · obtain ⟨_, digits, _⟩ := writes
      cases digits with
      | cons sign _ => exact absurd sign (not_isDigit le (by decide))
    · obtain rfl := (List.cons.inj signed).2
      exact ⟨some_, writes⟩
  · rintro ⟨some_, writes⟩
    exact ⟨cs, .inr rfl, some_, writes⟩

theorem numberInBase_eq_ok_iff (le : base ≤ 16) (text : List Char) :
    numberInBase base text = .ok value ↔ IsNumeral base text value ∧ value < UInt64.size := by
  unfold numberInBase
  split
  · refine iff_of_false nofun ?_
    rintro ⟨⟨digits, rfl | signed, some_, _⟩, _⟩
    · exact some_ rfl
    · cases signed
  · rw [isNumeral_plus_iff_writes le]
    exact iff_of_false nofun fun numeral => numeral.1.1 rfl
  · rename_i cs unfinished
    have some_ : cs ≠ [] := fun none_ => unfinished (by rw [none_])
    rw [isNumeral_plus_iff_writes le, digitsFrom_zero_eq_ok_iff le]
    simp only [some_, ne_eq, not_false_eq_true, true_and]
  · rename_i some_ _ noSign
    cases text with
    | nil => exact absurd rfl some_
    | cons c cs =>
      rw [isNumeral_iff_writes fun sign => noSign cs (by rw [sign]), digitsFrom_zero_eq_ok_iff le]

/-- Reading accepts the numbers and no other text, and gives their values. -/
theorem number_eq_ok_iff (text : List Char) :
    number text = .ok value ↔ IsNumber text value := by
  unfold number
  split
  · rename_i digits
    rw [numberInBase_eq_ok_iff (by decide)]
    constructor
    · rintro ⟨numeral, fits⟩
      exact ⟨.inr ⟨digits, rfl, numeral⟩, fits⟩
    · rintro ⟨decimal | ⟨others, same, numeral⟩, fits⟩
      · -- The mark is not decimal.
        rw [isNumeral_iff_writes (by decide)] at decimal
        obtain ⟨value, mark⟩ := decimal.isDigit_of_mem (List.mem_cons_of_mem _ List.mem_cons_self)
        exact absurd mark (not_isDigit (by decide) (by decide))
      · cases same
        exact ⟨numeral, fits⟩
  · rename_i unmarked
    rw [numberInBase_eq_ok_iff (by decide)]
    constructor
    · rintro ⟨numeral, fits⟩
      exact ⟨.inl numeral, fits⟩
    · rintro ⟨decimal | ⟨digits, marked, _⟩, fits⟩
      · exact ⟨decimal, fits⟩
      · exact absurd marked (unmarked digits)

theorem writes_toDigits (large : 1 < base) (number : Nat) :
    Writes base (Nat.toDigits base number) number := by
  induction number using Nat.strongRecOn with
  | ind number ih =>
    rw [Nat.toDigits_eq_if large]
    split
    · rename_i single
      refine ⟨[number], .cons ⟨single, .inl rfl⟩ .nil, ?_⟩
      rw [List.reverse_singleton, Nat.ofDigits_singleton]
    · rename_i several
      obtain ⟨values, digits, same⟩ := ih (number / base) (Nat.div_lt_self (by omega) large)
      have last : number % base < base := Nat.mod_lt _ (Nat.zero_lt_of_lt large)
      refine ⟨values ++ [number % base], ?_, ?_⟩
      · exact List.rel_append digits (.cons ⟨last, .inl rfl⟩ .nil)
      · rw [List.reverse_concat, Nat.ofDigits_cons, same]
        exact Nat.mod_add_div number base

theorem isNumeral_toDigits (large : 1 < base) (number : Nat) :
    IsNumeral base (Nat.toDigits base number) number :=
  ⟨_, .inl rfl, Nat.toDigits_ne_nil, writes_toDigits large number⟩

/-- The two ways to write a number. -/
inductive Style where
  | decimal
  | hexadecimal
  deriving DecidableEq

def Style.write (number : BitVec 64) : Style → List Char
  | decimal => Nat.toDigits 10 number.toNat
  | hexadecimal => (hex number.toNat).toList

theorem isNumber_write (style : Style) (number : BitVec 64) :
    IsNumber (style.write number) number.toNat := by
  cases style with
  | decimal => exact ⟨.inl (isNumeral_toDigits (by decide) _), number.isLt⟩
  | hexadecimal =>
    refine ⟨.inr ⟨Nat.toDigits 16 number.toNat, ?_, isNumeral_toDigits (by decide) _⟩,
      number.isLt⟩
    show (hex number.toNat).toList = _
    unfold hex
    rw [String.toList_append, String.toList_ofList, String.toList_ofList]
    rfl

end BusFabric.Text
