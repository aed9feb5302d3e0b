set_option autoImplicit false

namespace BusFabric.Text

/-- Lower-case hexadecimal with the mark `0x` and no leading zeros. -/
def hex (n : Nat) : String :=
  "0x" ++ String.ofList (Nat.toDigits 16 n)

inductive NumberError where
  | empty
  | invalidDigit
  | overflow
  deriving DecidableEq

def NumberError.message : NumberError → String
  | empty => "cannot parse integer from empty string"
  | invalidDigit => "invalid digit found in string"
  | overflow => "number too large to fit in target type"

/-- The value of an ASCII digit, upper or lower case, in a base of at most 16. -/
def digit? (base : Nat) (c : Char) : Option Nat :=
  let value? :=
    if '0' ≤ c ∧ c ≤ '9' then some (c.toNat - '0'.toNat)
    else if 'a' ≤ c ∧ c ≤ 'f' then some (c.toNat - 'a'.toNat + 10)
    else if 'A' ≤ c ∧ c ≤ 'F' then some (c.toNat - 'A'.toNat + 10)
    else none
  value?.filter (· < base)

/-- Continues the number `value` with the digits `cs`. The error is that of the first digit that
is none or that leads past the largest 64-bit number. -/
def digitsFrom (base : Nat) : Nat → List Char → Except NumberError Nat
  | value, [] => .ok value
  | value, c :: cs =>
    match digit? base c with
    | none => .error .invalidDigit
    | some digit =>
      let next := value * base + digit
      if next < UInt64.size then digitsFrom base next cs else .error .overflow

/-- Reads a number in one base: an optional `+` and at least one digit. -/
def numberInBase (base : Nat) : List Char → Except NumberError Nat
  | [] => .error .empty
  | ['+'] => .error .invalidDigit
  | '+' :: cs => digitsFrom base 0 cs
  | cs => digitsFrom base 0 cs

/-- Reads a 64-bit number, in hexadecimal after the mark `0x` and in decimal without it. -/
def number (text : List Char) : Except NumberError Nat :=
  match text with
  | '0' :: 'x' :: cs => numberInBase 16 cs
  | cs => numberInBase 10 cs

end BusFabric.Text
