import BusFabric.Text.Number

set_option autoImplicit false

namespace BusFabric.Json

inductive ReadError where
  /-- The text ends too early. -/
  | incomplete
  /-- The text is not JSON. -/
  | malformed
  /-- The text is JSON, but of another value. -/
  | mismatched
  deriving DecidableEq

inductive Numeral where
  /-- An unsigned integer without fraction and exponent, of at most 64 bits. -/
  | natural (n : Nat)
  /-- Any other number. -/
  | other
  /-- A number past every finite double. -/
  | huge
  /-- The text ends inside the number. -/
  | cutOff
  /-- The number goes wrong. -/
  | broken
  deriving DecidableEq

/-- What one or more characters of a JSON text are, both to a reader that wants the value and to one
that passes over it: the first minds whether escapes spell characters and whether numbers are in
range, the second does not. -/
inductive Token where
  | openList
  | closeList
  | openObject
  | closeObject
  | comma
  | colon
  /-- A number. -/
  | number (numeral : Numeral)
  /-- A string: what it says, and why passing over it fails, if it does. -/
  | string (content : Except ReadError String) (passing : Option ReadError)
  /-- A word that starts like `null`, `true` or `false`, and how it goes wrong, if it does. -/
  | null (error : Option ReadError)
  | boolean (error : Option ReadError)
  /-- A character that starts no token. -/
  | stray

/-- The value of four hexadecimal digits. -/
def hexUnit? (a b c d : Char) : Option Nat := do
  let a ← Text.digit? 16 a
  let b ← Text.digit? 16 b
  let c ← Text.digit? 16 c
  let d ← Text.digit? 16 d
  return ((a * 16 + b) * 16 + c) * 16 + d

/-- Why a text of fewer than four characters spells no unit of four digits. Four bytes are enough
to see that it never will. -/
def shortUnit (cs : List Char) : ReadError :=
  if (String.ofList cs).utf8ByteSize < 4 then .incomplete else .malformed

/-- The character that a one-letter escape stands for. -/
def simpleEscape? : Char → Option Char
  | '"' => some '"'
  | '\\' => some '\\'
  | '/' => some '/'
  | 'b' => some '\x08'
  | 'f' => some '\x0c'
  | 'n' => some '\n'
  | 'r' => some '\r'
  | 't' => some '\t'
  | _ => none

/-- Passes over a string whose opening quote is read. -/
def skipString : List Char → Except ReadError (List Char)
  | [] | ['\\'] => .error .incomplete
  | '"' :: rest => .ok rest
  | '\\' :: 'u' :: a :: b :: c :: d :: rest =>
    match hexUnit? a b c d with
    | some _ => skipString rest
    | none => .error .malformed
  | '\\' :: 'u' :: rest => .error (shortUnit rest)
  | '\\' :: c :: rest =>
    match simpleEscape? c with
    | some _ => skipString rest
    | none => .error .malformed
  | c :: rest => if c.toNat < 32 then .error .malformed else skipString rest

/-- The first half of a surrogate pair. -/
def isLeading (unit : Nat) : Bool :=
  0xD800 ≤ unit && unit ≤ 0xDBFF

/-- The second half of a surrogate pair. -/
def isTrailing (unit : Nat) : Bool :=
  0xDC00 ≤ unit && unit ≤ 0xDFFF

/-- The character that a surrogate pair stands for. -/
def pairedChar (leading trailing : Nat) : Char :=
  Char.ofNat (0x10000 + (leading - 0xD800) * 0x400 + (trailing - 0xDC00))

/-- What a string says whose opening quote is read, after the characters of `said`, the latest
first. Halves of surrogate pairs have to come in pairs. -/
def stringContent (said : List Char) : List Char → Except ReadError String
  | [] | ['\\'] => .error .incomplete
  | '"' :: _ => .ok (String.ofList said.reverse)
  | '\\' :: 'u' :: a :: b :: c :: d :: rest =>
    match hexUnit? a b c d with
    | none => .error .malformed
    | some unit =>
      if isTrailing unit then .error .malformed
      else if isLeading unit then
        match rest with
        | '\\' :: 'u' :: e :: f :: g :: h :: rest =>
          match (hexUnit? e f g h).filter isTrailing with
          | some trailing => stringContent (pairedChar unit trailing :: said) rest
          | none => .error .malformed
        | '\\' :: 'u' :: rest => .error (shortUnit rest)
        | [] | ['\\'] => .error .incomplete
        | _ => .error .malformed
      else stringContent (Char.ofNat unit :: said) rest
  | '\\' :: 'u' :: rest => .error (shortUnit rest)
  | '\\' :: c :: rest =>
    match simpleEscape? c with
    | some c => stringContent (c :: said) rest
    | none => .error .malformed
  | c :: rest => if c.toNat < 32 then .error .malformed else stringContent (c :: said) rest

/-- The nearest number of 53 significant bits, the even one of two. -/
def roundToDouble (n : Nat) : Nat :=
  let unit := 1 <<< (n.log2 - 52)
  let kept := n / unit
  let dropped := n % unit
  if 2 * dropped > unit ∨ (2 * dropped = unit ∧ kept % 2 = 1) then (kept + 1) * unit
  else kept * unit

/-- Whether `significand · 10 ^ exponent` is past every finite double. -/
def isHuge (significand : Nat) (exponent : Int) : Bool :=
  significand ≠ 0 && 0 < exponent &&
    (308 < exponent ||
      1 <<< 1024 ≤
        roundToDouble (roundToDouble significand * roundToDouble (Nat.pow 10 exponent.toNat)))

/-- Takes digits as long as the value stays in 64 bits, and gives back the others. -/
def significand (value : Nat) : List Nat → Nat × List Nat
  | [] => (value, [])
  | digit :: digits =>
    if value * 10 + digit < UInt64.size then significand (value * 10 + digit) digits
    else (value, digit :: digits)

def takeDigits (cs : List Char) : List Nat × List Char :=
  ((cs.takeWhile (·.isDigit)).map (fun c => c.toNat - '0'.toNat), cs.dropWhile (·.isDigit))

def noDigit (cs : List Char) : Numeral × List Char :=
  (if cs.isEmpty then .cutOff else .broken, [])

/-- Reads the part of a number after its `e`, for a number that has all else. -/
def exponentPart (value : Nat) (exponent : Int) (cs : List Char) : Numeral × List Char :=
  let (isNegative, cs) :=
    match cs with
    | '+' :: cs => (false, cs)
    | '-' :: cs => (true, cs)
    | cs => (false, cs)
  match takeDigits cs with
  | ([], cs) => noDigit cs
  | (digits, cs) =>
    let n : Nat := digits.foldl (fun n digit => n * 10 + digit) 0
    let exponent := if isNegative then exponent - n else exponent + n
    (if isHuge value exponent then .huge else .other, cs)

/-- Reads what may follow the digits of a number's fraction. -/
def afterFraction (value : Nat) (exponent : Int) : List Char → Numeral × List Char
  | 'e' :: cs | 'E' :: cs => exponentPart value exponent cs
  | cs => (if isHuge value exponent then .huge else .other, cs)

/-- Reads what may follow the integer digits of a number. -/
def afterInteger (isNegative : Bool) (digits : List Nat) (cs : List Char) :
    Numeral × List Char :=
  let (value, excess) := significand 0 digits
  match cs with
  | '.' :: cs =>
    match takeDigits cs with
    | ([], cs) => noDigit cs
    | (fraction, cs) =>
      let (value, unused) := significand value fraction
      let used : Int := fraction.length - unused.length
      afterFraction value (excess.length - used) cs
  | 'e' :: cs | 'E' :: cs => exponentPart value excess.length cs
  | cs =>
    if excess.isEmpty && !isNegative then (.natural value, cs)
    else (if isHuge value excess.length then .huge else .other, cs)

/-- Reads a number after its sign. Only a lone zero starts with zero. -/
def numeral (isNegative : Bool) (cs : List Char) : Numeral × List Char :=
  match takeDigits cs with
  | ([], cs) => noDigit cs
  | (0 :: _ :: _, _) => (.broken, [])
  | (digits, cs) => afterInteger isNegative digits cs

/-- How a text fails to go on with the characters of a word, if it does. -/
def wordError : List Char → List Char → Option ReadError
  | [], _ => none
  | _ :: _, [] => some .incomplete
  | c :: word, d :: cs => if c = d then wordError word cs else some .malformed

def firstToken (c : Char) (cs : List Char) : Token × List Char :=
  match c with
  | '[' => (.openList, cs)
  | ']' => (.closeList, cs)
  | '\x7b' => (.openObject, cs)
  | '\x7d' => (.closeObject, cs)
  | ',' => (.comma, cs)
  | ':' => (.colon, cs)
  | '"' =>
    match skipString cs with
    | .ok rest => (.string (stringContent [] cs) none, rest)
    | .error error => (.string (stringContent [] cs) (some error), [])
  | 'n' => (.null (wordError ['u', 'l', 'l'] cs), cs.drop 3)
  | 't' => (.boolean (wordError ['r', 'u', 'e'] cs), cs.drop 3)
  | 'f' => (.boolean (wordError ['a', 'l', 's', 'e'] cs), cs.drop 4)
  | '-' =>
    let (numeral, rest) := numeral true cs
    (.number numeral, rest)
  | c =>
    if c.isDigit then
      let (numeral, rest) := numeral false (c :: cs)
      (.number numeral, rest)
    else (.stray, [])

/-- A character that may stand between tokens. -/
def isBlank (c : Char) : Bool :=
  c = ' ' || c = '\n' || c = '\t' || c = '\r'

/-- The tokens of a text of at most `length` characters; every token takes at least one. -/
def tokensFrom : Nat → List Char → List Token
  | 0, _ => []
  | length + 1, cs =>
    match cs.dropWhile isBlank with
    | [] => []
    | c :: cs =>
      let (token, rest) := firstToken c cs
      token :: tokensFrom length rest

/-- The tokens of a text. A token that breaks off or goes wrong ends the list, for nobody reads past
it. -/
def tokens (text : String) : List Token :=
  tokensFrom text.length text.toList

end BusFabric.Json
