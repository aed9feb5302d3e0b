import BusFabric.Json.Token

set_option autoImplicit false

namespace BusFabric.Json

/-- Reads a value off the front of the tokens. The first thing that is wrong, in the order of the
text, is the error; a value of the wrong kind is reported only when it is sound in itself. -/
abbrev Reader (α : Type) := List Token → Except ReadError (α × List Token)

/-- The error of meeting a token where a value of another kind is wanted. -/
def Token.unwanted : Token → ReadError
  | number .cutOff => .incomplete
  | number .broken | number .huge => .malformed
  | number (.natural _) | number .other => .mismatched
  | string (.error error) _ => error
  | string (.ok _) _ => .mismatched
  | null error | boolean error => error.getD .mismatched
  | openList | openObject => .mismatched
  | closeList | closeObject | comma | colon | stray => .malformed

def Token.isColon : Token → Bool
  | colon => true
  | _ => false

def Token.isCloseObject : Token → Bool
  | closeObject => true
  | _ => false

namespace Reader

/-- Reads an unsigned integer below `bound`. -/
def natural (bound : Nat) : Reader Nat
  | [] => .error .incomplete
  | .number (.natural n) :: rest => if n < bound then .ok (n, rest) else .error .mismatched
  | token :: _ => .error token.unwanted

/-- Reads an unsigned integer below `bound`, or `null` for none. -/
def natural? (bound : Nat) : Reader (Option Nat)
  | .null none :: rest => .ok (none, rest)
  | tokens => do
    let (n, rest) ← natural bound tokens
    return (some n, rest)

def string : Reader String
  | [] => .error .incomplete
  | .string (.ok content) _ :: rest => .ok (content, rest)
  | token :: _ => .error token.unwanted

/-- Reads a punctuation mark, which is told by `isMark`. -/
def mark (isMark : Token → Bool) : Reader Unit
  | [] => .error .incomplete
  | token :: rest => if isMark token then .ok ((), rest) else .error .malformed

/-- Reads a string that names one of several choices. Any other token is out of place. -/
def choiceName {α : Type} (choices : List (String × α)) : Reader α
  | [] => .error .incomplete
  | .string content _ :: rest => do
    match choices.lookup (← content) with
    | some choice => return (choice, rest)
    | none => .error .mismatched
  | _ :: _ => .error .malformed

def nothing : Reader Unit
  | [] => .error .incomplete
  | .null none :: rest => .ok ((), rest)
  | token :: _ => .error token.unwanted

/-- Reads one of several choices: its name, or an object with its name for the only key and `null`
for the value. -/
def choice {α : Type} (choices : List (String × α)) : Reader α
  | .openObject :: rest => do
    let (choice, rest) ← choiceName choices rest
    let ((), rest) ← mark (·.isColon) rest
    let ((), rest) ← nothing rest
    let ((), rest) ← mark (·.isCloseObject) rest
    return (choice, rest)
  | tokens => choiceName choices tokens

end Reader

inductive Bracket where
  | list
  | object
  deriving DecidableEq

inductive Expected where
  /-- A value. -/
  | value
  /-- The first item or field, or the end of the innermost bracket. -/
  | first
  /-- A comma, or the end of the innermost bracket. -/
  | separator
  /-- The key of a field. -/
  | key
  | colon
  /-- Nothing: the value is passed over. -/
  | done
  deriving DecidableEq

/-- The state of passing over a value: what comes next, and the open brackets, innermost first. -/
structure Passing where
  expected : Expected := .value
  brackets : List Bracket := []
  deriving DecidableEq

namespace Passing

def ended (brackets : List Bracket) : Passing :=
  ⟨if brackets.isEmpty then .done else .separator, brackets⟩

/-- The end of a value that consists of one token. -/
def scalar (brackets : List Bracket) (error : Option ReadError) : Except ReadError Passing :=
  match error with
  | none => .ok (ended brackets)
  | some error => .error error

def meetValue (brackets : List Bracket) : Token → Except ReadError Passing
  | .openList => .ok ⟨.first, .list :: brackets⟩
  | .openObject => .ok ⟨.first, .object :: brackets⟩
  | .number .cutOff | .number .broken => .error .malformed
  | .number .huge | .number .other | .number (.natural _) => .ok (ended brackets)
  | .string _ passing => scalar brackets passing
  | .null error | .boolean error => scalar brackets error
  | .closeList | .closeObject | .comma | .colon | .stray => .error .malformed

def meetKey (brackets : List Bracket) : Token → Except ReadError Passing
  | .string _ none => .ok ⟨.colon, brackets⟩
  | .string _ (some error) => .error error
  | _ => .error .malformed

def meet (passing : Passing) (token : Token) : Except ReadError Passing :=
  match passing.expected, passing.brackets, token with
  | .value, brackets, token => meetValue brackets token
  | .first, .list :: outer, .closeList => .ok (ended outer)
  | .first, .object :: outer, .closeObject => .ok (ended outer)
  | .first, .list :: outer, token => meetValue (.list :: outer) token
  | .first, .object :: outer, token => meetKey (.object :: outer) token
  | .separator, .list :: outer, .closeList => .ok (ended outer)
  | .separator, .object :: outer, .closeObject => .ok (ended outer)
  | .separator, .list :: outer, .comma => .ok ⟨.value, .list :: outer⟩
  | .separator, .object :: outer, .comma => .ok ⟨.key, .object :: outer⟩
  | .key, brackets, token => meetKey brackets token
  | .colon, brackets, .colon => .ok ⟨.value, brackets⟩
  | _, _, _ => .error .malformed

def skip (passing : Passing) : Reader Unit
  | [] => .error .incomplete
  | token :: rest => do
    let passing ← passing.meet token
    if passing.expected = .done then return ((), rest) else passing.skip rest

end Passing

namespace Reader

def anything : Reader Unit :=
  Passing.skip {}

def listItems {α : Type} (item : Reader α) : Nat → Bool → Reader (List α)
  | _, _, [] => .error .incomplete
  | _, _, .closeList :: rest => .ok ([], rest)
  | 0, _, _ :: _ => .error .malformed
  | count + 1, isFirst, token :: rest => do
    let start ←
      match isFirst, token, rest with
      | true, token, rest => .ok (token :: rest)
      | false, .comma, [] => .error .incomplete
      | false, .comma, .closeList :: _ => .error .malformed
      | false, .comma, rest => .ok rest
      | false, _, _ => .error ReadError.malformed
    let (value, rest) ← item start
    let (values, rest) ← listItems item count false rest
    return (value :: values, rest)

/-- Reads a list; it has no more items than there are tokens. -/
def list {α : Type} (item : Reader α) : Reader (List α)
  | [] => .error .incomplete
  | .openList :: rest => listItems item rest.length true rest
  | token :: _ => .error token.unwanted

def ofText {α : Type} (reader : Reader α) (text : String) : Except ReadError α := do
  match ← reader (tokens text) with
  | (value, []) => return value
  | (_, _ :: _) => .error .malformed

end Reader

end BusFabric.Json
