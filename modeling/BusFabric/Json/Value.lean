set_option autoImplicit false

namespace BusFabric

/-- A JSON value, as far as descriptions use them. Fields of an object keep their order. -/
inductive Json where
  | null
  | number (n : Nat)
  | string (s : String)
  | list (items : List Json)
  | object (fields : List (String × Json))

namespace Json

/-- A hexadecimal digit, in lower case. -/
def hexDigit (n : Nat) : Char :=
  if n < 10 then Char.ofNat ('0'.toNat + n) else Char.ofNat ('a'.toNat + n - 10)

/-- A character inside a JSON string. -/
def escape (c : Char) : List Char :=
  match c with
  | '"' => ['\\', '"']
  | '\\' => ['\\', '\\']
  | '\x08' => ['\\', 'b']
  | '\x0c' => ['\\', 'f']
  | '\n' => ['\\', 'n']
  | '\r' => ['\\', 'r']
  | '\t' => ['\\', 't']
  | c =>
    if c.toNat < 32 then
      ['\\', 'u', '0', '0', hexDigit (c.toNat / 16), hexDigit (c.toNat % 16)]
    else [c]

def quote (s : String) : String :=
  String.ofList ('"' :: s.toList.flatMap escape ++ ['"'])

/-- The blanks at the start of a line. -/
def indent (level : Nat) : String :=
  "".pushn ' ' (2 * level)

/-- Lines between brackets, one level in; with no lines, the brackets alone. -/
def block (opening closing : String) (level : Nat) (lines : List String) : String :=
  if lines.isEmpty then opening ++ closing
  else
    let lines := lines.map (indent (level + 1) ++ ·)
    opening ++ "\n" ++ String.intercalate ",\n" lines ++ "\n" ++ indent level ++ closing

mutual

/-- The text of a value that starts on a line of the given level. -/
def renderAt (level : Nat) : Json → String
  | null => "null"
  | number n => toString n
  | string s => quote s
  | list items => block "[" "]" level (renderItems (level + 1) items)
  | object fields => block "\x7b" "\x7d" level (renderFields (level + 1) fields)

def renderItems (level : Nat) : List Json → List String
  | [] => []
  | item :: items => item.renderAt level :: renderItems level items

def renderFields (level : Nat) : List (String × Json) → List String
  | [] => []
  | (name, value) :: fields =>
    (quote name ++ ": " ++ value.renderAt level) :: renderFields level fields

end

/-- The text of a value over several lines, two blanks to a level, with one blank after each colon.
Empty lists and objects take one line. -/
def render (value : Json) : String :=
  value.renderAt 0

end Json

end BusFabric
