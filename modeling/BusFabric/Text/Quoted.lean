import BusFabric.Text.Number
import BusFabric.Text.Unprintable

set_option autoImplicit false

namespace BusFabric.Text

/-- A character inside quotes. -/
def escape (c : Char) : List Char :=
  match c with
  | '"' => ['\\', '"']
  | '\\' => ['\\', '\\']
  | '\x00' => ['\\', '0']
  | '\t' => ['\\', 't']
  | '\n' => ['\\', 'n']
  | '\r' => ['\\', 'r']
  | c =>
    if isShown c then [c]
    else ['\\', 'u', '\x7b'] ++ Nat.toDigits 16 c.toNat ++ ['\x7d']

def quoted (text : List Char) : String :=
  String.ofList ('"' :: text.flatMap escape ++ ['"'])

end BusFabric.Text
