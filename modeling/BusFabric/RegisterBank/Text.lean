import BusFabric.RegisterBank.Layout
import BusFabric.Text.Quoted

set_option autoImplicit false

namespace BusFabric.RegisterBank

open Text (NumberError quoted)

inductive DeclarationError where
  | wordCount (text : List Char) (error : NumberError)
  | index (text : List Char) (error : NumberError)
  | noName (text : List Char)
  deriving DecidableEq

def DeclarationError.message : DeclarationError → String
  | wordCount text error => s!"bank word count {quoted text}: {error.message}"
  | index text error => s!"bank index {quoted text}: {error.message}"
  | noName text => s!"bank {quoted text} has no name"

def splitAt (mark : Char) (text : List Char) : List Char × Option (List Char) :=
  match text.dropWhile (· ≠ mark) with
  | [] => (text, none)
  | _ :: rest => (text.takeWhile (· ≠ mark), some rest)

/-- The declaration that a text states. The word count is looked at before the index, and both
before the name. -/
def Declaration.ofText (text : List Char) : Except DeclarationError Declaration := do
  let (head, words) := splitAt ':' text
  let words ← words.mapM fun words => (Text.number words).mapError (.wordCount words)
  let (name, index) := splitAt '@' head
  let index ← index.mapM fun index => (Text.number index).mapError (.index index)
  if name.isEmpty then .error (.noName text)
  else .ok ⟨String.ofList name, index, .memory (words.getD 1)⟩

end BusFabric.RegisterBank
