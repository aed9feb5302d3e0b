import BusFabric.CommandLine.Options

set_option autoImplicit false

namespace BusFabric.CommandLine

inductive Word where
  /-- Two hyphens: options end here. -/
  | escape
  /-- A name after two hyphens, and what follows its `=`. -/
  | long (name : String) (value : Option String)
  /-- Letters after one hyphen. -/
  | short (letters : List Char)
  /-- Anything else, a lone hyphen included. -/
  | plain
  deriving DecidableEq

def Word.ofText (text : String) : Word :=
  match text.toList with
  | ['-', '-'] => .escape
  | '-' :: '-' :: cs =>
    match RegisterBank.splitAt '=' cs with
    | (name, value) => .long (String.ofList name) (value.map String.ofList)
  | ['-'] => .plain
  | '-' :: letters => .short letters
  | _ => .plain

/-- A command line as far as it is read. A value follows its option after `=` or as a word of its
own, and then it is entered when the next option comes, or the end; where the command line goes
wrong before that, its own faults stay unnoticed. -/
structure Reading where
  options : Options := {}
  /-- The option read last, and its value, if that is to be entered yet. -/
  pending : Option (ValueOption × Option String) := none
  deriving DecidableEq

namespace Reading

def settle (reading : Reading) : Except UsageError Options :=
  match reading.pending with
  | none => .ok reading.options
  | some (_, none) => .error .invalidValue
  | some (option, some value) => reading.options.enter option value

def meetOption (reading : Reading) (option : ValueOption) (value : Option String) :
    Except UsageError Reading := do
  let options ← reading.settle
  match value with
  | some value => return { options := ← options.enter option value }
  | none => return { options, pending := some (option, none) }

def meetFlag (reading : Reading) (flag : Flag) : Except UsageError Reading := do
  let options ← reading.settle
  return { options := ← options.raise flag }

def meetLong (reading : Reading) (name : String) (value : Option String) :
    Except UsageError Reading :=
  match ValueOption.all.find? (·.name = name), Flag.all.find? (·.name = name), value with
  | some option, _, value => reading.meetOption option value
  | none, some flag, none => reading.meetFlag flag
  | none, some _, some _ => .error .tooManyValues
  | none, none, _ => .error .unknownArgument

/-- The value in the letters after an option's own, where an `=` may come first. -/
def attached? : List Char → Option String
  | [] => none
  | '=' :: cs => some (String.ofList cs)
  | cs => some (String.ofList cs)

def meetShort (reading : Reading) : List Char → Except UsageError Reading
  | [] => .ok reading
  | letter :: letters =>
    match ValueOption.all.find? (·.letter? = some letter),
      Flag.all.find? (·.letter? = some letter) with
    | some option, _ => reading.meetOption option (attached? letters)
    | none, some flag => do
      let reading ← reading.meetFlag flag
      reading.meetShort letters
    | none, none => .error .unknownArgument

/-- Meets a word that is no option: the value that is waited for, if one is. -/
def meetPlain (reading : Reading) (text : String) : Except UsageError Reading :=
  match reading.pending with
  | some (option, none) => .ok { reading with pending := some (option, some text) }
  | some (_, some _) | none => .error .unknownArgument

/-- Reads words to the end. After the mark that ends the options there may be none. -/
def finish (reading : Reading) : List String → Except UsageError Options
  | [] => reading.settle
  | text :: rest =>
    match Word.ofText text with
    | .escape => if rest.isEmpty then reading.settle else .error .unknownArgument
    | .long name value => do (← reading.meetLong name value).finish rest
    | .short letters => do (← reading.meetShort letters).finish rest
    | .plain => do (← reading.meetPlain text).finish rest

end Reading

/-- The options of a command line, which is given without the program's name. -/
def Options.ofArguments (arguments : List String) : Except UsageError Options :=
  Reading.finish {} arguments

end BusFabric.CommandLine
