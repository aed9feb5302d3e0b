import BusFabric.Json.Reader
import BusFabric.Port

set_option autoImplicit false

namespace BusFabric.Port

open Json (ReadError Reader Token)

/-- The parts of a port's declaration. -/
inductive Part where
  | id
  | name
  | protocol
  | role
  | dataWidth
  | addressWidth
  | base
  | size
  deriving DecidableEq

namespace Part

def all : List Part :=
  [id, name, protocol, role, dataWidth, addressWidth, base, size]

def fieldName : Part → String
  | id => "id"
  | name => "name"
  | protocol => "protocol"
  | role => "role"
  | dataWidth => "data_width"
  | addressWidth => "address_width"
  | base => "base_address"
  | size => "size"

def ofFieldName? (field : String) : Option Part :=
  all.find? (·.fieldName = field)

/-- Whether a port may go without the part. -/
def isOptional : Part → Bool
  | base | size => true
  | id | name | protocol | role | dataWidth | addressWidth => false

end Part

/-- The parts of a port as far as they are read. -/
structure Draft where
  id : Option Nat := none
  name : Option String := none
  protocol : Option Protocol := none
  role : Option Role := none
  dataWidth : Option Nat := none
  addressWidth : Option Nat := none
  base : Option (Option Nat) := none
  size : Option (Option Nat) := none

namespace Draft

def has (draft : Draft) : Part → Bool
  | .id => draft.id.isSome
  | .name => draft.name.isSome
  | .protocol => draft.protocol.isSome
  | .role => draft.role.isSome
  | .dataWidth => draft.dataWidth.isSome
  | .addressWidth => draft.addressWidth.isSome
  | .base => draft.base.isSome
  | .size => draft.size.isSome

/-- Reads a part. Numbers are 32-bit, the window's base and size 64-bit. -/
def read (draft : Draft) : Part → Reader Draft
  | .id, tokens => do
    let (id, rest) ← Reader.natural UInt32.size tokens
    return ({ draft with id := some id }, rest)
  | .name, tokens => do
    let (name, rest) ← Reader.string tokens
    return ({ draft with name := some name }, rest)
  | .protocol, tokens => do
    let choices := Protocol.all.map fun protocol => (protocol.name, protocol)
    let (protocol, rest) ← Reader.choice choices tokens
    return ({ draft with protocol := some protocol }, rest)
  | .role, tokens => do
    let (role, rest) ← Reader.choice (Role.all.map fun role => (role.name, role)) tokens
    return ({ draft with role := some role }, rest)
  | .dataWidth, tokens => do
    let (width, rest) ← Reader.natural UInt32.size tokens
    return ({ draft with dataWidth := some width }, rest)
  | .addressWidth, tokens => do
    let (width, rest) ← Reader.natural UInt32.size tokens
    return ({ draft with addressWidth := some width }, rest)
  | .base, tokens => do
    let (base, rest) ← Reader.natural? UInt64.size tokens
    return ({ draft with base := some base }, rest)
  | .size, tokens => do
    let (size, rest) ← Reader.natural? UInt64.size tokens
    return ({ draft with size := some size }, rest)

/-- The port, if every part that it needs is read. -/
def port? (draft : Draft) : Option Port := do
  return {
    id := ⟨← draft.id⟩
    name := ← draft.name
    protocol := ← draft.protocol
    role := ← draft.role
    dataWidth := ← draft.dataWidth
    addressWidth := BitVec.ofNat 32 (← draft.addressWidth)
    base := (draft.base.getD none).map (BitVec.ofNat 64)
    size := draft.size.getD none }

def finish (draft : Draft) : Except ReadError Port :=
  match draft.port? with
  | some port => .ok port
  | none => .error .mismatched

/-- Reads a field whose key is read. A part may be given once. -/
def readField (draft : Draft) (key : String) : Reader Draft := fun tokens =>
  match Part.ofFieldName? key with
  | some part =>
    if draft.has part then .error .mismatched
    else do
      let ((), rest) ← Reader.mark (·.isColon) tokens
      draft.read part rest
  | none => do
    let ((), rest) ← Reader.mark (·.isColon) tokens
    let ((), rest) ← Reader.anything rest
    return (draft, rest)

def readFields : Nat → Bool → Draft → Reader Draft
  | _, _, _, [] => .error .incomplete
  | _, _, draft, .closeObject :: rest => .ok (draft, rest)
  | 0, _, _, _ :: _ => .error .malformed
  | count + 1, isFirst, draft, token :: rest => do
    let start ←
      match isFirst, token, rest with
      | true, token, rest => .ok (token :: rest)
      | false, .comma, rest => .ok rest
      | false, _, _ => .error ReadError.malformed
    match start with
    | [] => .error .incomplete
    | .string content passing :: rest =>
      let (key, rest) ← Reader.string (.string content passing :: rest)
      let (draft, rest) ← draft.readField key rest
      readFields count false draft rest
    | _ :: _ => .error .malformed

/-- Reads the parts of a list whose opening bracket is read, in order. The list may end before
parts that a port may go without, and must end after the last. -/
def readParts : List Part → Bool → Draft → Reader Draft
  | [], _, draft, tokens =>
    match tokens with
    | [] => .error .incomplete
    | .closeList :: rest => .ok (draft, rest)
    | _ :: _ => .error .malformed
  | part :: parts, isFirst, draft, tokens =>
    match isFirst, tokens with
    | _, [] => .error .incomplete
    | _, .closeList :: rest =>
      if part.isOptional then .ok (draft, rest) else .error .mismatched
    | true, tokens => do
      let (draft, rest) ← draft.read part tokens
      readParts parts false draft rest
    | false, [.comma] => .error .incomplete
    | false, .comma :: .closeList :: _ => .error .malformed
    | false, .comma :: rest => do
      let (draft, rest) ← draft.read part rest
      readParts parts false draft rest
    | false, _ :: _ => .error .malformed

end Draft

/-- Reads a port: an object with a field for each part of its declaration, in any order, or a list
of the parts in order. The window's base and size may be left out or `null`, and fields of other
names are passed over. -/
def reader : Reader Port
  | [] => .error .incomplete
  | .openObject :: rest => do
    let (draft, rest) ← Draft.readFields rest.length true {} rest
    return (← draft.finish, rest)
  | .openList :: rest => do
    let (draft, rest) ← Draft.readParts Part.all true {} rest
    return (← draft.finish, rest)
  | token :: _ => .error token.unwanted

def ofJson (text : String) : Except ReadError Port :=
  Reader.ofText reader text

def listOfJson (text : String) : Except ReadError (List Port) :=
  Reader.ofText (Reader.list reader) text

end BusFabric.Port
