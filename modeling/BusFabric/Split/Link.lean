import BusFabric.Split.Beat

set_option autoImplicit false

namespace BusFabric.Split

/-- A place for one beat between a sender and a receiver. The sender is stalled while a beat lies
there; taking the beat is the handshake. So a beat that was sent is neither lost nor seen twice. -/
structure Channel (α : Type) where
  beat : Option α := none
  deriving DecidableEq

namespace Channel

variable {α : Type}

def isValid (channel : Channel α) : Bool :=
  channel.beat.isSome

def isReady (channel : Channel α) : Bool :=
  channel.beat.isNone

/-- Drives a beat, or is `none` while an earlier one lies in the channel. -/
def send? (channel : Channel α) (beat : α) : Option (Channel α) :=
  match channel.beat with
  | none => some ⟨some beat⟩
  | some _ => none

def clear (_ : Channel α) : Channel α :=
  ⟨none⟩

/-- Drives a beat that is owed, if there is one and the channel is free; what comes back beside the
channel is still owed. -/
def settle (channel : Channel α) (owed : Option α) : Channel α × Option α :=
  match owed with
  | none => (channel, none)
  | some beat =>
    match channel.send? beat with
    | some channel => (channel, none)
    | none => (channel, some beat)

@[simp] theorem send?_empty (beat : α) : (⟨none⟩ : Channel α).send? beat = some ⟨some beat⟩ := rfl

@[simp] theorem send?_full (held beat : α) : (⟨some held⟩ : Channel α).send? beat = none := rfl

end Channel

structure Link where
  writeAddress : Channel AddressBeat := {}
  writeData : Channel WriteBeat := {}
  writeResponse : Channel WriteResponse := {}
  readAddress : Channel AddressBeat := {}
  readData : Channel ReadBeat := {}
  deriving DecidableEq

/-- No beat lies in any channel. -/
def Link.isQuiet (link : Link) : Bool :=
  link.writeAddress.isReady && link.writeData.isReady && link.writeResponse.isReady &&
    link.readAddress.isReady && link.readData.isReady

end BusFabric.Split
