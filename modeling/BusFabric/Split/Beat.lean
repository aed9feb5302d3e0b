import BusFabric.Word

set_option autoImplicit false

namespace BusFabric.Split

/-- How the address moves from one data beat to the next. -/
inductive BurstMode where
  /-- Every beat goes to the start address. -/
  | fixed
  /-- Each beat follows the one before it. -/
  | incr
  /-- Like `incr`, but within the block of the burst's own size that holds the start address. -/
  | wrap
  deriving DecidableEq

inductive Status where
  | okay
  /-- The slave that was reached failed. -/
  | slaveError
  /-- No slave was reached. -/
  | decodeError
  deriving DecidableEq

namespace Status

/-- Whether the transfer succeeded. -/
def isOkay (status : Status) : Bool :=
  status = .okay

/-- The status of two transfers taken together: the first error stays. -/
def merge (earlier later : Status) : Status :=
  if earlier.isOkay then later else earlier

end Status

/-- Most beats that the eight-bit length field can ask for. -/
def maxBeats : Nat := 256

/-- The address phase of a burst, alike for writes and reads. It fixes how many data beats there
are, how many bytes each moves and, through `beatAddress`, where each goes. -/
structure AddressBeat where
  /-- Returned with every response, otherwise not looked at. -/
  id : BitVec 32
  address : Address
  /-- One less than the number of data beats. -/
  len : BitVec 8
  /-- The binary logarithm of the bytes in a beat. -/
  size : BitVec 8
  mode : BurstMode
  deriving DecidableEq

namespace AddressBeat

/-- An incrementing burst. Its length is brought into the range from 1 to `maxBeats`. -/
def incr (id : BitVec 32) (address : Address) (size : BitVec 8) (beats : Nat) : AddressBeat where
  id := id
  address := address
  len := BitVec.ofNat 8 (min (max beats 1) maxBeats - 1)
  size := size
  mode := .incr

def single (id : BitVec 32) (address : Address) (size : BitVec 8) : AddressBeat :=
  incr id address size 1

/-- How many data beats the burst has. -/
def beats (beat : AddressBeat) : Nat :=
  beat.len.toNat + 1

/-- How many bytes a beat moves. A size that no bus can carry counts as the largest 32-bit number,
so that it exceeds every bus. -/
def beatBytes (beat : AddressBeat) : Nat :=
  if beat.size.toNat < 32 then 1 <<< beat.size.toNat else UInt32.size - 1

/-- The address of data beat `index`. Only the first beat may start off a beat boundary. -/
def beatAddress (beat : AddressBeat) (index : Nat) : Address :=
  let bytes := beat.beatBytes
  let aligned := beat.address.alignDown bytes
  match beat.mode with
  | .fixed => beat.address
  | .incr => if index = 0 then beat.address else aligned + BitVec.ofNat 64 (index * bytes)
  | .wrap =>
    let block := bytes * beat.beats
    let lower := aligned.alignDown block
    lower + BitVec.ofNat 64 (((aligned - lower).toNat + index * bytes) % block)

def beatLane (beat : AddressBeat) (index : Nat) (busBytes : Nat) : Nat :=
  ((beat.beatAddress index).alignDown beat.beatBytes).toNat % busBytes

end AddressBeat

structure WriteBeat where
  data : Data
  strobe : Strobe
  last : Bool
  deriving DecidableEq

/-- The answer to a whole write burst. -/
structure WriteResponse where
  id : BitVec 32
  status : Status
  deriving DecidableEq

structure ReadBeat where
  id : BitVec 32
  data : Data
  status : Status
  last : Bool
  deriving DecidableEq

end BusFabric.Split
