import BusFabric.Simple.Link
import BusFabric.Split.Link

set_option autoImplicit false

namespace BusFabric.Bridge

/-- A byte's place on both sides of a bridge. -/
structure LanePair where
  simple : Nat
  split : Nat
  deriving DecidableEq

/-- A simple-bus word and the lanes of it that a beat uses. -/
structure WordLanes where
  address : Address
  lanes : List LanePair
  deriving DecidableEq

/-- Groups bytes, each a simple-bus address with its split-bus lane, by simple-bus word. Only
neighbours are grouped. -/
def groupByWord (simpleBytes : Nat) : List (Address × Nat) → List WordLanes
  | [] => []
  | (address, split) :: rest =>
    let word := address.alignDown simpleBytes
    let pair : LanePair := ⟨address.toNat % simpleBytes, split⟩
    match groupByWord simpleBytes rest with
    | [] => [⟨word, [pair]⟩]
    | next :: others =>
      if next.address = word then { next with lanes := pair :: next.lanes } :: others
      else ⟨word, [pair]⟩ :: next :: others

/-- A request on the simple bus together with the lanes of the split bus that it serves. -/
structure Access where
  request : Simple.Request
  lanes : List LanePair
  deriving DecidableEq

namespace WordLanes

/-- Reads every lane that the beat uses. -/
def read (word : WordLanes) : Access where
  request := .read word.address (word.lanes.foldl (fun select pair => select.select pair.simple) 0)
  lanes := word.lanes

def write (word : WordLanes) (beat : Split.WriteBeat) : Access :=
  let enabled := word.lanes.filter fun pair => beat.strobe.selects pair.split
  { request :=
      { address := word.address
        data := enabled.foldl
          (fun data pair => Data.setLane data pair.simple (beat.data.lane pair.split)) 0
        select := enabled.foldl (fun select pair => select.select pair.simple) 0
        write := true }
    lanes := word.lanes }

end WordLanes

/-- Moves the lanes that an access serves from a simple-bus word into a split-bus word. -/
def Access.gather (access : Access) (word : Data) (into : Data) : Data :=
  access.lanes.foldl (fun data pair => data.setLane pair.split (word.lane pair.simple)) into

end BusFabric.Bridge
