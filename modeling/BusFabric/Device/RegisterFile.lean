import Std.Data.TreeMap
import BusFabric.RegisterBank.Layout
import BusFabric.Device.Error

set_option autoImplicit false

namespace BusFabric.Device

open RegisterBank (Bank Layout)

structure BankState where
  bank : Bank
  written : Std.TreeMap Nat (BitVec 64) := {}

/-- All banks of a register bus. Offsets count from the origin of the region. A word reads as it was
last written, and before that as its reset value. -/
structure RegisterFile where
  granularity : Nat
  stride : Nat
  dataWidth : Nat
  banks : List BankState

namespace RegisterFile

def ofLayout (layout : Layout) : RegisterFile where
  granularity := layout.granularity
  stride := layout.stride
  dataWidth := layout.dataWidth
  banks := layout.banks.map ({ bank := · })

def dataBytes (file : RegisterFile) : Nat :=
  file.dataWidth / 8

/-- The value of a word after reset: its slice of the register's reset value. -/
def resetWord (file : RegisterFile) (bank : Bank) (word : Nat) : BitVec 64 :=
  match bank.registerAt? word with
  | some register =>
    let slice := register.reset >>> ((word - register.offset) * file.dataWidth)
    if file.dataWidth ≥ 64 then slice else slice &&& ((1#64 <<< file.dataWidth) - 1)
  | none => 0

def isWritable (bank : Bank) (word : Nat) : Bool :=
  match bank.registerAt? word with
  | some register => register.access = .readWrite
  | none => true

/-- The bank index and the word that an offset falls on: quotients by the size of a window and by
the space of a word. There is no answer if one of these is zero. -/
def position? (file : RegisterFile) (offset : Address) : Option (Nat × Nat) :=
  if file.granularity = 0 ∨ file.stride = 0 then none
  else some (offset.toNat / file.granularity, offset.toNat % file.granularity / file.stride)

def stateAt? (file : RegisterFile) (index word : Nat) : Option BankState :=
  (file.banks.find? (·.bank.index = index)).filter fun state => word < state.bank.wordCount

def word (file : RegisterFile) (state : BankState) (word : Nat) : BitVec 64 :=
  state.written.getD word (file.resetWord state.bank word)

/-- Reads a word. Every lane is driven, selected or not. -/
def read? (file : RegisterFile) (offset : Address) : Option (Except AccessError Data) :=
  (file.position? offset).map fun (index, word) =>
    match file.stateAt? index word with
    | some state => .ok ((file.word state word).setWidth 128)
    | none => .error (.unmapped offset)

/-- The value of a word after the selected lanes of `data` replaced its own. -/
def merged (file : RegisterFile) (value : BitVec 64) (data : Data) (select : Strobe) :
    BitVec 64 :=
  let merged := (List.range file.dataBytes).foldl
    (fun merged lane =>
      if select.selects lane then Data.setLane merged lane (data.lane lane) else merged)
    (value.setWidth 128)
  (Data.truncate merged file.dataBytes).setWidth 64

/-- Writes the selected lanes of a word. To merge them, every lane of the bus is looked up in the
strobe; there is no answer if the strobe has not so many. -/
def write? (file : RegisterFile) (offset : Address) (data : Data) (select : Strobe) :
    Option (Except AccessError RegisterFile) :=
  (file.position? offset).bind fun (index, word) =>
    match file.stateAt? index word with
    | none => some (.error (.unmapped offset))
    | some state =>
      if isWritable state.bank word then
        if file.dataBytes ≤ 16 then
          let value := file.merged (file.word state word) data select
          let state := { state with written := state.written.insert word value }
          some <| .ok { file with
            banks := file.banks.map fun other =>
              if other.bank.index = state.bank.index then state else other }
        else none
      else some (.error (.readOnly offset))

/-- Every access of the file has an answer: an offset has a position, and each lane of the bus a bit
of the strobe. -/
structure IsRegular (file : RegisterFile) : Prop where
  granularity : 0 < file.granularity
  stride : 0 < file.stride
  lanes : file.dataBytes ≤ 16

instance (file : RegisterFile) : Decidable file.IsRegular :=
  decidable_of_iff (0 < file.granularity ∧ 0 < file.stride ∧ file.dataBytes ≤ 16)
    ⟨fun ⟨granularity, stride, lanes⟩ => ⟨granularity, stride, lanes⟩,
      fun ⟨granularity, stride, lanes⟩ => ⟨granularity, stride, lanes⟩⟩

namespace IsRegular

variable {file : RegisterFile}

theorem position? (regular : file.IsRegular) (offset : Address) :
    file.position? offset =
      some (offset.toNat / file.granularity, offset.toNat % file.granularity / file.stride) := by
  have granularity := regular.granularity
  have stride := regular.stride
  unfold RegisterFile.position?
  rw [if_neg (by omega)]

theorem isSome_read? (regular : file.IsRegular) (offset : Address) :
    (file.read? offset).isSome = true := by
  unfold read?
  rw [regular.position?]
  rfl

theorem write?_ne_none (regular : file.IsRegular) (offset : Address) (data : Data)
    (select : Strobe) : file.write? offset data select ≠ none := by
  unfold write?
  rw [regular.position?, Option.bind_some]
  dsimp only
  split
  · nofun
  · split
    · rw [if_pos regular.lanes]
      nofun
    · nofun

theorem exchange (regular : file.IsRegular) (banks : List BankState) :
    IsRegular { file with banks } :=
  ⟨regular.granularity, regular.stride, regular.lanes⟩

end IsRegular

/-- A write leaves the shape of the file alone. -/
theorem eq_of_write? {file after : RegisterFile} {offset : Address} {data : Data}
    {select : Strobe} (written : file.write? offset data select = some (.ok after)) :
    after = { file with banks := after.banks } := by
  unfold write? at written
  obtain ⟨_, _, rest⟩ := Option.bind_eq_some_iff.mp written
  dsimp only at rest
  repeat' split at rest
  all_goals cases rest
  rfl

end RegisterFile

/-- A register file that answers every access. -/
structure Registers where
  file : RegisterFile
  regular : file.IsRegular

namespace Registers

/-- The banks of a layout as they are after reset, if all accesses of them have an answer. -/
def ofLayout? (layout : Layout) : Option Registers :=
  if regular : (RegisterFile.ofLayout layout).IsRegular then some ⟨_, regular⟩ else none

def read (registers : Registers) (offset : Address) : Except AccessError Data :=
  (registers.file.read? offset).get (registers.regular.isSome_read? offset)

/-- Writes the selected lanes of a word. -/
def write (registers : Registers) (offset : Address) (data : Data) (select : Strobe) :
    Except AccessError Registers :=
  match written : registers.file.write? offset data select with
  | some (.ok file) =>
    .ok ⟨file, RegisterFile.eq_of_write? written ▸ registers.regular.exchange file.banks⟩
  | some (.error error) => .error error
  | none => absurd written (registers.regular.write?_ne_none offset data select)

theorem read?_file (registers : Registers) (offset : Address) :
    registers.file.read? offset = some (registers.read offset) :=
  (Option.some_get _).symm

theorem write?_file (registers : Registers) (offset : Address) (data : Data) (select : Strobe) :
    registers.file.write? offset data select =
      some ((registers.write offset data select).map Registers.file) := by
  unfold write
  split
  · rename_i written
    exact written
  · rename_i refused
    exact refused
  · rename_i silent
    exact absurd silent (registers.regular.write?_ne_none offset data select)

end Registers

end BusFabric.Device
