import Std.Data.TreeMap
import BusFabric.Word

set_option autoImplicit false

namespace BusFabric

/-- Byte-addressed storage: the written bytes of each page that holds one, by page number and by
offset in the page. A page comes into being with the first byte written to it, and a byte that was
never written reads zero. -/
structure Memory where
  pages : Std.TreeMap Nat (Std.TreeMap Nat Byte) := {}

namespace Memory

def pageBytes : Nat := 4096

def readByte (memory : Memory) (address : Address) : Byte :=
  match memory.pages[address.toNat / pageBytes]? with
  | some page => page.getD (address.toNat % pageBytes) 0
  | none => 0

/-- Writes one byte, allocating its page if need be. -/
def writeByte (memory : Memory) (address : Address) (byte : Byte) : Memory :=
  let number := address.toNat / pageBytes
  let page := memory.pages.getD number {}
  { memory with pages := memory.pages.insert number (page.insert (address.toNat % pageBytes) byte) }

/-- The little-endian word of `bytes` bytes that starts at `address`. -/
def readWord (memory : Memory) (address : Address) (bytes : Nat) : Data :=
  (List.range bytes).foldl
    (fun word index => word.setLane index (memory.readByte (address + BitVec.ofNat 64 index))) 0

/-- Writes the selected lanes among the low `bytes` lanes of `data`, lane `n` to `address + n`. -/
def writeWord (memory : Memory) (address : Address) (data : Data) (strobe : Strobe)
    (bytes : Nat) : Memory :=
  (List.range bytes).foldl
    (fun memory index =>
      if strobe.selects index then
        memory.writeByte (address + BitVec.ofNat 64 index) (data.lane index)
      else memory)
    memory

/-- How many pages hold a written byte. -/
def residentPages (memory : Memory) : Nat :=
  memory.pages.size

@[simp] theorem readByte_empty (address : Address) : readByte {} address = 0 := by
  simp [readByte]

/-- A byte reads back where it was written, and nothing changes elsewhere. -/
theorem readByte_writeByte (memory : Memory) (address other : Address) (byte : Byte) :
    (memory.writeByte address byte).readByte other =
      if address = other then byte else memory.readByte other := by
  simp only [readByte, writeByte, Std.TreeMap.getElem?_insert]
  by_cases page : address.toNat / pageBytes = other.toNat / pageBytes
  · have same : address = other ↔ address.toNat % pageBytes = other.toNat % pageBytes := by
      rw [BitVec.toNat_eq]
      have here := Nat.div_add_mod address.toNat pageBytes
      have there := Nat.div_add_mod other.toNat pageBytes
      rw [page] at here
      omega
    simp only [page, Std.compare_eq_iff_eq, if_true, Std.TreeMap.getD_insert, same]
    cases held : memory.pages[other.toNat / pageBytes]? with
    | none => simp [Std.TreeMap.getD_eq_getD_getElem?, held]
    | some cells => simp [Std.TreeMap.getD_eq_getD_getElem?, held]
  · have apart : address ≠ other := fun same => page (by rw [same])
    simp [page, apart]

/-- Writing a byte brings its page into being, and no other. -/
theorem mem_pages_writeByte (memory : Memory) (address : Address) (byte : Byte) {page : Nat} :
    page ∈ (memory.writeByte address byte).pages ↔
      address.toNat / pageBytes = page ∨ page ∈ memory.pages := by
  simp only [writeByte, Std.TreeMap.mem_insert, Std.compare_eq_iff_eq]

end Memory

end BusFabric
