import BusFabric.Error

set_option autoImplicit false

namespace BusFabric.Bridge

inductive Direction where
  /-- A split-transaction master asks the simple fabric. -/
  | splitToSimple
  /-- The simple fabric asks a split-transaction slave. -/
  | simpleToSplit
  deriving DecidableEq

/-- The two sides of a bridge; widths are in bits. -/
structure Conversion where
  source : Protocol
  sourceWidth : Nat
  target : Protocol
  targetWidth : Nat
  deriving DecidableEq

/-- A bridge takes widths that are powers of two from `minBridgeWidth` to `maxBridgeWidth`. -/
def checkWidth (width : Nat) : Except ConfigError Unit :=
  if ¬ width.isPowerOfTwo then .error (.widthNotPowerOfTwo width)
  else if width < minBridgeWidth ∨ maxBridgeWidth < width then .error (.widthOutOfRange width)
  else .ok ()

/-- The pairs of protocols that have a bridge. -/
def isSupported (source target : Protocol) : Bool :=
  match source, target with
  | .wideSplit, .simpleSync | .wideSplitLite, .simpleSync | .simpleSync, .wideSplit => true
  | _, _ => false

namespace Conversion

/-- The bridge between two buses. The source's width is looked at first, then the target's, then
the protocols. -/
def between (source : Protocol) (sourceWidth : Nat) (target : Protocol) (targetWidth : Nat) :
    Except ConfigError Conversion := do
  checkWidth sourceWidth
  checkWidth targetWidth
  if isSupported source target then .ok ⟨source, sourceWidth, target, targetWidth⟩
  else .error (.unsupportedBridge source target)

def direction (conversion : Conversion) : Direction :=
  if conversion.source.isSplit then .splitToSimple else .simpleToSplit

def splitWidth (conversion : Conversion) : Nat :=
  match conversion.direction with
  | .splitToSimple => conversion.sourceWidth
  | .simpleToSplit => conversion.targetWidth

def simpleWidth (conversion : Conversion) : Nat :=
  match conversion.direction with
  | .splitToSimple => conversion.targetWidth
  | .simpleToSplit => conversion.sourceWidth

def splitBytes (conversion : Conversion) : Nat :=
  conversion.splitWidth / 8

def simpleBytes (conversion : Conversion) : Nat :=
  conversion.simpleWidth / 8

def sourceBytes (conversion : Conversion) : Nat :=
  conversion.sourceWidth / 8

/-- Bits that a byte address loses on its way to a word address of the simple side. -/
def wordShift (conversion : Conversion) : Nat :=
  conversion.simpleBytes.log2

/-- Word-address bits of the simple side for a split side of `addressWidth` byte-address bits. -/
def simpleAddressWidth (conversion : Conversion) (addressWidth : Nat) : Nat :=
  addressWidth - conversion.wordShift

/-- By how many binary places the source is wider than the target. -/
def shift (conversion : Conversion) : Int :=
  conversion.sourceBytes.log2 - (conversion.targetWidth / 8).log2

/-- By how many binary places word bases move up: only where the source is the wider side. -/
def scale (conversion : Conversion) : Nat :=
  conversion.shift.toNat

def offset (conversion : Conversion) (address : Address) : Address :=
  address &&& (BitVec.ofNat 64 conversion.sourceBytes - 1)

/-- The target byte of a source byte. Where the source is wider than the target, the base of the
source word is scaled by the ratio of the widths; where it is narrower, the base stays, and the word
takes its place among the lanes of a wider target word. The offset inside the word never changes.
Bits of a scaled base past the top are lost, so bytes that lie far apart may meet. -/
def translate (conversion : Conversion) (address : Address) : Address :=
  let offset := conversion.offset address
  ((address - offset) <<< conversion.scale) ||| offset

/-- The source byte that `translate` takes to `address`, if one is found by moving the base back. -/
def untranslate? (conversion : Conversion) (address : Address) : Option Address :=
  let offset := conversion.offset address
  let source := ((address - offset) >>> conversion.scale) ||| offset
  if conversion.translate source = address then some source else none

end Conversion

end BusFabric.Bridge
