import BusFabric.Fabric.Basic
import BusFabric.Json.Value

set_option autoImplicit false

namespace BusFabric

open RegisterBank (Bank Layout PlacedRegister)

def Window.toJson (window : Window) : Json :=
  .object
    [("name", .string window.name),
     ("base", .number window.base.toNat),
     ("size", .number window.size),
     ("width", .number window.dataWidth),
     ("owner", .number window.owner.number)]

namespace RegisterBank

def PlacedRegister.toJson (register : PlacedRegister) : Json :=
  .object
    [("name", .string register.name),
     ("offset", .number register.offset),
     ("address", .number register.address.toNat),
     ("width", .number register.width),
     ("words", .number register.words),
     ("access", .string register.access.name),
     ("reset", .number register.reset.toNat)]

/-- A published bank: its place, then its kind and what that kind holds. -/
def Bank.toJson (bank : Bank) : Json :=
  .object <|
    [("name", .string bank.name),
     ("index", .number bank.index),
     ("base", .number bank.base.toNat),
     ("size", .number bank.size),
     ("word_count", .number bank.wordCount)] ++
    match bank.placement with
    | .registers registers =>
      [("kind", .string "registers"), ("registers", .list (registers.map (·.toJson)))]
    | .memory words => [("kind", .string "memory"), ("words", .number words)]

/-- A published register region. -/
def Layout.toJson (layout : Layout) : Json :=
  .object
    [("origin", .number layout.origin.toNat),
     ("granularity", .number layout.granularity),
     ("stride", .number layout.stride),
     ("data_width", .number layout.dataWidth),
     ("banks", .list (layout.banks.map (·.toJson)))]

end RegisterBank

namespace Fabric

/-- What a fabric publishes of itself, for header and device-tree generators: every window of its
address map, and its register banks. -/
structure Description where
  /-- Name and variant of the platform, if there is one. -/
  platform : Option String
  width : Nat
  /-- In ascending order of base. -/
  windows : List Window
  layout : Layout
  deriving DecidableEq

/-- The description of a fabric. It does not change while the fabric runs. -/
def description (fabric : Fabric) : Description where
  platform := fabric.platform.map (·.title)
  width := fabric.width
  windows := fabric.map.windows
  layout := fabric.layout

/-- The published form. The platform is left out if there is none. -/
def Description.toJson (description : Description) : Json :=
  .object <|
    (description.platform.map fun title => ("profile", Json.string title)).toList ++
    [("fabric_width", .number description.width),
     ("windows", .list (description.windows.map (·.toJson))),
     ("csr", description.layout.toJson)]

end Fabric

end BusFabric
