import CsrMap.Export.Json
import CsrMap.Soc

/-!
The machine-readable map: tables of a system, keyed by name.

Each table is kept in the order of its keys, so the text does not depend on the order of
declaration.
-/

namespace CsrMap.Export

/-- A table in ascending order of its keys. -/
abbrev Table (α : Type) : Type := List (String × α)

namespace Table

variable {α : Type}

/-- Puts an entry at its place; an entry of the same key is replaced. -/
def insert (key : String) (value : α) : Table α → Table α
  | [] => [(key, value)]
  | (k, v) :: entries =>
    if key < k then (key, value) :: (k, v) :: entries
    else if key = k then (key, value) :: entries
    else (k, v) :: insert key value entries

def ofList (entries : List (String × α)) : Table α :=
  entries.foldl (fun table (key, value) => table.insert key value) []

end Table

structure RegisterRecord where
  address : UInt64
  /-- The number of words. -/
  size : Nat
  width : UInt32
  access : Access
  deriving DecidableEq, Repr

structure RegionRecord where
  base : UInt64
  size : UInt64
  kind : Region.Kind
  deriving DecidableEq, Repr

structure Document where
  bus : BusGeometry
  bases : Table UInt64
  registers : Table RegisterRecord
  interrupts : Table UInt32
  regions : Table RegionRecord
  constants : Table Payload
  deriving DecidableEq, Repr

namespace Document

def registerEntries (bank : Bank) (placed : PlacedBank) : List (String × RegisterRecord) :=
  placed.registers.map fun r =>
    (bank.name ++ "_" ++ r.name, ⟨r.address, r.size, r.width, r.access⟩)

def ofSoc (soc : Soc) : Document where
  bus := soc.bus
  bases := .ofList (soc.placedBanks.map fun (bank, placed) => (bank.name, placed.base))
  registers := .ofList (soc.placedBanks.flatMap fun (bank, placed) => registerEntries bank placed)
  interrupts := .ofList (soc.interrupts.entries.map fun i => (i.name, i.bit))
  regions := .ofList
    (soc.regions.map fun region => (region.name, ⟨region.origin, region.size, region.kind⟩))
  constants := .ofList (soc.constants.map fun constant => (constant.name, constant.value))

def roundingJson : Rounding → Json
  | .slot => .obj [("type", .str "slot")]
  | .boundary size => .obj [("type", .str "boundary"), ("size", .nat size.toNat)]
  | .paged size => .obj [("type", .str "paged"), ("size", .nat size.toNat)]

def laneOrderJson : LaneOrder → Json
  | .highFirst => .str "msb_first"
  | .lowFirst => .str "lsb_first"

def busJson (bus : BusGeometry) : Json :=
  .obj
    [("data_width", .nat bus.dataWidth.toNat), ("slot_size", .nat bus.slotSize.toNat),
      ("base", .nat bus.base.toNat), ("alignment", roundingJson bus.rounding),
      ("word_order", laneOrderJson bus.laneOrder)]

def registerJson (entry : RegisterRecord) : Json :=
  .obj
    [("addr", .nat entry.address.toNat), ("size", .nat entry.size),
      ("width", .nat entry.width.toNat), ("type", .str entry.access.tag)]

def regionJson (entry : RegionRecord) : Json :=
  .obj
    [("base", .nat entry.base.toNat), ("size", .nat entry.size.toNat),
      ("type", .str entry.kind.label)]

def constantJson : Payload → Json
  | .int value => .nat value.toNat
  | .str value => .str value
  | .flag => .null

def tableJson {α : Type} (json : α → Json) (table : Table α) : Json :=
  .obj (table.map fun (key, value) => (key, json value))

def toJson (d : Document) : Json :=
  .obj
    [("bus", busJson d.bus), ("csr_bases", tableJson (Json.nat ·.toNat) d.bases),
      ("csr_registers", tableJson registerJson d.registers),
      ("interrupts", tableJson (Json.nat ·.toNat) d.interrupts),
      ("memories", tableJson regionJson d.regions),
      ("constants", tableJson constantJson d.constants)]

end Document

end CsrMap.Export

namespace CsrMap

/-- The text of the machine-readable map. -/
def Soc.json (soc : Soc) : String := (Export.Document.ofSoc soc).toJson.pretty 0 ++ "\n"

end CsrMap
