import CsrMap.Soc
import CsrMap.Text.Blank

/-!
The map as rows of five cells: kind, name, value, and two more that depend on the kind.

Cells are separated by commas and written as they are, so a text with a comma or a line feed in
it takes more than its cell.
-/

namespace CsrMap.Export

open Numeral

structure Row where
  kind : String
  name : String
  value : String
  size : String := ""
  mode : String := ""
  deriving DecidableEq, Repr

def Row.cells (row : Row) : List String := [row.kind, row.name, row.value, row.size, row.mode]

def Row.line (row : Row) : String := ",".intercalate row.cells

def baseRow (bank : Bank) (placed : PlacedBank) : Row :=
  { kind := "csr_base", name := bank.name, value := markedWide placed.base.toNat }

def registerRow (bank : Bank) (r : PlacedRegister) : Row :=
  { kind := "csr_register"
    name := bank.name ++ "_" ++ r.name
    value := markedWide r.address.toNat
    size := decimal r.size
    mode := r.access.tag }

def interruptRow (i : Interrupt) : Row :=
  { kind := "interrupt", name := i.name, value := decimal i.bit.toNat }

def constantCell : Payload → String
  | .int value => decimal value.toNat
  | .str value => value
  | .flag => "None"

def constantRow (constant : Constant) : Row :=
  { kind := "constant", name := constant.name.toLower, value := constantCell constant.value }

def regionRow (region : Region) : Row :=
  { kind := "memory_region"
    name := region.name
    value := markedWide region.origin.toNat
    size := decimal region.size.toNat
    mode := region.kind.label }

def rows (soc : Soc) : List Row :=
  soc.placedBanks.map (fun (bank, placed) => baseRow bank placed)
    ++ soc.placedBanks.flatMap (fun (bank, placed) => placed.registers.map (registerRow bank))
    ++ soc.interrupts.entries.map interruptRow
    ++ soc.constants.map constantRow
    ++ soc.regions.map regionRow

end CsrMap.Export

namespace CsrMap

/-- The text of the rows, one on a line. -/
def Soc.csv (soc : Soc) : String := Text.unlines ((Export.rows soc).map Export.Row.line)

end CsrMap
