import CsrMap.Soc
import CsrMap.Text.Blank

/-!
The map for a reader: the range of the registers, the banks, the interrupts and the memory
regions.
-/

namespace CsrMap.Report

open Numeral

/-- The line about the whole range; it tells where the range ends. -/
def headLine (soc : Soc) : Checked String := do
  let m := soc.map
  let past ← m.endAddress
  pure ("CSR region " ++ markedWide m.base.toNat ++ ".." ++ markedWide past.toNat ++ " ("
    ++ decimal m.banks.length ++ " banks, " ++ decimal soc.bus.dataWidth.toNat ++ "-bit data, "
    ++ decimal soc.bus.slotSize.toNat ++ "-byte slots)")

def bankLine (bank : Bank) (placed : PlacedBank) : String :=
  "  " ++ padRight 16 ' ' bank.name ++ " " ++ markedWide placed.base.toNat ++ " "
    ++ padLeft 7 ' ' (marked placed.size.toNat) ++ "  "
    ++ decimal bank.registers.length ++ " registers"

def interruptLines (table : InterruptTable) : List String :=
  if table.isEmpty then []
  else
    "interrupts:" :: table.entries.map fun i =>
      "  " ++ padLeft 2 ' ' (decimal i.bit.toNat) ++ " " ++ i.name

def regionLines (regions : List Region) : List String :=
  if regions.isEmpty then []
  else
    "memory regions:" :: regions.map fun region =>
      "  " ++ padRight 16 ' ' region.name ++ " " ++ markedWide region.origin.toNat ++ " "
        ++ markedWide region.size.toNat ++ " " ++ region.kind.label

end CsrMap.Report

namespace CsrMap

open Report

def Soc.report (soc : Soc) : Checked String := do
  let head ← headLine soc
  pure (Text.unlines
    ([head] ++ soc.placedBanks.map (fun (bank, placed) => bankLine bank placed)
      ++ interruptLines soc.interrupts ++ regionLines soc.regions))

end CsrMap
