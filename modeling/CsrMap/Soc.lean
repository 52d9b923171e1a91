import CsrMap.AddressMap
import CsrMap.Declarations

/-!
A finished system: declarations together with their addresses on a bus. Every export reads from
it.
-/

namespace CsrMap

structure Soc where
  bus : BusGeometry
  banks : List Bank
  map : AddressMap
  interrupts : InterruptTable
  regions : List Region
  constants : List Constant
  deriving DecidableEq, Repr

namespace Soc

/-- Banks with their places, in the order of declaration. -/
def placedBanks (soc : Soc) : List (Bank × PlacedBank) := soc.banks.zip soc.map.banks

/-- A register and its place, by the names of the bank and of the register. -/
def register? (soc : Soc) (bank register : String) : Option (Register × PlacedRegister) := do
  let (declared, placed) ← soc.placedBanks.find? (·.1.name == bank)
  (declared.registers.zip placed.registers).find? (·.1.name == register)

end Soc

end CsrMap
