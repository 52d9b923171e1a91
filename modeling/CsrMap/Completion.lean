import CsrMap.Placement
import CsrMap.Header.Symbol

/-!
From declarations to a system: banks get their addresses and the whole is checked once.

Beyond the placement, no memory region may overlap the range of the registers and no two
declarations may lead to one symbol. An interrupt whose peripheral has no bank is only reported.
-/

namespace CsrMap

open Header

/-- The first symbol that an earlier declaration has already, with both owners. -/
def firstCollision : List Owned → List Owned → Option ConfigError
  | _, [] => none
  | earlier, s :: symbols =>
    match earlier.find? (·.symbol == s.symbol) with
    | some first => some (.symbolCollision first.owner s.owner s.symbol)
    | none => firstCollision (s :: earlier) symbols

/-- The first region that meets a non-empty range of registers. -/
def checkRegions (m : AddressMap) (regions : List Region) : Except ConfigError Unit :=
  match regions.find? fun region => m.size ≠ 0 && region.meets m.base m.size with
  | some region => .error (.regionOverlap region.name "csr")
  | none => .ok ()

namespace Declarations

/-- Interrupts whose peripheral has no bank. -/
def strayInterrupts (d : Declarations) : List Interrupt :=
  d.interrupts.entries.filter fun i => !d.hasBank i.peripheral

def completeLogged (d : Declarations) (bus : BusGeometry) : Logged ConfigError Soc := do
  let map ← AddressMap.ofBanksLogged d.banks bus
  Outcome.ofExcept d.interrupts.checkDense
  Outcome.ofExcept (checkRegions map d.regions)
  d.strayInterrupts.forM fun i => Logged.report (.strayInterrupt i.name i.peripheral)
  let soc : Soc := ⟨bus, d.banks, map, d.interrupts, d.regions, d.constants⟩
  if let some collision := firstCollision [] soc.symbols then
    (refuse collision : Outcome ConfigError Unit)
  Logged.report (.mapFinished soc.banks.length map.size map.base soc.interrupts.size)
  pure soc

def complete (d : Declarations) (bus : BusGeometry) : Outcome ConfigError Soc :=
  (d.completeLogged bus).outcome

end Declarations

end CsrMap
