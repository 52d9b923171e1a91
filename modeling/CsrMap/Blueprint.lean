import CsrMap.Bus.Geometry
import CsrMap.Quantity
import CsrMap.Declarations

/-!
Blueprints: a bus and declarations, as they stand in a file.

What a blueprint declares is checked like any other declaration, in the order of the file's
sections. What it says about the bus replaces the given defaults.
-/

namespace CsrMap

/-- What a file says about the bus; what it leaves out is the default. -/
structure WrittenBus where
  dataWidth : Option UInt32 := none
  slotSize : Option UInt64 := none
  base : Option Quantity := none
  rounding : Option Rounding := none
  laneOrder : Option LaneOrder := none
  deriving DecidableEq, Repr

structure WrittenBank where
  name : String
  registers : List Register
  /-- The bank has an interrupt of its own name. -/
  interrupt : Bool := false
  deriving DecidableEq, Repr

structure WrittenInterrupt where
  name : String
  /-- The bank it belongs to, if it is not called like the interrupt. -/
  peripheral : Option String := none
  deriving DecidableEq, Repr

structure WrittenRegion where
  name : String
  origin : Quantity
  size : Quantity
  kind : Region.Kind
  deriving DecidableEq, Repr

structure Blueprint where
  bus : WrittenBus := {}
  banks : List WrittenBank
  interrupts : List WrittenInterrupt := []
  regions : List WrittenRegion := []
  constants : List Constant := []
  deriving DecidableEq, Repr

def WrittenBus.resolve (b : WrittenBus) (defaults : BusGeometry) :
    Except ConfigError BusGeometry := do
  let base ← match b.base with
    | some base => base.value
    | none => pure defaults.base
  pure
    { dataWidth := b.dataWidth.getD defaults.dataWidth
      slotSize := b.slotSize.getD defaults.slotSize
      base := base
      rounding := b.rounding.getD defaults.rounding
      laneOrder := b.laneOrder.getD defaults.laneOrder }

/-- The bank and then the interrupt of its name, if it has one. -/
def WrittenBank.declare (b : WrittenBank) : Declaring Unit := do
  let _ ← Declaring.bank b.name b.registers
  if b.interrupt then
    let _ ← Declaring.interrupt b.name b.name

namespace WrittenInterrupt

def owner (i : WrittenInterrupt) : String := i.peripheral.getD i.name

/-- Refused if its bank is not declared yet. -/
def declare (i : WrittenInterrupt) : Declaring Unit := do
  if !(← get).hasBank i.owner then
    throw (.refused (.unknownBank i.owner))
  let _ ← Declaring.interrupt i.name i.owner

end WrittenInterrupt

def WrittenRegion.region (r : WrittenRegion) : Except ConfigError Region := do
  let origin ← r.origin.value
  let size ← r.size.value
  pure ⟨r.name, origin, size, r.kind⟩

def WrittenRegion.declare (r : WrittenRegion) : Declaring Unit := do
  Declaring.region (← (Outcome.ofExcept r.region : Outcome ConfigError Region))

namespace Blueprint

/-- The bus, checked as a whole. -/
def geometry (b : Blueprint) (defaults : BusGeometry) : Outcome ConfigError BusGeometry := do
  let bus ← Outcome.ofExcept (b.bus.resolve defaults)
  bus.check
  pure bus

/-- Banks with their own interrupts first, then the other interrupts, regions and constants. -/
def declare (b : Blueprint) : Declaring Unit := do
  b.banks.forM WrittenBank.declare
  b.interrupts.forM WrittenInterrupt.declare
  b.regions.forM WrittenRegion.declare
  b.constants.forM fun constant => Declaring.constant constant.name constant.value

def declarations (b : Blueprint) : Outcome ConfigError Declarations := b.declare.all

end Blueprint

end CsrMap
