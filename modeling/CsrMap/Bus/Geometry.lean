import CsrMap.ConfigError
import CsrMap.Outcome

/-!
The geometry of the bus on which banks are placed.

A word of the bus carries `dataWidth` bits and two neighbouring words lie `slotSize` bytes
apart. The size of a bank is rounded to whole slots, to a boundary or to a page.
-/

namespace CsrMap

/-- How the size of a bank is rounded. -/
inductive Rounding where
  /-- To whole slots. -/
  | slot
  /-- To a multiple of `size` bytes. -/
  | boundary (size : UInt64)
  /-- To exactly one page of `size` bytes. -/
  | paged (size : UInt64)
  deriving DecidableEq, Repr

/-- Which part of a register the word at the lowest address carries. -/
inductive LaneOrder where
  | highFirst
  | lowFirst
  deriving DecidableEq, Repr

structure BusGeometry where
  dataWidth : UInt32 := 32
  slotSize : UInt64 := 4
  base : UInt64 := 0
  rounding : Rounding := .slot
  laneOrder : LaneOrder := .highFirst
  deriving DecidableEq, Repr

namespace BusGeometry

def checkRounding (slotSize : UInt64) : Rounding → Outcome ConfigError Unit
  | .slot => pure ()
  | .boundary size | .paged size =>
    if size.isPowerOfTwo && slotSize ≤ size then pure ()
    else refuse (.invalidBus (.rounding size))

/-- The slot size is a power of two and a slot holds one word. -/
def slotFits (bus : BusGeometry) : Checked Bool :=
  if bus.slotSize.isPowerOfTwo then do
    let slotBits ← bus.slotSize.mul? 8
    pure (bus.dataWidth.toUInt64 ≤ slotBits)
  else
    pure false

def check (bus : BusGeometry) : Outcome ConfigError Unit := do
  if ¬ [8, 16, 32, 64].contains bus.dataWidth then
    refuse (.invalidBus (.dataWidth bus.dataWidth))
  if ¬ (← bus.slotFits) then
    refuse (.invalidBus (.slotSize bus.slotSize bus.dataWidth))
  if (← bus.base.mod? bus.slotSize) ≠ 0 then
    refuse (.invalidBus (.base bus.base))
  checkRounding bus.slotSize bus.rounding

/-- How many words carry a register of `width` bits. -/
def countWords (bus : BusGeometry) (width : UInt32) : Checked UInt32 :=
  width.ceilDiv? bus.dataWidth

/-- How many bytes of address space a register of `width` bits takes. -/
def spanOf (bus : BusGeometry) (width : UInt32) : Checked UInt64 := do
  let words ← bus.countWords width
  words.toUInt64.mul? bus.slotSize

/-- The unit to which the sizes of banks are rounded. -/
def roundingUnit (bus : BusGeometry) : UInt64 :=
  match bus.rounding with
  | .slot => bus.slotSize
  | .boundary size | .paged size => size

end BusGeometry

end CsrMap
