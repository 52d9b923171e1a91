import CsrMap.Name
import CsrMap.Outcome

/-!
Interrupts and their bits in the vector of pending interrupts that the processor sees.

Bits are given out in the order of declaration, starting from zero. A vector is decoded by its
bits.
-/

namespace CsrMap

structure Interrupt where
  name : String
  /-- The bank that raises it. -/
  peripheral : String
  bit : UInt32
  deriving DecidableEq, Repr

structure InterruptTable where
  entries : List Interrupt := []
  deriving DecidableEq, Repr

namespace InterruptTable

/-- How many bits the vector has. -/
def vectorWidth : UInt32 := 32

def size (t : InterruptTable) : Nat := t.entries.length

def isEmpty (t : InterruptTable) : Bool := t.entries.isEmpty

def bit? (t : InterruptTable) (name : String) : Option UInt32 :=
  (t.entries.find? (·.name == name)).map (·.bit)

/-- The table with a new interrupt on the next free bit, and that bit. -/
def add (t : InterruptTable) (name peripheral : String) :
    Except ConfigError (InterruptTable × UInt32) := do
  checkName name
  checkName peripheral
  if (t.bit? name).isSome then
    throw (.duplicateInterrupt name)
  if vectorWidth.toNat ≤ t.size then
    throw (.interruptVectorFull name vectorWidth)
  let bit := t.size.toUInt32
  pure (⟨t.entries ++ [⟨name, peripheral, bit⟩]⟩, bit)

/-- Interrupts from `position` on have their positions as bits. -/
def checkDenseFrom : Nat → List Interrupt → Except ConfigError Unit
  | _, [] => .ok ()
  | position, i :: rest =>
    if i.bit = position.toUInt32 then checkDenseFrom (position + 1) rest
    else .error (.interruptsNotDense i.name i.bit position)

def checkDense (t : InterruptTable) : Except ConfigError Unit := checkDenseFrom 0 t.entries

/-- The interrupts whose bits are set in `vector`. -/
def raised (t : InterruptTable) (vector : UInt64) : Checked (List Interrupt) :=
  t.entries.filterM fun i => do
    let bit ← (1 : UInt64).shiftLeft? i.bit
    pure (vector &&& bit ≠ 0)

end InterruptTable

end CsrMap
