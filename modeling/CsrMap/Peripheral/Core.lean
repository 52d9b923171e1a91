import CsrMap.Peripheral.EventRegisters
import CsrMap.Declarations

/-!
Cores that every system has: control, serial port, timer and pins.

A core declares its bank and, if it raises events, the interrupt of the same name.
-/

namespace CsrMap.Peripheral

def statusRegister (name : String) (width : UInt32) : Register :=
  { name, width, access := .status }

def storageRegister (name : String) (width : UInt32) : Register :=
  { name, width, access := .storage }

/-- Fields one after another from bit zero, by their names and widths. -/
def packedFields (fields : List (String × UInt32)) : List Field :=
  go 0 fields
where
  go (offset : UInt32) : List (String × UInt32) → List Field
    | [] => []
    | (name, width) :: fields => { name, offset, width } :: go (offset + width) fields

/-- The value of the scratch register out of reset, by which firmware knows the bus works. -/
def scratchReset : UInt64 := 0x12345678

def controlRegisters : List Register :=
  [{ storageRegister "reset" 1 with description := some "write 1 for a soft reset" },
    { storageRegister "scratch" 32 with reset := scratchReset },
    statusRegister "bus_errors" 32]

def control : Declaring Nat := Declaring.bank "ctrl" controlRegisters

/-- A bank and the interrupt of its name. -/
def interrupting (name : String) (registers : List Register) : Declaring (Nat × UInt32) := do
  let bank ← Declaring.bank name registers
  let bit ← Declaring.interrupt name name
  pure (bank, bit)

def serialPortRegisters : List Register :=
  [storageRegister "rxtx" 8, statusRegister "txfull" 1, statusRegister "rxempty" 1]
    ++ EventRegisters.registers ⟨["tx", "rx"]⟩

def serialPort (name : String) : Declaring (Nat × UInt32) := interrupting name serialPortRegisters

def timerRegisters (width : UInt32) : List Register :=
  [storageRegister "load" width, storageRegister "reload" width, storageRegister "en" 1,
      { storageRegister "update_value" 1 with
        description := some "latch the counter into value" },
      statusRegister "value" width]
    ++ EventRegisters.registers ⟨["zero"]⟩

def timer (name : String) (width : UInt32) : Declaring (Nat × UInt32) :=
  interrupting name (timerRegisters width)

def inputPins (name : String) (width : UInt32) : Declaring Nat :=
  Declaring.bank name [statusRegister "in" width]

def outputPins (name : String) (width : UInt32) : Declaring Nat :=
  Declaring.bank name [storageRegister "out" width]

def inputOutputPins (name : String) (inputs outputs : UInt32) : Declaring Nat :=
  Declaring.bank name [statusRegister "in" inputs, storageRegister "out" outputs]

end CsrMap.Peripheral
