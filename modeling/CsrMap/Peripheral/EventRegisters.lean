import CsrMap.Register

/-!
The three registers with which a core reports events to the processor.

Bit `i` of the status, the raised and the enable register belongs to source `i`. Software clears
a raised event by writing a one to it.
-/

namespace CsrMap.Peripheral

structure EventRegisters where
  sources : List String
  deriving DecidableEq, Repr

namespace EventRegisters

def width (e : EventRegisters) : UInt32 := e.sources.length.toUInt32

def fields (e : EventRegisters) : List Field :=
  e.sources.zipIdx.map fun (source, index) =>
    { name := source, offset := index.toUInt32, width := 1 }

def register (e : EventRegisters) (role : String) (access : Access) : Register :=
  { name := "ev_" ++ role
    width := e.width
    access := access
    fields := e.fields
    description := some ("event " ++ role) }

def registers (e : EventRegisters) : List Register :=
  [e.register "status" .status, e.register "pending" .storage, e.register "enable" .storage]

/-- The registers under longer names, for a core with several groups of events. -/
def registersOf (e : EventRegisters) (core : String) : List Register :=
  e.registers.map fun r => { r with name := core ++ "_" ++ r.name }

end EventRegisters

end CsrMap.Peripheral
