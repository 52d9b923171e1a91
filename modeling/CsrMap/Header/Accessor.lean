import CsrMap.AddressMap
import CsrMap.Header.Function

/-!
Accessor functions of registers and fields.

A register is read and written word by word through `csr_read_simple` and `csr_write_simple`; a
field is read out of its register and put back into it.
-/

namespace CsrMap.Header

open Expression

def readWord (address : UInt64) : Expression :=
  callOne "csr_read_simple" (literal (.address address))

def registerRead (function : String) (type : IntType) (placed : PlacedRegister) : Function :=
  { result := some type
    name := function ++ "_read"
    parameters := []
    body :=
      if placed.spansWords then
        [.declareZero type "r"]
          ++ placed.words.map (fun word =>
            .orInto "r"
              (movedLeft (cast type (masked (readWord word.address) word.mask)) word.shift))
          ++ [.give (.variable "r")]
      else
        [.give (readWord placed.address)] }

def registerWrite (function : String) (type : IntType) (placed : PlacedRegister) : Function :=
  { result := none
    name := function ++ "_write"
    parameters := [(type, "v")]
    body := placed.words.map fun word =>
      .evaluate
        (callTwo "csr_write_simple" (masked (movedRight (.variable "v") word.shift) word.mask)
          (literal (.address word.address))) }

def registerAccessors (bank : String) (r : Register) (placed : PlacedRegister) : List Function :=
  let function := bank ++ "_" ++ r.name
  let type := IntType.ofWidth r.width
  registerRead function type placed
    :: if r.access.writable then [registerWrite function type placed] else []

def position (f : Field) : Expression := literal (.count f.offset.toNat)

def fieldExtract (name : String) (type : IntType) (f : Field) : Function :=
  let shifted := binary .shiftRight (.variable "oldword") (position f)
  { result := some type
    name := name ++ "_extract"
    parameters := [(type, "oldword")]
    body := [.give (masked shifted (lowBits f.width))] }

def fieldRead (function name : String) (type : IntType) : Function :=
  { result := some type
    name := name ++ "_read"
    parameters := []
    body := [.give (callOne (name ++ "_extract") (call (function ++ "_read")))] }

def fieldReplace (name : String) (type : IntType) (f : Field) : Function :=
  let mask := literal (.mask (lowBits f.width))
  { result := some type
    name := name ++ "_replace"
    parameters := [(type, "oldword"), (type, "plain_value")]
    body := [.give
      (binary .or
        (binary .and (.variable "oldword")
          (complement (binary .shiftLeft (cast type mask) (position f))))
        (binary .shiftLeft (binary .and (.variable "plain_value") mask) (position f)))] }

def fieldWrite (function name : String) (type : IntType) : Function :=
  { result := none
    name := name ++ "_write"
    parameters := [(type, "plain_value")]
    body := [.evaluate
      (callOne (function ++ "_write")
        (callTwo (name ++ "_replace") (call (function ++ "_read")) (.variable "plain_value")))] }

def fieldAccessors (bank : String) (r : Register) (f : Field) : List Function :=
  let function := bank ++ "_" ++ r.name
  let name := function ++ "_" ++ f.name
  let type := IntType.ofWidth r.width
  [fieldExtract name type f, fieldRead function name type]
    ++ if r.access.writable then [fieldReplace name type f, fieldWrite function name type] else []

/-- The accessors of a register and of its fields. -/
def accessors (bank : String) (r : Register) (placed : PlacedRegister) : List Function :=
  registerAccessors bank r placed ++ r.fields.flatMap (fieldAccessors bank r)

end CsrMap.Header
