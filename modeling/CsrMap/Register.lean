import CsrMap.Name
import CsrMap.Word

/-!
Registers, their fields, and banks of registers.

`Register.check` says whether a register can be part of a map: it has a name, between one and 64
bits, a reset value that fits, and fields with distinct names that lie inside the register
without sharing a bit.
-/

namespace CsrMap

/-- Which side drives a register: hardware a status register, software a storage register. -/
inductive Access where
  | status
  | storage
  deriving DecidableEq, Repr

namespace Access

def readable (_ : Access) : Bool := true

def writable : Access → Bool
  | status => false
  | storage => true

/-- The tag of the machine-readable exports. -/
def tag : Access → String
  | status => "ro"
  | storage => "rw"

end Access

/-- A named range of bits inside a register. -/
structure Field where
  name : String
  offset : UInt32
  width : UInt32
  description : Option String := none
  deriving DecidableEq, Repr

namespace Field

/-- One past the highest bit. -/
def endBit (f : Field) : Nat := f.offset.toNat + f.width.toNat

/-- The bit belongs to the field. -/
def Covers (f : Field) (bit : Nat) : Prop := f.offset.toNat ≤ bit ∧ bit < f.endBit

instance (f : Field) (bit : Nat) : Decidable (f.Covers bit) := by
  unfold Covers
  infer_instance

/-- Fields one after another, each checked against the names that come before it. -/
def checkEach (register : String) (registerWidth : UInt32) :
    List String → List Field → Except ConfigError Unit
  | _, [] => .ok ()
  | earlier, f :: fields => do
    checkName f.name
    if earlier.contains f.name then
      throw (.duplicateField register f.name)
    if f.width = 0 ∨ registerWidth.toNat < f.endBit then
      throw (.fieldOutOfRange register f.name f.offset f.width registerWidth)
    checkEach register registerWidth (f.name :: earlier) fields

/-- The first two neighbours of which the second starts before the first ends. -/
def overlap? : List Field → Option (Field × Field)
  | f :: g :: fields =>
    if g.offset.toNat < f.endBit then some (f, g) else overlap? (g :: fields)
  | _ => none

/-- Fields in the order of their lowest bits; those that start at one bit keep their order. -/
def sorted (fields : List Field) : List Field :=
  fields.mergeSort fun f g => f.offset ≤ g.offset

end Field

structure Register where
  name : String
  width : UInt32
  access : Access
  fields : List Field := []
  reset : UInt64 := 0
  description : Option String := none
  deriving DecidableEq, Repr

namespace Register

/-- The widest register that a map can hold. -/
def maxWidth : UInt32 := 64

/-- Every bit of the register. -/
def mask (r : Register) : UInt64 := lowBits r.width

def checkFields (bank : String) (r : Register) : Except ConfigError Unit := do
  let register := bank ++ "." ++ r.name
  Field.checkEach register r.width [] r.fields
  match Field.overlap? (Field.sorted r.fields) with
  | some (f, g) => throw (.fieldOverlap register f.name g.name)
  | none => pure ()

def check (bank : String) (r : Register) : Except ConfigError Unit := do
  checkName r.name
  if r.width = 0 then
    throw (.zeroWidth bank r.name)
  if maxWidth < r.width then
    throw (.widthOverflow bank r.name r.width maxWidth)
  if r.reset &&& ~~~r.mask ≠ 0 then
    throw (.resetOverflow bank r.name r.reset r.width)
  r.checkFields bank

/-- Registers one after another, each checked against the names that come before it. -/
def checkEach (bank : String) : List String → List Register → Except ConfigError Unit
  | _, [] => .ok ()
  | earlier, r :: registers => do
    r.check bank
    if earlier.contains r.name then
      throw (.duplicateRegister bank r.name)
    checkEach bank (r.name :: earlier) registers

end Register

/-- A named group of registers that shares one range of addresses. -/
structure Bank where
  name : String
  registers : List Register
  deriving DecidableEq, Repr

namespace Bank

def register? (b : Bank) (name : String) : Option Register :=
  b.registers.find? (·.name == name)

end Bank

end CsrMap
