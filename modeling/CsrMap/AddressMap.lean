import CsrMap.Bisect
import CsrMap.Bus.Slice
import CsrMap.Register

/-!
Where banks and registers lie in the address space, and look-up by name and by address.

Banks are kept in the order of their declaration, which is also the order of their addresses.
-/

namespace CsrMap

structure PlacedRegister where
  name : String
  access : Access
  width : UInt32
  /-- The address of the lowest word. -/
  address : UInt64
  words : List Slice
  deriving DecidableEq, Repr

namespace PlacedRegister

/-- The number of words. -/
def size (r : PlacedRegister) : Nat := r.words.length

def spansWords (r : PlacedRegister) : Bool := 1 < r.size

def scatter (r : PlacedRegister) (value : UInt64) : Checked (List UInt64) :=
  CsrMap.scatter r.words value

def gather (r : PlacedRegister) (words : List UInt64) : Checked UInt64 :=
  CsrMap.gather r.words words

end PlacedRegister

structure PlacedBank where
  name : String
  base : UInt64
  size : UInt64
  registers : List PlacedRegister
  deriving DecidableEq, Repr

namespace PlacedBank

/-- One past the last address. -/
def endAddress (b : PlacedBank) : Checked UInt64 := b.base.add? b.size

/-- The address lies in the bank, in exact arithmetic. -/
def Covers (b : PlacedBank) (address : UInt64) : Prop :=
  b.base.toNat ≤ address.toNat ∧ address.toNat < b.base.toNat + b.size.toNat

instance (b : PlacedBank) (address : UInt64) : Decidable (b.Covers address) := by
  unfold Covers
  infer_instance

def contains (b : PlacedBank) (address : UInt64) : Checked Bool :=
  if b.base ≤ address then do
    let past ← b.endAddress
    pure (address < past)
  else
    pure false

def register? (b : PlacedBank) (name : String) : Option PlacedRegister :=
  b.registers.find? (·.name == name)

end PlacedBank

structure AddressMap where
  base : UInt64
  /-- The bytes that all banks take together. -/
  size : UInt64
  banks : List PlacedBank
  deriving DecidableEq, Repr

namespace AddressMap

def endAddress (m : AddressMap) : Checked UInt64 := m.base.add? m.size

def bank? (m : AddressMap) (name : String) : Option PlacedBank :=
  m.banks.find? (·.name == name)

def bankBase? (m : AddressMap) (name : String) : Option UInt64 :=
  (m.bank? name).map (·.base)

/-- The position of the bank that holds `address`: the last bank that does not start after it, if
any. -/
def holderIndex (m : AddressMap) (address : UInt64) : Checked (Option Nat) :=
  match bisect m.banks (·.base ≤ address) with
  | 0 => pure none
  | index + 1 =>
    match m.banks[index]? with
    | none => pure none
    | some bank => do
      let inside ← bank.contains address
      pure (if inside then some index else none)

def holder (m : AddressMap) (address : UInt64) : Checked (Option PlacedBank) := do
  let index ← m.holderIndex address
  pure (index.bind (m.banks[·]?))

/-- The first bank that covers `address`, by looking at one bank after another. -/
def scan? (m : AddressMap) (address : UInt64) : Option PlacedBank :=
  m.banks.find? fun bank => decide (bank.Covers address)

end AddressMap

end CsrMap
