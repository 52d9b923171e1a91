import CsrMap.Soc
import CsrMap.Text.Upper

/-!
The symbols of the firmware header.

Names of declarations are flattened into identifiers, so different declarations can meet on one
symbol: register `b_c` of bank `a` and register `c` of bank `a_b`, or a bank `slot` and the
define for the slot size. `Soc.symbols` lists every symbol that a header can define, with the
declaration it belongs to.
-/

namespace CsrMap.Header

open Numeral Text

/-- The non-empty parts in upper case, joined by underscores. -/
def symbolOf (parts : List String) : String :=
  "_".intercalate ((parts.filter (· ≠ "")).map upper)

/-- A symbol and the declaration that it belongs to. -/
structure Owned where
  owner : String
  symbol : String
  deriving DecidableEq, Repr

def busSymbols : List Owned :=
  ["CSR_BASE", "CSR_DATA_WIDTH", "CSR_SLOT_SIZE"].map (Owned.mk "csr bus")

/-- The defines for the words of a register that takes several. -/
def wordSymbols (owner stem : String) (count : Nat) : List Owned :=
  (List.range count).flatMap fun index =>
    ["ADDR", "SHIFT", "MASK"].map fun part =>
      ⟨owner, stem ++ "_W" ++ decimal index ++ "_" ++ part⟩

def fieldSymbols (owner stem : String) (f : Field) : List Owned :=
  let owner := owner ++ "." ++ f.name
  let stem := symbolOf [stem, f.name]
  [⟨owner, stem ++ "_OFFSET"⟩, ⟨owner, stem ++ "_SIZE"⟩]

def registerAccessorNames (owner function : String) (access : Access) : List Owned :=
  ⟨owner, function ++ "_read"⟩ ::
    if access.writable then [⟨owner, function ++ "_write"⟩] else []

def fieldAccessorNames (owner function : String) (access : Access) (f : Field) : List Owned :=
  let owner := owner ++ "." ++ f.name
  let function := function ++ "_" ++ f.name
  [⟨owner, function ++ "_extract"⟩, ⟨owner, function ++ "_read"⟩]
    ++ if access.writable then
      [⟨owner, function ++ "_replace"⟩, ⟨owner, function ++ "_write"⟩]
    else []

def registerSymbols (bank : String) (r : Register) (placed : PlacedRegister) : List Owned :=
  let owner := bank ++ "." ++ r.name
  let stem := symbolOf ["csr", bank, r.name]
  let function := bank ++ "_" ++ r.name
  [⟨owner, stem ++ "_ADDR"⟩, ⟨owner, stem ++ "_SIZE"⟩]
    ++ (if placed.spansWords then wordSymbols owner stem placed.size else [])
    ++ r.fields.flatMap (fieldSymbols owner stem)
    ++ registerAccessorNames owner function r.access
    ++ r.fields.flatMap (fieldAccessorNames owner function r.access)

def bankSymbols (bank : Bank) (placed : PlacedBank) : List Owned :=
  [⟨bank.name, symbolOf ["csr", bank.name, "base"]⟩,
      ⟨bank.name, symbolOf ["csr", bank.name, "size"]⟩]
    ++ (bank.registers.zip placed.registers).flatMap fun (r, p) => registerSymbols bank.name r p

def interruptSymbols (i : Interrupt) : List Owned :=
  [⟨"interrupt " ++ i.name, symbolOf [i.name, "interrupt"]⟩]

def regionSymbols (region : Region) : List Owned :=
  let owner := "memory region " ++ region.name
  [⟨owner, symbolOf [region.name, "base"]⟩, ⟨owner, symbolOf [region.name, "size"]⟩]

def constantSymbols (constant : Constant) : List Owned :=
  [⟨"constant " ++ constant.name, constant.name⟩]

end CsrMap.Header

namespace CsrMap

open Header

/-- Every symbol of the header in the order of its text; accessors count even where they are left
out. -/
def Soc.symbols (soc : Soc) : List Owned :=
  busSymbols
    ++ soc.placedBanks.flatMap (fun (bank, placed) => bankSymbols bank placed)
    ++ soc.interrupts.entries.flatMap interruptSymbols
    ++ soc.regions.flatMap regionSymbols
    ++ soc.constants.flatMap constantSymbols

end CsrMap
