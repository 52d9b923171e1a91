import CsrMap.Completion
import CsrMap.Header.Accessor
import CsrMap.Text.Blank

/-!
The firmware header: a list of items, and its text.

The header defines the geometry of the bus, then for each bank the addresses and sizes of its
registers with the functions to access them, then interrupts, memory regions and constants. The
text depends only on the system and the options.
-/

namespace CsrMap.Header

open Text

inductive Item where
  | blank
  /-- A line of the comment at the top. -/
  | banner (line : String)
  /-- A comment that names what follows. -/
  | heading (title : String)
  | guardStart (symbol : String)
  | guardEnd (symbol : String)
  | includes (file : String)
  /-- A symbol without a value where there is no literal. -/
  | define (symbol : String) (value : Option Literal)
  | function (f : Function)
  deriving DecidableEq, Repr

namespace Item

def lines : Item → List String
  | blank => [""]
  | banner line => [trimEnd ("// " ++ line)]
  | heading title => ["/* " ++ title ++ " */"]
  | guardStart symbol => ["#ifndef " ++ symbol]
  | guardEnd symbol => ["#endif /* ! " ++ symbol ++ " */"]
  | includes file => ["#include <" ++ file ++ ">"]
  | define symbol (some value) => ["#define " ++ symbol ++ " " ++ value.spelling]
  | define symbol none => ["#define " ++ symbol]
  | function f => f.lines

end Item

def render (items : List Item) : String := unlines (items.flatMap Item.lines)

structure Options where
  /-- The symbol that keeps the header from being read twice. -/
  guardSymbol : String := "__GENERATED_CSR_H"
  /-- A comment above the guard. -/
  bannerText : Option String := some "Autogenerated by csr-generator. Do not modify this file."
  withAccessors : Bool := true
  deriving DecidableEq, Repr

def defineTo (symbol : String) (value : Literal) : Item := .define symbol (some value)

def topItems (options : Options) : List Item :=
  (options.bannerText.elim [] lines).map .banner
    ++ [.guardStart options.guardSymbol, .define options.guardSymbol none, .includes "stdint.h"]
    ++ if options.withAccessors then
        [.guardStart "CSR_ACCESSORS_DEFINED", .includes "hw/common.h",
          .guardEnd "CSR_ACCESSORS_DEFINED"]
      else []

def busItems (bus : BusGeometry) : List Item :=
  [.blank, defineTo "CSR_BASE" (.address bus.base),
    defineTo "CSR_DATA_WIDTH" (.count bus.dataWidth.toNat),
    defineTo "CSR_SLOT_SIZE" (.count bus.slotSize.toNat)]

def wordItems (stem : String) (words : List Slice) : List Item :=
  words.zipIdx.flatMap fun (word, index) =>
    let stem := stem ++ "_W" ++ Numeral.decimal index
    [defineTo (stem ++ "_ADDR") (.address word.address),
      defineTo (stem ++ "_SHIFT") (.count word.shift.toNat),
      defineTo (stem ++ "_MASK") (.mask word.mask)]

def fieldItems (stem : String) (f : Field) : List Item :=
  let stem := symbolOf [stem, f.name]
  [defineTo (stem ++ "_OFFSET") (.count f.offset.toNat),
    defineTo (stem ++ "_SIZE") (.count f.width.toNat)]

def registerItems (options : Options) (bank : String) (r : Register) (placed : PlacedRegister) :
    List Item :=
  let stem := symbolOf ["csr", bank, r.name]
  [defineTo (stem ++ "_ADDR") (.address placed.address),
      defineTo (stem ++ "_SIZE") (.count placed.size)]
    ++ (if placed.spansWords then wordItems stem placed.words else [])
    ++ r.fields.flatMap (fieldItems stem)
    ++ if options.withAccessors then (accessors bank r placed).map .function else []

def bankItems (options : Options) (bank : Bank) (placed : PlacedBank) : List Item :=
  [.blank, .heading bank.name,
      defineTo (symbolOf ["csr", bank.name, "base"]) (.address placed.base),
      defineTo (symbolOf ["csr", bank.name, "size"]) (.bankSize placed.size)]
    ++ (bank.registers.zip placed.registers).flatMap fun (r, p) =>
      registerItems options bank.name r p

def interruptItems (table : InterruptTable) : List Item :=
  if table.isEmpty then []
  else
    [.blank, .heading "interrupts"]
      ++ table.entries.map fun i =>
        defineTo (upper i.name ++ "_INTERRUPT") (.count i.bit.toNat)

def regionItems (regions : List Region) : List Item :=
  if regions.isEmpty then []
  else
    [.blank, .heading "memory regions"]
      ++ regions.flatMap fun region =>
        [defineTo (symbolOf [region.name, "base"]) (.address region.origin),
          defineTo (symbolOf [region.name, "size"]) (.regionSize region.size)]

def constantItem (constant : Constant) : Item :=
  .define constant.name
    (match constant.value with
    | .int value => some (.integer value)
    | .str value => some (.text value)
    | .flag => none)

def constantItems (constants : List Constant) : List Item :=
  if constants.isEmpty then []
  else [.blank, .heading "constants"] ++ constants.map constantItem

/-- The whole header of a system. -/
def items (soc : Soc) (options : Options) : List Item :=
  topItems options
    ++ busItems soc.bus
    ++ soc.placedBanks.flatMap (fun (bank, placed) => bankItems options bank placed)
    ++ interruptItems soc.interrupts
    ++ regionItems soc.regions
    ++ constantItems soc.constants
    ++ [.blank, .guardEnd options.guardSymbol]

/-- No register is wider than the widest type of an accessor. -/
def checkWidths (soc : Soc) : Except ConfigError Unit :=
  soc.placedBanks.forM fun (bank, _) =>
    bank.registers.forM fun r =>
      if Register.maxWidth < r.width then
        .error (.widthOverflow bank.name r.name r.width Register.maxWidth)
      else .ok ()

end CsrMap.Header

namespace CsrMap

/-- The text that defines the bits of the interrupts. -/
def InterruptTable.defines (table : InterruptTable) : Except ConfigError String := do
  table.checkDense
  pure (Header.render (Header.interruptItems table))

/-- The text of the firmware header. -/
def Soc.header (soc : Soc) (options : Header.Options) : Except ConfigError String := do
  Header.checkWidths soc
  soc.interrupts.checkDense
  pure (Header.render (Header.items soc options))

end CsrMap
