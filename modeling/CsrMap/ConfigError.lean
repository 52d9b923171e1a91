import CsrMap.Text.Numeral
import CsrMap.Text.Quoted

/-!
What can be wrong with a map of control and status registers, and how each mistake is told.

Every cause is a mistake in what was declared. `ConfigError.message` is the only place
where the wording is fixed.
-/

namespace CsrMap

open Numeral Text

/-- Why a bus geometry is not supported. -/
inductive BusFlaw where
  | dataWidth (width : UInt32)
  | slotSize (size : UInt64) (dataWidth : UInt32)
  | base (address : UInt64)
  | rounding (size : UInt64)
  deriving DecidableEq, Repr

def BusFlaw.message : BusFlaw → String
  | .dataWidth width => "data width " ++ decimal width.toNat ++ " is not one of 8, 16, 32, 64"
  | .slotSize size width =>
    "slot size " ++ decimal size.toNat ++ " must be a power of two holding " ++ decimal width.toNat
      ++ " data bits"
  | .base address => "base " ++ marked address.toNat ++ " is not aligned to the slot size"
  | .rounding size =>
    "alignment " ++ marked size.toNat ++ " must be a power of two and at least one slot"

/-- Why a written description has no meaning. -/
inductive TextFlaw where
  /-- The text is not a value of the notation at all. -/
  | syntaxError
  /-- The value does not have the members and kinds that are asked for. -/
  | wrongShape
  /-- A string stands for a number and is no numeral of one. -/
  | notANumber (text : String)
  deriving DecidableEq, Repr

def TextFlaw.message : TextFlaw → String
  | .syntaxError => "the text is not well formed"
  | .wrongShape => "the value does not have the expected members"
  | .notANumber text => quoted text ++ " is not a number"

inductive ConfigError where
  | invalidName (name : String)
  | duplicateBank (bank : String)
  | emptyBank (bank : String)
  | duplicateRegister (bank register : String)
  | zeroWidth (bank register : String)
  | widthOverflow (bank register : String) (width max : UInt32)
  | fieldOutOfRange (register field : String) (offset width registerWidth : UInt32)
  | fieldOverlap (register first second : String)
  | duplicateField (register field : String)
  | resetOverflow (bank register : String) (reset : UInt64) (width : UInt32)
  | invalidBus (flaw : BusFlaw)
  | pageOverflow (bank : String) (size page : UInt64)
  | addressOverflow (bank : String)
  | duplicateInterrupt (name : String)
  | interruptVectorFull (name : String) (max : UInt32)
  | interruptsNotDense (name : String) (bit : UInt32) (position : Nat)
  | duplicateRegion (region : String)
  | emptyRegion (region : String)
  | regionOverlap (first second : String)
  | duplicateConstant (name : String)
  | symbolCollision (first second symbol : String)
  | unknownBank (bank : String)
  | unknownRegister (bank register : String)
  | notStatus (bank register : String)
  | badText (flaw : TextFlaw)
  deriving DecidableEq, Repr

def ConfigError.message : ConfigError → String
  | .invalidName name =>
    "invalid name " ++ quoted name ++ ": must be a non-empty identifier of [a-z0-9_]"
  | .duplicateBank bank => "bank " ++ quoted bank ++ " is already registered"
  | .emptyBank bank => "bank " ++ quoted bank ++ " has no registers"
  | .duplicateRegister bank register =>
    "bank " ++ quoted bank ++ " declares register " ++ quoted register ++ " more than once"
  | .zeroWidth bank register => "register " ++ bank ++ "." ++ register ++ " has zero width"
  | .widthOverflow bank register width max =>
    "register " ++ bank ++ "." ++ register ++ " is " ++ decimal width.toNat
      ++ " bits wide; at most " ++ decimal max.toNat ++ " bits are supported"
  | .fieldOutOfRange register field offset width registerWidth =>
    "field " ++ register ++ "." ++ field ++ " (offset " ++ decimal offset.toNat ++ ", width "
      ++ decimal width.toNat ++ ") does not fit in " ++ decimal registerWidth.toNat ++ " bits"
  | .fieldOverlap register first second =>
    "fields " ++ register ++ "." ++ first ++ " and " ++ register ++ "." ++ second ++ " overlap"
  | .duplicateField register field =>
    "register " ++ quoted register ++ " declares field " ++ quoted field ++ " more than once"
  | .resetOverflow bank register reset width =>
    "reset value " ++ marked reset.toNat ++ " of " ++ bank ++ "." ++ register
      ++ " does not fit in " ++ decimal width.toNat ++ " bits"
  | .invalidBus flaw => "unsupported CSR bus configuration: " ++ flaw.message
  | .pageOverflow bank size page =>
    "bank " ++ quoted bank ++ " needs " ++ marked size.toNat ++ " bytes but a page is only "
      ++ marked page.toNat ++ " bytes"
  | .addressOverflow bank => "address space overflow while placing bank " ++ quoted bank
  | .duplicateInterrupt name => "interrupt source " ++ quoted name ++ " is already registered"
  | .interruptVectorFull name max =>
    "cannot register interrupt " ++ quoted name ++ ": the interrupt vector only has "
      ++ decimal max.toNat ++ " bits"
  | .interruptsNotDense name bit position =>
    "interrupt map is not dense: " ++ name ++ " has bit " ++ decimal bit.toNat
      ++ " but is source #" ++ decimal position
  | .duplicateRegion region => "memory region " ++ quoted region ++ " is already registered"
  | .emptyRegion region => "memory region " ++ quoted region ++ " has zero size"
  | .regionOverlap first second =>
    "memory region " ++ quoted first ++ " overlaps " ++ quoted second
  | .duplicateConstant name => "constant " ++ quoted name ++ " is already defined"
  | .symbolCollision first second symbol =>
    first ++ " and " ++ second ++ " both emit the symbol " ++ symbol
  | .unknownBank bank => "unknown bank " ++ quoted bank
  | .unknownRegister bank register =>
    "bank " ++ quoted bank ++ " has no register " ++ quoted register
  | .notStatus bank register =>
    "register " ++ bank ++ "." ++ register ++ " is not a status register"
  | .badText flaw => "failed to parse SoC description: " ++ flaw.message

end CsrMap
