import CsrMap.ConfigError
import CsrMap.Text.Blank

/-!
Quantities: numbers that may also be written as strings, in decimal or after `0x` in hexadecimal.

In a string, white space around the numeral and underscores anywhere count for nothing.
-/

namespace CsrMap

inductive Quantity where
  | word (value : UInt64)
  | text (spelling : String)
  deriving DecidableEq, Repr

namespace Quantity

/-- A spelling without white space at its ends and without underscores. -/
def cleaned (spelling : String) : List Char :=
  (Text.dropBlanks spelling.toList).filter (· ≠ '_')

/-- The word that a cleaned spelling stands for. -/
def numeral? : List Char → Option UInt64
  | '0' :: 'x' :: digits | '0' :: 'X' :: digits => Numeral.readWord? 16 digits
  | digits => Numeral.readWord? 10 digits

def value : Quantity → Except ConfigError UInt64
  | word n => .ok n
  | text spelling =>
    match numeral? (cleaned spelling) with
    | some n => .ok n
    | none => .error (.badText (.notANumber (String.ofList (cleaned spelling))))

end Quantity

end CsrMap
