import CsrMap.Text.Numeral

/-!
The literals of the firmware header, each with its spelling.
-/

namespace CsrMap.Header

open Numeral

inductive Literal where
  /-- An address: at least eight hexadecimal digits, of type long. -/
  | address (value : UInt64)
  /-- The size of a memory region: at least eight hexadecimal digits. -/
  | regionSize (value : UInt64)
  /-- The size of a bank: as many hexadecimal digits as it takes. -/
  | bankSize (value : UInt64)
  /-- A bit mask; one that does not fit in 32 bits is of type unsigned long long. -/
  | mask (value : UInt64)
  /-- A small count, position or width. -/
  | count (value : Nat)
  /-- A number given by the user; one that no signed type holds is of type unsigned long long. -/
  | integer (value : UInt64)
  | text (value : String)
  deriving DecidableEq, Repr

namespace Literal

def escapedChar : Char → List Char
  | '"' => ['\\', '"']
  | '\\' => ['\\', '\\']
  | '\n' => ['\\', 'n']
  | c => [c]

/-- A string literal. A line feed is the only character of a line break that is written as an
escape. -/
def textSpelling (s : String) : String :=
  "\"" ++ String.ofList (s.toList.flatMap escapedChar) ++ "\""

def spelling : Literal → String
  | address value => markedWide value.toNat ++ "L"
  | regionSize value => markedWide value.toNat
  | bankSize value => marked value.toNat
  | mask value =>
    if value.toNat < UInt32.size then marked value.toNat else marked value.toNat ++ "ULL"
  | count value => decimal value
  | integer value =>
    if value.toNat < 1 <<< 63 then decimal value.toNat else decimal value.toNat ++ "ULL"
  | text value => textSpelling value

end Literal

end CsrMap.Header
