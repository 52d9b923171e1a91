/-!
Numerals: digits of a natural number in a base, and the reading of a numeral into a word.

A numeral that is read may carry one leading plus sign, needs at least one digit, and has no
value where it is too large for the word.
-/

namespace CsrMap.Numeral

def padLeft (width : Nat) (fill : Char) (s : String) : String :=
  "".pushn fill (width - s.length) ++ s

def padRight (width : Nat) (fill : Char) (s : String) : String :=
  s.pushn fill (width - s.length)

def decimal (n : Nat) : String := String.ofList (Nat.toDigits 10 n)

/-- Lower-case hexadecimal digits without a mark. -/
def hex (n : Nat) : String := String.ofList (Nat.toDigits 16 n)

/-- Hexadecimal digits after `0x`. -/
def marked (n : Nat) : String := "0x" ++ hex n

/-- At least eight hexadecimal digits after `0x`. -/
def markedWide (n : Nat) : String := "0x" ++ padLeft 8 '0' (hex n)

/-- The value of a digit of either case, if it is one in `base`. -/
def digit? (base : Nat) (c : Char) : Option Nat :=
  let value :=
    if '0' ≤ c ∧ c ≤ '9' then some (c.toNat - '0'.toNat)
    else if 'a' ≤ c ∧ c ≤ 'z' then some (c.toNat - 'a'.toNat + 10)
    else if 'A' ≤ c ∧ c ≤ 'Z' then some (c.toNat - 'A'.toNat + 10)
    else none
  value.filter (· < base)

/-- The value of a row of digits that continues a number of value `start`. -/
def value? (base : Nat) (start : Nat) : List Char → Option Nat
  | [] => some start
  | c :: cs => do value? base (start * base + (← digit? base c)) cs

/-- A numeral with at least one digit, after an optional plus sign. -/
def read? (base : Nat) : List Char → Option Nat
  | [] => none
  | ['+'] => none
  | '+' :: cs => value? base 0 cs
  | cs => value? base 0 cs

def readWord? (base : Nat) (cs : List Char) : Option UInt64 := do
  let n ← read? base cs
  if n < UInt64.size then some n.toUInt64 else none

def readShortWord? (base : Nat) (cs : List Char) : Option UInt32 := do
  let n ← read? base cs
  if n < UInt32.size then some n.toUInt32 else none

end CsrMap.Numeral
