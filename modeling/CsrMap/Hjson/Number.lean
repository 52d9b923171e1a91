import CsrMap.Hjson.Binary64
import CsrMap.Hjson.Value

/-!
Numbers of the Hjson notation.

An optional minus sign, an integer part without needless zeros, then optionally a fraction and
an exponent; only blanks may follow. With a fraction or an exponent the number is the nearest
floating-point number, and one that is too large for it is null. Otherwise it is an integer of
64 bits, signed where it has a minus sign; what lies outside of that range is no number.
-/

namespace CsrMap.Hjson

/-- The digits at the front, and the rest. -/
def digits (cs : List Char) : List Char × List Char := cs.span Char.isDigit

def natOf (ds : List Char) : Nat := ds.foldl (fun n d => n * 10 + (d.toNat - '0'.toNat)) 0

/-- The integer part: a single zero, or digits that do not start with one. -/
def integerPart? (cs : List Char) : Option (List Char × List Char) :=
  match digits cs with
  | ([], _) => none
  | ('0' :: _ :: _, _) => none
  | (ds, rest) => some (ds, rest)

/-- The digits after a point, at least one; without a point there are none. -/
def fractionPart? : List Char → Option (List Char × List Char)
  | '.' :: cs =>
    match digits cs with
    | ([], _) => none
    | (ds, rest) => some (ds, rest)
  | cs => some ([], cs)

def unsignedExponent? (cs : List Char) : Option (Nat × List Char) :=
  match digits cs with
  | ([], _) => none
  | (ds, rest) => some (natOf ds, rest)

/-- The power of ten after an `e`; without one there is none. -/
def exponentPart? : List Char → Option (Option Int × List Char)
  | 'e' :: cs | 'E' :: cs =>
    match cs with
    | '-' :: cs => (unsignedExponent? cs).map fun (n, rest) => (some (-(n : Int)), rest)
    | '+' :: cs => (unsignedExponent? cs).map fun (n, rest) => (some (n : Int), rest)
    | cs => (unsignedExponent? cs).map fun (n, rest) => (some (n : Int), rest)
  | cs => some (none, cs)

def isSpacing (c : Char) : Bool := c == ' ' || c == '\n' || c == '\t' || c == '\r'

def integerValue? (negative : Bool) (n : Nat) : Option Value :=
  if negative then
    if n ≤ 1 <<< 63 then some (.int (-(n : Int))) else none
  else
    if n < UInt64.size then some (.int n) else none

def floatValue (negative : Bool) (n : Nat) (power : Int) : Value :=
  match Binary64.ofDecimal? n power with
  | none => .null
  | some bits => .float (if negative then Binary64.signBit + bits else bits).toUInt64

def number? (cs : List Char) : Option Value := do
  let (negative, cs) :=
    match cs with
    | '-' :: cs => (true, cs)
    | cs => (false, cs)
  let (whole, cs) ← integerPart? cs
  let (fraction, cs) ← fractionPart? cs
  let (power, cs) ← exponentPart? cs
  if cs.all isSpacing then
    if fraction.isEmpty && power.isNone then
      integerValue? negative (natOf whole)
    else
      some (floatValue negative (natOf (whole ++ fraction)) (power.getD 0 - fraction.length))
  else
    none

end CsrMap.Hjson
