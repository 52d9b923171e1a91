/-!
Values of the Hjson notation.
-/

namespace CsrMap.Hjson

inductive Value where
  | null
  | bool (value : Bool)
  | int (value : Int)
  /-- A finite number, by the bits of its 64-bit pattern. -/
  | float (bits : UInt64)
  | str (value : String)
  | arr (elements : List Value)
  /-- Members with distinct names. -/
  | obj (members : List (String × Value))
  deriving Repr

/-- Adds a member; one of the same name is replaced. -/
def putMember (name : String) (value : Value) : List (String × Value) → List (String × Value)
  | [] => [(name, value)]
  | (n, v) :: members =>
    if n = name then (name, value) :: members else (n, v) :: putMember name value members

end CsrMap.Hjson
