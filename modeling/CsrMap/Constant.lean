/-!
Constants that a description passes to firmware as they are.
-/

namespace CsrMap

inductive Payload where
  | int (value : UInt64)
  | str (value : String)
  /-- Present without a value. -/
  | flag
  deriving DecidableEq, Repr

structure Constant where
  name : String
  value : Payload := .flag
  deriving DecidableEq, Repr

end CsrMap
