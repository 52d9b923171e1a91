import CsrMap.ConfigError

/-!
Names of declarations. Banks, registers, fields, regions and interrupts have lower-case
identifiers; constants, whose names become symbols as they stand, have upper-case ones.
-/

namespace CsrMap

def isLowerWordChar (c : Char) : Bool := c.isLower || c.isDigit || c == '_'

def isUpperWordChar (c : Char) : Bool := c.isUpper || c.isDigit || c == '_'

/-- A non-empty row of word characters that does not start with a digit. -/
def isName (s : String) : Bool :=
  match s.toList with
  | [] => false
  | c :: cs => !c.isDigit && (c :: cs).all isLowerWordChar

def isConstantName (s : String) : Bool :=
  match s.toList with
  | [] => false
  | c :: cs => !c.isDigit && (c :: cs).all isUpperWordChar

def checkName (s : String) : Except ConfigError Unit :=
  if isName s then .ok () else .error (.invalidName s)

def checkConstantName (s : String) : Except ConfigError Unit :=
  if isConstantName s then .ok () else .error (.invalidName s)

theorem checkName_eq_ok_iff {s : String} : checkName s = .ok () ↔ isName s := by
  unfold checkName
  split <;> simp_all

theorem checkConstantName_eq_ok_iff {s : String} :
    checkConstantName s = .ok () ↔ isConstantName s := by
  unfold checkConstantName
  split <;> simp_all

end CsrMap
