import CsrMap.Header.Literal

/-!
The small functions that a firmware header can hold: straight-line code over unsigned integers.

An operand of an operator that is itself an operator between two expressions stands in
parentheses, so the text has the structure of the expression whatever the precedence of the
operators.
-/

namespace CsrMap.Header

/-- The unsigned integer types, by their widths. -/
inductive IntType where
  | u8
  | u16
  | u32
  | u64
  deriving DecidableEq, Repr

namespace IntType

/-- The smallest type that holds `width` bits. -/
def ofWidth (width : UInt32) : IntType :=
  if width ≤ 8 then u8 else if width ≤ 16 then u16 else if width ≤ 32 then u32 else u64

def bits : IntType → Nat
  | u8 => 8
  | u16 => 16
  | u32 => 32
  | u64 => 64

def spelling (t : IntType) : String := "uint" ++ Numeral.decimal t.bits ++ "_t"

end IntType

inductive BinaryOp where
  | and
  | or
  | shiftLeft
  | shiftRight
  deriving DecidableEq, Repr

def BinaryOp.spelling : BinaryOp → String
  | and => "&"
  | or => "|"
  | shiftLeft => "<<"
  | shiftRight => ">>"

inductive Expression where
  | variable (name : String)
  | literal (value : Literal)
  | call (function : String)
  | callOne (function : String) (argument : Expression)
  | callTwo (function : String) (first second : Expression)
  | complement (operand : Expression)
  | cast (type : IntType) (operand : Expression)
  | binary (op : BinaryOp) (left right : Expression)
  deriving DecidableEq, Repr

namespace Expression

def isBinary : Expression → Bool
  | binary .. => true
  | _ => false

def parenthesized (inside : Bool) (text : String) : String :=
  if inside then "(" ++ text ++ ")" else text

def spelling : Expression → String
  | .variable name => name
  | literal value => value.spelling
  | call function => function ++ "()"
  | callOne function argument => function ++ "(" ++ argument.spelling ++ ")"
  | callTwo function first second =>
    function ++ "(" ++ first.spelling ++ ", " ++ second.spelling ++ ")"
  | complement operand => "~" ++ parenthesized operand.isBinary operand.spelling
  | cast type operand =>
    "(" ++ type.spelling ++ ")" ++ parenthesized operand.isBinary operand.spelling
  | binary op left right =>
    parenthesized left.isBinary left.spelling ++ " " ++ op.spelling ++ " "
      ++ parenthesized right.isBinary right.spelling

/-- The operand itself where it is moved by nothing. -/
def movedLeft (operand : Expression) (distance : UInt32) : Expression :=
  if distance = 0 then operand
  else binary .shiftLeft operand (literal (.count distance.toNat))

def movedRight (operand : Expression) (distance : UInt32) : Expression :=
  if distance = 0 then operand
  else binary .shiftRight operand (literal (.count distance.toNat))

def masked (operand : Expression) (mask : UInt64) : Expression :=
  binary .and operand (literal (.mask mask))

end Expression

inductive Statement where
  /-- A local variable that starts at zero. -/
  | declareZero (type : IntType) (name : String)
  | orInto (name : String) (value : Expression)
  | evaluate (value : Expression)
  | give (value : Expression)
  deriving DecidableEq, Repr

def Statement.spelling : Statement → String
  | declareZero type name => type.spelling ++ " " ++ name ++ " = 0;"
  | orInto name value => name ++ " |= " ++ value.spelling ++ ";"
  | evaluate value => value.spelling ++ ";"
  | give value => "return " ++ value.spelling ++ ";"

structure Function where
  /-- Without a type the function gives no value. -/
  result : Option IntType
  name : String
  parameters : List (IntType × String)
  body : List Statement
  deriving DecidableEq, Repr

namespace Function

def resultSpelling (f : Function) : String :=
  match f.result with
  | some type => type.spelling
  | none => "void"

def parametersSpelling (f : Function) : String :=
  match f.parameters with
  | [] => "void"
  | parameters => ", ".intercalate (parameters.map fun (type, name) => type.spelling ++ " " ++ name)

def lines (f : Function) : List String :=
  ["static inline " ++ f.resultSpelling ++ " " ++ f.name ++ "(" ++ f.parametersSpelling ++ ") \x7b"]
    ++ f.body.map ("\t" ++ ·.spelling)
    ++ ["\x7d"]

end Function

end CsrMap.Header
