import CsrMap.Bus.Model
import CsrMap.Header.Accessor
import CsrMap.Proofs.Word.Bits

/-!
What the functions of a header do when they run on a bus.

Types of 8 and 16 bits are promoted to a signed integer of 32 bits, and two operands meet in the
wider of their types. Nothing is lost on the way: a computation has no value where a shift reaches
the width of its operand, where a shift or a conversion changes the number, or where the bus
faults. A function calls functions that stand before it, and the two functions that read and write
one word of the bus.
-/

namespace CsrMap.Header

/-! ### Values -/

/-- The types of operands. -/
inductive Promoted where
  | int
  | u32
  | u64
  deriving DecidableEq, Repr

namespace Promoted

def bits : Promoted → ℕ
  | int | u32 => 32
  | u64 => 64

/-- The largest number. -/
def max : Promoted → UInt64
  | int => lowBits 31
  | u32 => lowBits 32
  | u64 => lowBits 64

/-- The type in which two operands meet. -/
def join : Promoted → Promoted → Promoted
  | int, q => q
  | p, int => p
  | u32, u32 => u32
  | _, _ => u64

end Promoted

namespace IntType

def promoted : IntType → Promoted
  | u8 | u16 => .int
  | u32 => .u32
  | u64 => .u64

/-- The largest number. -/
def max (t : IntType) : UInt64 := lowBits t.bits.toUInt32

end IntType

inductive Value where
  /-- What a call of a function without a result gives. -/
  | nothing
  | address (value : UInt64)
  /-- A number modulo `2 ^ 64`; the upper bits of a negative one are set. -/
  | number (type : Promoted) (bits : UInt64)
  deriving DecidableEq, Repr

namespace Value

/-- A word of a type, as an operand. -/
def ofWord (t : IntType) (x : UInt64) : Value := number t.promoted x

/-- The number, where it is not negative. -/
def amount? : Value → Option UInt64
  | number type x => if x ≤ type.max then some x else none
  | _ => none

/-- The number as a word of a type that holds it. -/
def convert? (t : IntType) (value : Value) : Option UInt64 := do
  let x ← value.amount?
  if x ≤ t.max then some x else none

end Value

/-- The number in a type where two operands meet; a negative one stays in its own type. -/
def Promoted.widen? (p type : Promoted) (x : UInt64) : Option UInt64 :=
  if p = type ∨ x ≤ p.max then some x else none

def bitwise? (f : UInt64 → UInt64 → UInt64) : Value → Value → Option Value
  | .number p x, .number q y => do
    let x ← p.widen? (p.join q) x
    let y ← q.widen? (p.join q) y
    some (.number (p.join q) (f x y))
  | _, _ => none

/-- The result has the type of the left operand, and none of its bits leaves it. -/
def shiftLeft? : Value → Value → Option Value
  | .number type x, distance => do
    let x ← (Value.number type x).amount?
    let n ← distance.amount?
    if n.toNat < type.bits ∧ x.toNat * 2 ^ n.toNat ≤ type.max.toNat then
      some (.number type (x <<< n))
    else none
  | _, _ => none

def shiftRight? : Value → Value → Option Value
  | .number type x, distance => do
    let x ← (Value.number type x).amount?
    let n ← distance.amount?
    if n.toNat < type.bits then some (.number type (x >>> n)) else none
  | _, _ => none

def BinaryOp.eval? : BinaryOp → Value → Value → Option Value
  | and => bitwise? (· &&& ·)
  | or => bitwise? (· ||| ·)
  | shiftLeft => shiftLeft?
  | shiftRight => shiftRight?

/-- All bits of the type the other way round. -/
def Promoted.flip : Promoted → UInt64 → UInt64
  | int, x => ~~~x
  | u32, x => ~~~x &&& u32.max
  | u64, x => ~~~x

def complement? : Value → Option Value
  | .number type x => some (.number type (type.flip x))
  | _ => none

/-- A hexadecimal literal has the first type that holds it. -/
def maskType (x : UInt64) : Promoted :=
  if x ≤ Promoted.int.max then .int else if x ≤ Promoted.u32.max then .u32 else .u64

def Literal.operand? : Literal → Option Value
  | address a => some (.address a)
  | mask x => some (.number (maskType x) x)
  | count n => if n ≤ Promoted.int.max.toNat then some (.number .int n.toUInt64) else none
  | _ => none

/-! ### Programs -/

/-- What a call by name and arguments gives, and the state that it leaves. -/
abbrev Calls : Type := String → List Value → BusModel → Option (Value × BusModel)

/-- Variables with their types and words; the latest stands first. -/
abbrev Variables : Type := List (String × IntType × UInt64)

@[simp] def Expression.run (calls : Calls) (vars : Variables) :
    Expression → BusModel → Option (Value × BusModel)
  | .variable name, m => do
    let (type, x) ← vars.lookup name
    some (.ofWord type x, m)
  | .literal value, m => do
    let x ← value.operand?
    some (x, m)
  | .call function, m => calls function [] m
  | .callOne function argument, m => do
    let (x, m) ← argument.run calls vars m
    calls function [x] m
  | .callTwo function first second, m => do
    let (x, m) ← first.run calls vars m
    let (y, m) ← second.run calls vars m
    calls function [x, y] m
  | .complement operand, m => do
    let (x, m) ← operand.run calls vars m
    let x ← complement? x
    some (x, m)
  | .cast type operand, m => do
    let (x, m) ← operand.run calls vars m
    let x ← x.convert? type
    some (.ofWord type x, m)
  | .binary op left right, m => do
    let (x, m) ← left.run calls vars m
    let (y, m) ← right.run calls vars m
    let z ← op.eval? x y
    some (z, m)

/-- The statements of a body from the first to the one that gives the result. -/
def runBody (calls : Calls) (result : Option IntType) :
    Variables → List Statement → BusModel → Option (Value × BusModel)
  | _, [], m => if result = none then some (.nothing, m) else none
  | vars, .declareZero type name :: later, m =>
    runBody calls result ((name, type, 0) :: vars) later m
  | vars, .orInto name value :: later, m => do
    let (x, m) ← value.run calls vars m
    let (type, old) ← vars.lookup name
    let new ← (BinaryOp.or.eval? (.ofWord type old) x).bind (·.convert? type)
    runBody calls result ((name, type, new) :: vars) later m
  | vars, .evaluate value :: later, m => do
    let (_, m) ← value.run calls vars m
    runBody calls result vars later m
  | vars, .give value :: _, m => do
    let type ← result
    let (x, m) ← value.run calls vars m
    let x ← x.convert? type
    some (.ofWord type x, m)

/-- Arguments as words of the types of the parameters. -/
def bindArguments? : List (IntType × String) → List Value → Option Variables
  | [], [] => some []
  | (type, name) :: parameters, value :: values => do
    let x ← value.convert? type
    let vars ← bindArguments? parameters values
    some ((name, type, x) :: vars)
  | _, _ => none

def Function.run (calls : Calls) (f : Function) (arguments : List Value) (m : BusModel) :
    Option (Value × BusModel) := do
  let vars ← bindArguments? f.parameters arguments
  runBody calls f.result vars f.body m

/-- The functions that read and write one word of the bus, as a word of the type `word`. -/
def busCall (word : IntType) (name : String) (arguments : List Value) (m : BusModel) :
    Option (Value × BusModel) :=
  match arguments with
  | [.address a] => do
    let x ← (m.read a).toOption
    if name = "csr_read_simple" ∧ x ≤ word.max then some (.ofWord word x, m) else none
  | [value, .address a] => do
    let x ← value.convert? word
    let m ← (m.write a x).toOption
    if name = "csr_write_simple" then some (.nothing, m) else none
  | _ => none

/-- A call among functions of which the latest stands first. Each of them calls earlier ones. -/
def callAmong (word : IntType) : List Function → Calls
  | [], name => busCall word name
  | f :: earlier, name =>
    if f.name = name then f.run (callAmong word earlier) else callAmong word earlier name

/-- A call after the functions of a text. -/
def callAfter (word : IntType) (fs : List Function) : Calls := callAmong word fs.reverse

end CsrMap.Header
