import CsrMap.Constant
import CsrMap.Interrupt
import CsrMap.Region
import CsrMap.Register

/-!
The declarations of a system before they are placed.

Each operation checks a new declaration against those already made and either adds it at the end
of its list or refuses it. A `Declaring` is a row of such operations; where one is refused,
those before it stay.
-/

namespace CsrMap

structure Declarations where
  banks : List Bank := []
  interrupts : InterruptTable := {}
  regions : List Region := []
  constants : List Constant := []
  deriving DecidableEq, Repr

namespace Declarations

def hasBank (d : Declarations) (name : String) : Bool := d.banks.any (·.name == name)

/-- The position of the bank of this name, and the bank. -/
def bank? (d : Declarations) (name : String) : Option (Nat × Bank) :=
  (d.banks.findIdx? (·.name == name)).bind fun index =>
    (d.banks[index]?).map fun bank => (index, bank)

/-- With a new bank at the end; also gives its position. -/
def withBank (d : Declarations) (name : String) (registers : List Register) :
    Except ConfigError (Declarations × Nat) := do
  checkName name
  if d.hasBank name then
    throw (.duplicateBank name)
  if registers.isEmpty then
    throw (.emptyBank name)
  Register.checkEach name [] registers
  pure ({ d with banks := d.banks ++ [⟨name, registers⟩] }, d.banks.length)

/-- With a new interrupt at the end; also gives its bit. -/
def withInterrupt (d : Declarations) (name peripheral : String) :
    Except ConfigError (Declarations × UInt32) := do
  let (interrupts, bit) ← d.interrupts.add name peripheral
  pure ({ d with interrupts := interrupts }, bit)

/-- The new region against the earlier ones in their order, first by name, then by addresses. -/
def checkRegion (region : Region) : List Region → Except ConfigError Unit
  | [] => .ok ()
  | other :: regions =>
    if other.name = region.name then .error (.duplicateRegion region.name)
    else if other.meets region.origin region.size then
      .error (.regionOverlap other.name region.name)
    else checkRegion region regions

def withRegion (d : Declarations) (region : Region) : Except ConfigError Declarations := do
  checkName region.name
  if region.size = 0 then
    throw (.emptyRegion region.name)
  checkRegion region d.regions
  pure { d with regions := d.regions ++ [region] }

def withConstant (d : Declarations) (name : String) (value : Payload) :
    Except ConfigError Declarations := do
  checkConstantName name
  if d.constants.any (·.name == name) then
    throw (.duplicateConstant name)
  pure { d with constants := d.constants ++ [⟨name, value⟩] }

end Declarations

/-- A row of declarations. Those that it made are there also where it fails. -/
abbrev Declaring (α : Type) : Type := ExceptT (Failure ConfigError) (StateM Declarations) α

namespace Declaring

/-- One declaration; a refusal changes nothing. -/
def ofOperation {α : Type} (operation : Declarations → Except ConfigError (Declarations × α)) :
    Declaring α :=
  fun d =>
    match operation d with
    | .ok (next, a) => (.ok a, next)
    | .error cause => (refuse cause, d)

theorem ofOperation_ok {α : Type}
    {operation : Declarations → Except ConfigError (Declarations × α)}
    {d next : Declarations} {a : α} (h : operation d = .ok (next, a)) :
    ofOperation operation d = (.ok a, next) := by
  simp [ofOperation, h]

theorem ofOperation_error {α : Type}
    {operation : Declarations → Except ConfigError (Declarations × α)}
    {d : Declarations} {cause : ConfigError} (h : operation d = .error cause) :
    ofOperation operation d = (refuse cause, d) := by
  simp [ofOperation, h]

def bank (name : String) (registers : List Register) : Declaring Nat :=
  ofOperation (·.withBank name registers)

def interrupt (name peripheral : String) : Declaring UInt32 :=
  ofOperation (·.withInterrupt name peripheral)

def region (region : Region) : Declaring Unit :=
  ofOperation fun d => (·, ()) <$> d.withRegion region

def constant (name : String) (value : Payload) : Declaring Unit :=
  ofOperation fun d => (·, ()) <$> d.withConstant name value

/-- What the row declares when nothing is declared before it, if nothing fails. -/
def all (row : Declaring Unit) : Outcome ConfigError Declarations :=
  match row.run {} with
  | (.ok (), d) => .ok d
  | (.error failure, _) => .error failure

end Declaring

end CsrMap
