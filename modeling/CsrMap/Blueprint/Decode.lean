import CsrMap.Blueprint
import CsrMap.Hjson.Reader
import CsrMap.Hjson.Record

/-!
Blueprints in the Hjson notation.
-/

namespace CsrMap

open Hjson

namespace Quantity

def decode? : Value → Option Quantity
  | .str spelling => some (text spelling)
  | v => v.word?.map word

end Quantity

namespace Payload

def decode? : Value → Option Payload
  | .null => some flag
  | .str s => some (str s)
  | v => v.word?.map int

end Payload

def Access.decode? (v : Value) : Option Access := do
  match ← v.choice? with
  | "status" => some .status
  | "storage" => some .storage
  | _ => none

def Region.Kind.decode? (v : Value) : Option Region.Kind := do
  match ← v.choice? with
  | "cached" => some .cached
  | "io" => some .io
  | _ => none

def LaneOrder.decode? (v : Value) : Option LaneOrder := do
  match ← v.choice? with
  | "msb_first" => some .highFirst
  | "lsb_first" => some .lowFirst
  | _ => none

namespace Rounding

/-- The policy of a name with the value given for its size, if any. -/
def ofParts? (policy : String) (size : Option Value) : Option Rounding :=
  match policy, size with
  | "slot", none => some slot
  | "slot", some .null => some slot
  | "boundary", some v => v.word?.map boundary
  | "paged", some v => v.word?.map paged
  | _, _ => none

/-- A policy is chosen by name in an object; in an array its name is a string. -/
def decode? : Value → Option Rounding
  | .obj members => do
    let policy ← members.lookup "type"
    ofParts? (← policy.choice?) (members.lookup "size")
  | .arr [policy, size] => do ofParts? (← policy.string?) (some size)
  | _ => none

end Rounding

def Field.decode? (v : Value) : Option Field := do
  let m ← v.members? 4
  let name ← m.required? 0 "name" Value.string?
  let offset ← m.required? 1 "offset" Value.shortWord?
  let width ← m.required? 2 "width" Value.shortWord?
  let description ← m.defaulted? 3 "description" (Value.optional? Value.string?) none
  pure { name, offset, width, description }

def Register.decode? (v : Value) : Option Register := do
  let m ← v.members? 6
  let name ← m.required? 0 "name" Value.string?
  let width ← m.required? 1 "width" Value.shortWord?
  let access ← m.required? 2 "access" Access.decode?
  let fields ← m.defaulted? 3 "fields" (Value.list? Field.decode?) []
  let reset ← m.defaulted? 4 "reset" Value.word? 0
  let description ← m.defaulted? 5 "description" (Value.optional? Value.string?) none
  pure { name, width, access, fields, reset, description }

def WrittenBus.decode? (v : Value) : Option WrittenBus := do
  let m ← v.members? 5
  let dataWidth ← m.nullable? 0 "data_width" Value.shortWord?
  let slotSize ← m.nullable? 1 "slot_size" Value.word?
  let base ← m.nullable? 2 "base" Quantity.decode?
  let rounding ← m.nullable? 3 "alignment" Rounding.decode?
  let laneOrder ← m.nullable? 4 "word_order" LaneOrder.decode?
  pure { dataWidth, slotSize, base, rounding, laneOrder }

def WrittenBank.decode? (v : Value) : Option WrittenBank := do
  let m ← v.members? 3
  let name ← m.required? 0 "name" Value.string?
  let registers ← m.required? 1 "csrs" (Value.list? Register.decode?)
  let interrupt ← m.defaulted? 2 "interrupt" Value.bool? false
  pure { name, registers, interrupt }

def WrittenInterrupt.decode? (v : Value) : Option WrittenInterrupt := do
  let m ← v.members? 2
  let name ← m.required? 0 "name" Value.string?
  let peripheral ← m.nullable? 1 "peripheral" Value.string?
  pure { name, peripheral }

def WrittenRegion.decode? (v : Value) : Option WrittenRegion := do
  let m ← v.members? 4
  let name ← m.required? 0 "name" Value.string?
  let origin ← m.required? 1 "origin" Quantity.decode?
  let size ← m.required? 2 "size" Quantity.decode?
  let kind ← m.required? 3 "kind" Region.Kind.decode?
  pure { name, origin, size, kind }

def Constant.decode? (v : Value) : Option Constant := do
  let m ← v.members? 2
  let name ← m.required? 0 "name" Value.string?
  let value ← m.defaulted? 1 "value" Payload.decode? .flag
  pure { name, value }

namespace Blueprint

def decode? (v : Value) : Option Blueprint := do
  let m ← v.members? 5
  let bus ← m.defaulted? 0 "bus" WrittenBus.decode? {}
  let banks ← m.required? 1 "banks" (Value.list? WrittenBank.decode?)
  let interrupts ← m.defaulted? 2 "interrupts" (Value.list? WrittenInterrupt.decode?) []
  let regions ← m.defaulted? 3 "memory_regions" (Value.list? WrittenRegion.decode?) []
  let constants ← m.defaulted? 4 "constants" (Value.list? Constant.decode?) []
  pure { bus, banks, interrupts, regions, constants }

end Blueprint

/-- Typed data in a text: the text may be no value at all, or a value of another shape. -/
def decodeText {α : Type} (decode : Value → Option α) (text : String) : Except ConfigError α :=
  match Hjson.read? text with
  | none => .error (.badText .syntaxError)
  | some v =>
    match decode v with
    | none => .error (.badText .wrongShape)
    | some a => .ok a

def Blueprint.read (text : String) : Except ConfigError Blueprint :=
  decodeText Blueprint.decode? text

end CsrMap
