import CsrMap.Hjson.Value

/-!
Typed data in Hjson values.

A record is an object with named members, of which others are ignored, or an array of its
members in their order. A choice between names is the name as a string, or an object whose only
member has that name and is null. Numbers are integers that fit; nothing is converted between
kinds.
-/

namespace CsrMap.Hjson

namespace Value

def string? : Value → Option String
  | str s => some s
  | _ => none

def bool? : Value → Option Bool
  | bool b => some b
  | _ => none

def word? : Value → Option UInt64
  | int n => if 0 ≤ n ∧ n.toNat < UInt64.size then some n.toNat.toUInt64 else none
  | _ => none

def shortWord? : Value → Option UInt32
  | int n => if 0 ≤ n ∧ n.toNat < UInt32.size then some n.toNat.toUInt32 else none
  | _ => none

def list? {α : Type} (decode : Value → Option α) : Value → Option (List α)
  | arr vs => vs.mapM decode
  | _ => none

/-- Null stands for a missing value. -/
def optional? {α : Type} (decode : Value → Option α) : Value → Option (Option α)
  | null => some none
  | v => (decode v).map some

/-- The name that a choice stands for. -/
def choice? : Value → Option String
  | str name => some name
  | obj [(name, null)] => some name
  | _ => none

end Value

/-- The members of a record in either way of writing. -/
inductive Members where
  | named (members : List (String × Value))
  | listed (values : List Value)

/-- The members of a record that has `count` of them. -/
def Value.members? (count : Nat) : Value → Option Members
  | obj members => some (.named members)
  | arr values => if values.length ≤ count then some (.listed values) else none
  | _ => none

namespace Members

variable {α : Type}

/-- The member at `index` of the order, which is called `name`. -/
def get? (m : Members) (index : Nat) (name : String) : Option Value :=
  match m with
  | named members => members.lookup name
  | listed values => values[index]?

/-- A member that has to be there. -/
def required? (m : Members) (index : Nat) (name : String) (decode : Value → Option α) :
    Option α :=
  m.get? index name >>= decode

/-- A member that may be missing. -/
def defaulted? (m : Members) (index : Nat) (name : String) (decode : Value → Option α)
    (default : α) : Option α :=
  match m.get? index name with
  | some v => decode v
  | none => some default

/-- A member that may be null; it may be missing only where members are named. -/
def nullable? (m : Members) (index : Nat) (name : String) (decode : Value → Option α) :
    Option (Option α) :=
  match m, m.get? index name with
  | _, some v => v.optional? decode
  | named _, none => some none
  | listed _, none => none

end Members

end CsrMap.Hjson
