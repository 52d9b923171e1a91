import CsrMap.AddressMap
import CsrMap.Log

/-!
Placement of banks in the address space.

Banks follow one another in their order of declaration. A register takes the slots of its words,
and the size of a bank is the span of its registers rounded as the bus asks. Sums that end a
bank are checked against the top of the address space; a bank that does not fit is refused.
-/

namespace CsrMap

/-- A sum of addresses that is refused, with the bank's name, where it passes the top. -/
def placedAt (bank : String) (base offset : UInt64) : Outcome ConfigError UInt64 :=
  match base.add? offset with
  | some address => pure address
  | none => refuse (.addressOverflow bank)

theorem placedAt_eq_ok_iff {bank : String} {base offset address : UInt64} :
    placedAt bank base offset = .ok address ↔
      address.toNat = base.toNat + offset.toNat := by
  rw [← UInt64.add?_eq_some_iff]
  unfold placedAt
  cases base.add? offset with
  | none => simp [refuse]
  | some a =>
    rw [Option.some.injEq]
    exact ⟨fun h => Except.ok.inj h, fun h => congrArg _ h⟩

/-- Registers end to end from `offset` bytes after `base`, and where the last one ends. -/
def placeRegisters (bus : BusGeometry) (bank : String) (base : UInt64) :
    UInt64 → List Register → Outcome ConfigError (List PlacedRegister × UInt64)
  | offset, [] => pure ([], offset)
  | offset, r :: registers => do
    let address ← placedAt bank base offset
    let words ← bus.slices r.width address
    let bytes ← bus.spanOf r.width
    let next ← offset.add? bytes
    let (later, span) ← placeRegisters bus bank base next registers
    pure (⟨r.name, r.access, r.width, address, words⟩ :: later, span)

/-- The size of a bank whose registers span `span` bytes. -/
def bankSize (bus : BusGeometry) (bank : String) (span : UInt64) : Outcome ConfigError UInt64 :=
  match bus.rounding with
  | .paged page => if page < span then refuse (.pageOverflow bank span page) else pure page
  | .slot | .boundary _ => liftM (span.ceilMultiple? bus.roundingUnit)

/-- A bank is well formed by itself and its name is none of `earlier`. -/
def checkBank (earlier : List String) (bank : Bank) : Except ConfigError Unit := do
  if earlier.contains bank.name then
    throw (.duplicateBank bank.name)
  if bank.registers.isEmpty then
    throw (.emptyBank bank.name)
  checkName bank.name
  Register.checkEach bank.name [] bank.registers

/-- A bank that starts `cursor` bytes after the base of the bus. -/
def placeBank (bus : BusGeometry) (earlier : List String) (cursor : UInt64) (bank : Bank) :
    Logged ConfigError PlacedBank := do
  Outcome.ofExcept (checkBank earlier bank)
  let base ← placedAt bank.name bus.base cursor
  let (registers, span) ← placeRegisters bus bank.name base 0 bank.registers
  let size ← bankSize bus bank.name span
  Logged.report (.bankPlaced bank.name base size registers.length)
  let _ ← placedAt bank.name base size
  pure ⟨bank.name, base, size, registers⟩

/-- Banks one after another from `cursor`, and where the last one ends. -/
def placeBanks (bus : BusGeometry) :
    List String → UInt64 → List Bank → Logged ConfigError (List PlacedBank × UInt64)
  | _, cursor, [] => pure ([], cursor)
  | earlier, cursor, bank :: banks => do
    let placed ← placeBank bus earlier cursor bank
    let next ← (liftM (cursor.add? placed.size) : Outcome ConfigError UInt64)
    let (later, total) ← placeBanks bus (bank.name :: earlier) next banks
    pure (placed :: later, total)

/-- The address map of `banks` on `bus`, with the events of the placement. -/
def AddressMap.ofBanksLogged (banks : List Bank) (bus : BusGeometry) :
    Logged ConfigError AddressMap := do
  bus.check
  let (placed, total) ← placeBanks bus [] 0 banks
  pure ⟨bus.base, total, placed⟩

def AddressMap.ofBanks (banks : List Bank) (bus : BusGeometry) : Outcome ConfigError AddressMap :=
  (ofBanksLogged banks bus).outcome

end CsrMap
