import CsrMap.Completion

/-!
The behaviour of a finished map on the bus.

Storage registers hold what software wrote last, at first their reset values. Status registers
change only from the hardware side; a write to one is dropped. An access goes to the word whose
slice has exactly the given address; an address between two slots is misaligned, and one without
a word is a fault.
-/

namespace CsrMap

inductive BusFault where
  | loadMisaligned
  | loadAccess
  | storeMisaligned
  | storeAccess
  deriving DecidableEq, Repr

/-- A register with its value. -/
structure LiveRegister where
  name : String
  access : Access
  reset : UInt64
  value : UInt64
  words : List Slice
  deriving DecidableEq, Repr

namespace LiveRegister

/-- At its reset value. -/
def ofPlaced (r : Register) (placed : PlacedRegister) : LiveRegister :=
  ⟨r.name, r.access, r.reset, r.reset, placed.words⟩

/-- The number of bits that the words of the register carry together. -/
def width (r : LiveRegister) : Checked UInt32 :=
  r.words.foldlM (fun total word => total.add? word.bits) 0

/-- The register after `word` is written to one of its slices. -/
def store (r : LiveRegister) (dataMask : UInt64) (slice : Slice) (word : UInt64) :
    Checked LiveRegister := do
  let mask ← slice.mask.shiftLeft? slice.shift
  let bits ← (word &&& dataMask &&& slice.mask).shiftLeft? slice.shift
  pure { r with value := r.value &&& ~~~mask ||| (bits &&& mask) }

def restart (r : LiveRegister) : LiveRegister :=
  match r.access with
  | .storage => { r with value := r.reset }
  | .status => r

end LiveRegister

structure BusModel where
  map : AddressMap
  slotSize : UInt64
  /-- The bits that one word of the bus has. -/
  dataMask : UInt64
  banks : List (List LiveRegister)
  deriving DecidableEq, Repr

/-- Where an access goes: a register, by its bank and its place there, and one of its slices. -/
structure Target where
  bank : Nat
  index : Nat
  register : LiveRegister
  slice : Slice
  deriving DecidableEq, Repr

namespace BusModel

/-- All storage at its reset values. -/
def ofSoc (soc : Soc) : BusModel where
  map := soc.map
  slotSize := soc.bus.slotSize
  dataMask := lowBits soc.bus.dataWidth
  banks := soc.placedBanks.map fun (bank, placed) =>
    (bank.registers.zip placed.registers).map fun (r, p) => LiveRegister.ofPlaced r p

def register? (m : BusModel) (bank index : Nat) : Option LiveRegister :=
  m.banks[bank]? >>= (·[index]?)

def setRegister (m : BusModel) (bank index : Nat) (r : LiveRegister) : BusModel :=
  { m with banks := m.banks.modify bank (·.set index r) }

/-- All values, bank by bank. -/
def values (m : BusModel) : List UInt64 := m.banks.flatten.map (·.value)

/-- The position of the bank of this name. -/
def bankIndex? (m : BusModel) (bank : String) : Option Nat :=
  m.map.banks.findIdx? (·.name == bank)

/-- The places of a register, by the names of the bank and of the register. -/
def find? (m : BusModel) (bank register : String) :
    Except ConfigError (Nat × Nat × LiveRegister) :=
  match m.bankIndex? bank with
  | none => .error (.unknownBank bank)
  | some b =>
    let registers := (m.banks[b]?).getD []
    match registers.findIdx? (·.name == register) with
    | none => .error (.unknownRegister bank register)
    | some index =>
      match registers[index]? with
      | none => .error (.unknownRegister bank register)
      | some r => .ok (b, index, r)

/-- The value that the hardware sees. -/
def value? (m : BusModel) (bank register : String) : Option UInt64 :=
  (m.find? bank register).toOption.map fun (_, _, r) => r.value

/-- Drives a status register from the hardware side. -/
def drive (m : BusModel) (bank register : String) (value : UInt64) :
    Outcome ConfigError BusModel := do
  let (b, index, r) ← Outcome.ofExcept (m.find? bank register)
  if r.access ≠ .status then
    refuse (.notStatus bank register)
  let width ← r.width
  pure (m.setRegister b index { r with value := value &&& lowBits width })

/-- The first register of a bank with a slice at `address`. -/
def targetIn (address : UInt64) (bank : Nat) (registers : List LiveRegister) : Option Target :=
  registers.zipIdx.findSome? fun (r, index) =>
    (r.words.find? (·.address == address)).map fun slice => ⟨bank, index, r, slice⟩

def target (m : BusModel) (address : UInt64) : Checked (Option Target) := do
  let index ← m.map.holderIndex address
  pure (index.bind fun bank => targetIn address bank ((m.banks[bank]?).getD []))

/-- The address lies between two slots, counted from the base and around the top. -/
def isMisaligned (m : BusModel) (address : UInt64) : Checked Bool := do
  let rest ← (address - m.map.base).mod? m.slotSize
  pure (rest ≠ 0)

/-- The slice at `address`, or the fault that stands for its absence. -/
def locate (m : BusModel) (address : UInt64) (misaligned missing : BusFault) :
    Outcome BusFault Target := do
  if ← m.isMisaligned address then
    refuse misaligned
  match ← m.target address with
  | none => refuse missing
  | some target => pure target

def read (m : BusModel) (address : UInt64) : Outcome BusFault UInt64 := do
  let target ← m.locate address .loadMisaligned .loadAccess
  target.slice.extract target.register.value

def writeLogged (m : BusModel) (address word : UInt64) : Logged BusFault BusModel := do
  let target ← m.locate address .storeMisaligned .storeAccess
  if target.register.access.writable then
    let stored := target.register.store m.dataMask target.slice word
    let r ← (liftM stored : Outcome BusFault LiveRegister)
    pure (m.setRegister target.bank target.index r)
  else
    Logged.report (.writeDropped word target.register.name)
    pure m

def write (m : BusModel) (address word : UInt64) : Outcome BusFault BusModel :=
  (m.writeLogged address word).outcome

def restart (m : BusModel) : BusModel :=
  { m with banks := m.banks.map (·.map LiveRegister.restart) }

end BusModel

end CsrMap
