import CsrMap.Peripheral.Core

/-!
Memory cores: the read levelling of the physical layer, and the injector of raw memory commands.
-/

namespace CsrMap.Peripheral

/-- The shape of a memory module and of the layer that drives it. -/
structure MemoryGeometry where
  bankBits : UInt32
  rowBits : UInt32
  columnBits : UInt32
  dataBits : UInt32
  phases : UInt32
  deriving DecidableEq, Repr

namespace MemoryGeometry

/-- The bytes of the module. -/
def size (g : MemoryGeometry) : Checked UInt64 := do
  let addressBits ← (← g.bankBits.add? g.rowBits).add? g.columnBits
  let cells ← (1 : UInt64).shiftLeft? addressBits
  cells.mul? (g.dataBits / 8).toUInt64

end MemoryGeometry

def levellingRegisters (dataBits : UInt32) : List Register :=
  [storageRegister "dly_sel" (dataBits / 8), storageRegister "rdly_dq_rst" 1,
    storageRegister "rdly_dq_inc" 1, storageRegister "rdly_dq_bitslip_rst" 1,
    storageRegister "rdly_dq_bitslip" 1]

def readLevelling (dataBits : UInt32) : Declaring Nat :=
  Declaring.bank "ddrphy" (levellingRegisters dataBits)

/-- The registers with which software drives one phase. -/
def phaseRegisters (g : MemoryGeometry) (phaseData : UInt32) (phase : Nat) : List Register :=
  let stem := "dfii_pi" ++ Numeral.decimal phase
  [{ storageRegister (stem ++ "_command") 6 with
      fields := packedFields
        [("cs", 1), ("we", 1), ("cas", 1), ("ras", 1), ("wren", 1), ("rden", 1)] },
    storageRegister (stem ++ "_command_issue") 1,
    storageRegister (stem ++ "_address") g.rowBits,
    storageRegister (stem ++ "_baddress") g.bankBits,
    storageRegister (stem ++ "_wrdata") phaseData,
    statusRegister (stem ++ "_rddata") phaseData]

def injectorRegisters (g : MemoryGeometry) (phaseData : UInt32) : List Register :=
  { storageRegister "dfii_control" 4 with
      fields := packedFields [("sel", 1), ("cke", 1), ("odt", 1), ("reset_n", 1)] }
    :: (List.range g.phases.toNat).flatMap (phaseRegisters g phaseData)

/-- Lets software issue raw commands while memory is set up. A phase carries two data words. -/
def commandInjector (g : MemoryGeometry) : Declaring Nat := do
  let phaseData ← (liftM ((2 : UInt32).mul? g.dataBits) : Outcome ConfigError UInt32)
  Declaring.bank "sdram" (injectorRegisters g phaseData)

end CsrMap.Peripheral
