import CsrMap.Peripheral.Core

/-!
Cores with a window of memory of their own: Ethernet with its packet buffers, and audio with its
samples.
-/

namespace CsrMap.Peripheral

/-- The bytes of one packet buffer. -/
def packetSize : UInt64 := 2048

def receiveSlots : UInt64 := 2

def sendSlots : UInt64 := 2

/-- The number of bits of `n` without leading zeros. -/
def bitLength (n : UInt64) : UInt32 := if n = 0 then 0 else n.toNat.log2.toUInt32 + 1

/-- Clock reset and the management wires of the physical layer. -/
def ethernetPhyRegisters : List Register :=
  [storageRegister "crg_reset" 1,
    { storageRegister "mdio_w" 3 with fields := packedFields [("mdc", 1), ("oe", 1), ("w", 1)] },
    statusRegister "mdio_r" 1]

def ethernetPhy : Declaring Nat := Declaring.bank "ethphy" ethernetPhyRegisters

def ethernetMacRegisters : List Register :=
  let slotBits := bitLength (max receiveSlots sendSlots - 1)
  [statusRegister "sram_writer_slot" slotBits, statusRegister "sram_writer_length" 32,
      statusRegister "sram_writer_errors" 32]
    ++ EventRegisters.registersOf ⟨["available"]⟩ "sram_writer"
    ++ [storageRegister "sram_reader_start" 1, statusRegister "sram_reader_ready" 1,
      statusRegister "sram_reader_level" 2, storageRegister "sram_reader_slot" slotBits,
      storageRegister "sram_reader_length" (bitLength packetSize)]
    ++ EventRegisters.registersOf ⟨["done"]⟩ "sram_reader"
    ++ [statusRegister "preamble_crc" 1, statusRegister "preamble_errors" 32,
      statusRegister "crc_errors" 32]

def ethernetMac (origin : UInt64) : Declaring (Nat × UInt32) := do
  let core ← interrupting "ethmac" ethernetMacRegisters
  Declaring.region ⟨"ethmac", origin, (receiveSlots + sendSlots) * packetSize, .io⟩
  Declaring.constant "ETHMAC_RX_SLOTS" (.int receiveSlots)
  Declaring.constant "ETHMAC_TX_SLOTS" (.int sendSlots)
  Declaring.constant "ETHMAC_SLOT_SIZE" (.int packetSize)
  pure core

/-- Which way samples go. -/
inductive Direction where
  | receive
  | send
  deriving DecidableEq, Repr

def Direction.label : Direction → String
  | receive => "rx"
  | send => "tx"

/-- The bytes of the window onto the samples. -/
def sampleWindow : UInt64 := 0x40000

def audioRegisters (direction : Direction) : List Register :=
  let stem := direction.label
  EventRegisters.registers ⟨["ready", "error"]⟩
    ++ [{ storageRegister (stem ++ "_ctl") 2 with
          fields := packedFields [("enable", 1), ("reset", 1)] },
      { statusRegister (stem ++ "_stat") 32 with
        fields := packedFields
          [("overflow", 1), ("underflow", 1), ("dataready", 1), ("empty", 1), ("wrcount", 9),
            ("rdcount", 9)] },
      { statusRegister (stem ++ "_conf") 32 with
        fields := packedFields [("format", 2), ("sample_width", 6), ("lrck_freq", 24)] }]

def audioSlave (name : String) (direction : Direction) (origin : UInt64) :
    Declaring (Nat × UInt32) := do
  let core ← interrupting name (audioRegisters direction)
  Declaring.region ⟨name, origin, sampleWindow, .io⟩
  pure core

end CsrMap.Peripheral
