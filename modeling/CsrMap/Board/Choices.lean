import CsrMap.Blueprint.Decode
import CsrMap.Peripheral.Memory

/-!
The choices for the built-in board, its memory module and its fixed addresses.
-/

namespace CsrMap.Board

def romOrigin : UInt64 := 0x00000000

def sramOrigin : UInt64 := 0x10000000

def mainRamOrigin : UInt64 := 0x40000000

def ethernetOrigin : UInt64 := 0xb0000000

def audioReceiveOrigin : UInt64 := 0xb1000000

def audioSendOrigin : UInt64 := 0xb2000000

def registersOrigin : UInt64 := 0xe0000000

/-- The memory module on the board: 256 MiB behind four phases. -/
def memoryModule : Peripheral.MemoryGeometry :=
  { bankBits := 3, rowBits := 14, columnBits := 10, dataBits := 16, phases := 4 }

structure Choices where
  clockFrequency : UInt64 := 100000000
  ethernet : Bool := false
  romChoice : Option UInt64 := none
  sramBytes : UInt64 := 0x8000
  /-- Without a choice, all of the memory module. -/
  mainRamChoice : Option UInt64 := none
  dataWidth : UInt32 := 8
  base : UInt64 := registersOrigin
  rounding : Rounding := .paged 0x800
  processor : String := "vexriscv"
  startAddress : UInt64 := romOrigin
  /-- The lights on the port of the board. -/
  lights : UInt32 := 4
  deriving DecidableEq, Repr

namespace Choices

/-- Without a choice, twice as much with Ethernet, to hold the code that starts from it. -/
def romBytes (c : Choices) : UInt64 :=
  c.romChoice.getD (if c.ethernet then 0x10000 else 0x8000)

def geometry (c : Choices) : BusGeometry :=
  { dataWidth := c.dataWidth, slotSize := 4, base := c.base, rounding := c.rounding,
    laneOrder := .highFirst }

open Hjson in
def decode? (v : Value) : Option Choices := do
  let unsaid : Choices := {}
  let m ← v.members? 11
  let clockFrequency ← m.defaulted? 0 "sys_clk_freq" Value.word? unsaid.clockFrequency
  let ethernet ← m.defaulted? 1 "with_ethernet" Value.bool? unsaid.ethernet
  let romChoice ←
    m.defaulted? 2 "integrated_rom_size" (Value.optional? Value.word?) unsaid.romChoice
  let sramBytes ← m.defaulted? 3 "integrated_sram_size" Value.word? unsaid.sramBytes
  let mainRamChoice ←
    m.defaulted? 4 "main_ram_size" (Value.optional? Value.word?) unsaid.mainRamChoice
  let dataWidth ← m.defaulted? 5 "csr_data_width" Value.shortWord? unsaid.dataWidth
  let base ← m.defaulted? 6 "csr_base" Value.word? unsaid.base
  let rounding ← m.defaulted? 7 "csr_alignment" Rounding.decode? unsaid.rounding
  let processor ← m.defaulted? 8 "cpu_type" Value.string? unsaid.processor
  let startAddress ← m.defaulted? 9 "cpu_reset_address" Value.word? unsaid.startAddress
  let lights ← m.defaulted? 10 "user_leds" Value.shortWord? unsaid.lights
  pure
    { clockFrequency, ethernet, romChoice, sramBytes, mainRamChoice, dataWidth, base, rounding,
      processor, startAddress, lights }

def read (text : String) : Except ConfigError Choices := decodeText decode? text

end Choices

end CsrMap.Board
