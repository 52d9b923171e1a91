import CsrMap.Board.Choices
import CsrMap.Completion
import CsrMap.Peripheral.Stream

/-!
The built-in board: a soft processor with memory and, by choice, Ethernet with audio and lights.

The cores that every build has come first, so choosing Ethernet does not move them.
-/

namespace CsrMap.Board

open Peripheral

namespace Choices

def baseCores (c : Choices) : Declaring Unit := do
  let _ ← control
  let _ ← serialPort "uart"
  let _ ← timer "timer0" 32
  let _ ← readLevelling memoryModule.dataBits
  let _ ← commandInjector memoryModule
  Declaring.region ⟨"rom", romOrigin, c.romBytes, .cached⟩
  Declaring.region ⟨"sram", sramOrigin, c.sramBytes, .cached⟩
  let mainRamBytes ← match c.mainRamChoice with
    | some size => pure size
    | none => (liftM memoryModule.size : Outcome ConfigError UInt64)
  Declaring.region ⟨"main_ram", mainRamOrigin, mainRamBytes, .cached⟩

def networkCores (c : Choices) : Declaring Unit := do
  let _ ← ethernetPhy
  let _ ← ethernetMac ethernetOrigin
  let _ ← audioSlave "i2s_rx" .receive audioReceiveOrigin
  let _ ← audioSlave "i2s_tx" .send audioSendOrigin
  let _ ← outputPins "port_led" c.lights

def constants (c : Choices) : Declaring Unit := do
  Declaring.constant "CONFIG_CLOCK_FREQUENCY" (.int c.clockFrequency)
  Declaring.constant ("CONFIG_CPU_TYPE_" ++ Text.upper c.processor) .flag
  Declaring.constant "CONFIG_CPU_RESET_ADDR" (.int c.startAddress)
  Declaring.constant "CONFIG_CSR_DATA_WIDTH" (.int c.dataWidth.toUInt64)
  Declaring.constant "CONFIG_CSR_ALIGNMENT" (.int 32)
  if c.ethernet then
    Declaring.constant "CONFIG_WITH_ETHERNET" .flag

def declare (c : Choices) : Declaring Unit := do
  c.baseCores
  if c.ethernet then
    c.networkCores
  c.constants

/-- Everything the board declares. -/
def declarations (c : Choices) : Outcome ConfigError Declarations := c.declare.all

/-- The board with its addresses. -/
def completeLogged (c : Choices) : Logged ConfigError Soc := do
  Logged.report (.boardChosen c.ethernet c.dataWidth)
  let declarations ← c.declarations
  declarations.completeLogged c.geometry

def complete (c : Choices) : Outcome ConfigError Soc := c.completeLogged.outcome

end Choices

end CsrMap.Board
