import CsrMap.Board.Assembly
import CsrMap.Proofs.Declaration.Making

/-!
What the built-in board declares.

Each core declares a bank and what goes with it, so the board declares one list for each choice,
and its declarations are made exactly where those of the list are well formed together.
-/

namespace CsrMap

open Declaring Declarations

namespace Peripheral

lemma performs_interrupting (name : String) (registers : List Register) :
    (interrupting name registers).Performs [.bank ⟨name, registers⟩, .interrupt name name] :=
  (performs_bank name registers).bind fun _ =>
    (performs_interrupt name name).bind fun _ => performs_pure _

lemma performs_commandInjector (g : MemoryGeometry) {phaseData : UInt32}
    (h : (2 : UInt32).mul? g.dataBits = some phaseData) :
    (commandInjector g).Performs [.bank ⟨"sdram", injectorRegisters g phaseData⟩] := by
  have hlift : (liftM ((2 : UInt32).mul? g.dataBits) : Outcome ConfigError UInt32)
      = .ok phaseData := by
    rw [h]
    rfl
  unfold commandInjector
  exact Performs.lift_bind (performs_bank _ _) hlift

lemma performs_ethernetMac (origin : UInt64) :
    (ethernetMac origin).Performs
      [.bank ⟨"ethmac", ethernetMacRegisters⟩, .interrupt "ethmac" "ethmac",
        .region ⟨"ethmac", origin, (receiveSlots + sendSlots) * packetSize, .io⟩,
        .constant ⟨"ETHMAC_RX_SLOTS", .int receiveSlots⟩,
        .constant ⟨"ETHMAC_TX_SLOTS", .int sendSlots⟩,
        .constant ⟨"ETHMAC_SLOT_SIZE", .int packetSize⟩] :=
  (performs_interrupting _ _).bind fun _ => (performs_region _).bind fun _ =>
    (performs_constant _ _).bind fun _ => (performs_constant _ _).bind fun _ =>
      (performs_constant _ _).bind fun _ => performs_pure _

lemma performs_audioSlave (name : String) (direction : Direction) (origin : UInt64) :
    (audioSlave name direction origin).Performs
      [.bank ⟨name, audioRegisters direction⟩, .interrupt name name,
        .region ⟨name, origin, sampleWindow, .io⟩] :=
  (performs_interrupting _ _).bind fun _ => (performs_region _).bind fun _ => performs_pure _

end Peripheral

namespace Board.Choices

open Peripheral

variable {c : Choices} {d : Declarations}

/-- The bytes of main memory: those of the memory module without a choice. -/
def mainRamBytes (c : Choices) : UInt64 := c.mainRamChoice.getD 0x10000000

/-- What every build declares before its constants. -/
def baseDeclarations (c : Choices) : List Declaration :=
  [.bank ⟨"ctrl", controlRegisters⟩,
    .bank ⟨"uart", serialPortRegisters⟩, .interrupt "uart" "uart",
    .bank ⟨"timer0", timerRegisters 32⟩, .interrupt "timer0" "timer0",
    .bank ⟨"ddrphy", levellingRegisters memoryModule.dataBits⟩,
    .bank ⟨"sdram", injectorRegisters memoryModule 32⟩,
    .region ⟨"rom", romOrigin, c.romBytes, .cached⟩,
    .region ⟨"sram", sramOrigin, c.sramBytes, .cached⟩,
    .region ⟨"main_ram", mainRamOrigin, c.mainRamBytes, .cached⟩]

/-- What comes with Ethernet. -/
def networkDeclarations (c : Choices) : List Declaration :=
  [.bank ⟨"ethphy", ethernetPhyRegisters⟩,
    .bank ⟨"ethmac", ethernetMacRegisters⟩, .interrupt "ethmac" "ethmac",
    .region ⟨"ethmac", ethernetOrigin, (receiveSlots + sendSlots) * packetSize, .io⟩,
    .constant ⟨"ETHMAC_RX_SLOTS", .int receiveSlots⟩,
    .constant ⟨"ETHMAC_TX_SLOTS", .int sendSlots⟩,
    .constant ⟨"ETHMAC_SLOT_SIZE", .int packetSize⟩,
    .bank ⟨"i2s_rx", audioRegisters .receive⟩, .interrupt "i2s_rx" "i2s_rx",
    .region ⟨"i2s_rx", audioReceiveOrigin, sampleWindow, .io⟩,
    .bank ⟨"i2s_tx", audioRegisters .send⟩, .interrupt "i2s_tx" "i2s_tx",
    .region ⟨"i2s_tx", audioSendOrigin, sampleWindow, .io⟩,
    .bank ⟨"port_led", [storageRegister "out" c.lights]⟩]

def constantDeclarations (c : Choices) : List Declaration :=
  [.constant ⟨"CONFIG_CLOCK_FREQUENCY", .int c.clockFrequency⟩,
      .constant ⟨"CONFIG_CPU_TYPE_" ++ Text.upper c.processor, .flag⟩,
      .constant ⟨"CONFIG_CPU_RESET_ADDR", .int c.startAddress⟩,
      .constant ⟨"CONFIG_CSR_DATA_WIDTH", .int c.dataWidth.toUInt64⟩,
      .constant ⟨"CONFIG_CSR_ALIGNMENT", .int 32⟩]
    ++ if c.ethernet then [.constant ⟨"CONFIG_WITH_ETHERNET", .flag⟩] else []

/-- All that the board declares, accepted or not. -/
def declared (c : Choices) : Declarations :=
  includingAll {} (c.baseDeclarations
    ++ ((if c.ethernet then c.networkDeclarations else []) ++ c.constantDeclarations))

lemma performs_mainRam (c : Choices) :
    (do
      let mainRamBytes ← match c.mainRamChoice with
        | some size => pure size
        | none => (liftM memoryModule.size : Outcome ConfigError UInt64)
      Declaring.region ⟨"main_ram", mainRamOrigin, mainRamBytes, .cached⟩ : Declaring Unit).Performs
      [.region ⟨"main_ram", mainRamOrigin, c.mainRamBytes, .cached⟩] := by
  unfold mainRamBytes
  cases c.mainRamChoice with
  | some size => exact performs_region ⟨"main_ram", mainRamOrigin, size, .cached⟩
  | none =>
    have hsize : (liftM memoryModule.size : Outcome ConfigError UInt64) = .ok 0x10000000 := by
      decide +kernel
    exact Performs.lift_bind (performs_region _) hsize

lemma performs_baseCores (c : Choices) : c.baseCores.Performs c.baseDeclarations :=
  (performs_bank _ _).bind fun _ => (performs_interrupting _ _).bind fun _ =>
    (performs_interrupting _ _).bind fun _ => (performs_bank _ _).bind fun _ =>
      (performs_commandInjector memoryModule (by decide +kernel)).bind fun _ =>
        (performs_region _).bind fun _ => (performs_region _).bind fun _ => c.performs_mainRam

lemma performs_networkCores (c : Choices) :
    c.networkCores.Performs c.networkDeclarations :=
  (performs_bank _ _).bind fun _ => (performs_ethernetMac _).bind fun _ =>
    (performs_audioSlave _ _ _).bind fun _ => (performs_audioSlave _ _ _).bind fun _ =>
      (performs_bank _ _).bind fun _ => performs_pure _

lemma performs_constants (c : Choices) : c.constants.Performs c.constantDeclarations := by
  refine (performs_constant _ _).bind fun _ => (performs_constant _ _).bind fun _ =>
    (performs_constant _ _).bind fun _ => (performs_constant _ _).bind fun _ =>
      (performs_constant _ _).bind fun _ => ?_
  cases c.ethernet with
  | false => exact performs_pure _
  | true => exact performs_constant _ _

lemma performs_declare (c : Choices) : c.declare.Performs (c.baseDeclarations
    ++ ((if c.ethernet then c.networkDeclarations else []) ++ c.constantDeclarations)) := by
  refine c.performs_baseCores.bind fun _ => ?_
  by_cases h : c.ethernet = true
  · rw [if_pos h, if_pos h]
    exact c.performs_networkCores.bind fun _ => c.performs_constants
  · rw [if_neg h, if_neg h, List.nil_append]
    exact c.performs_constants

/-- **The board can be declared** exactly where all that it declares is well formed together. -/
theorem declarations_eq_ok_iff (c : Choices) :
    c.declarations = .ok d ↔ d = c.declared ∧ d.WellFormed :=
  c.performs_declare.all_eq_ok_iff

/-- The steps to a finished board, without what they report. -/
lemma complete_eq (c : Choices) :
    c.complete = c.declarations >>= fun d => d.complete c.geometry := by
  simp only [complete, completeLogged, Logged.outcome_bind, Logged.outcome_report,
    Outcome.ok_bind, liftM, Logged.outcome_monadLift]
  rfl

/-- The board is finished where it can be declared and what it declares completes on its bus. -/
lemma complete_eq_ok_iff {soc : Soc} : c.complete = .ok soc ↔
    c.declared.WellFormed ∧ c.declared.complete c.geometry = .ok soc := by
  rw [complete_eq, bind_eq_ok_iff]
  constructor
  · rintro ⟨d, hd, hsoc⟩
    obtain ⟨rfl, hwf⟩ := c.declarations_eq_ok_iff.1 hd
    exact ⟨hwf, hsoc⟩
  · rintro ⟨hwf, hsoc⟩
    exact ⟨_, c.declarations_eq_ok_iff.2 ⟨rfl, hwf⟩, hsoc⟩

/-! ### The lists of declarations -/

def baseBanks : List Bank :=
  [⟨"ctrl", controlRegisters⟩, ⟨"uart", serialPortRegisters⟩, ⟨"timer0", timerRegisters 32⟩,
    ⟨"ddrphy", levellingRegisters memoryModule.dataBits⟩,
    ⟨"sdram", injectorRegisters memoryModule 32⟩]

/-- The banks that come with Ethernet, whatever the choices. -/
def streamBanks : List Bank :=
  [⟨"ethphy", ethernetPhyRegisters⟩, ⟨"ethmac", ethernetMacRegisters⟩,
    ⟨"i2s_rx", audioRegisters .receive⟩, ⟨"i2s_tx", audioRegisters .send⟩]

/-- The port of the lights. -/
def lightBank (c : Choices) : Bank := ⟨"port_led", [storageRegister "out" c.lights]⟩

def networkBanks (c : Choices) : List Bank := streamBanks ++ [c.lightBank]

def baseInterrupts : List Interrupt := [⟨"uart", "uart", 0⟩, ⟨"timer0", "timer0", 1⟩]

def networkInterrupts : List Interrupt :=
  [⟨"ethmac", "ethmac", 2⟩, ⟨"i2s_rx", "i2s_rx", 3⟩, ⟨"i2s_tx", "i2s_tx", 4⟩]

def baseRegions (c : Choices) : List Region :=
  [⟨"rom", romOrigin, c.romBytes, .cached⟩, ⟨"sram", sramOrigin, c.sramBytes, .cached⟩,
    ⟨"main_ram", mainRamOrigin, c.mainRamBytes, .cached⟩]

def networkRegions : List Region :=
  [⟨"ethmac", ethernetOrigin, (receiveSlots + sendSlots) * packetSize, .io⟩,
    ⟨"i2s_rx", audioReceiveOrigin, sampleWindow, .io⟩,
    ⟨"i2s_tx", audioSendOrigin, sampleWindow, .io⟩]

def networkConstants : List Constant :=
  [⟨"ETHMAC_RX_SLOTS", .int receiveSlots⟩, ⟨"ETHMAC_TX_SLOTS", .int sendSlots⟩,
    ⟨"ETHMAC_SLOT_SIZE", .int packetSize⟩]

def baseConstants (c : Choices) : List Constant :=
  [⟨"CONFIG_CLOCK_FREQUENCY", .int c.clockFrequency⟩,
    ⟨"CONFIG_CPU_TYPE_" ++ Text.upper c.processor, .flag⟩,
    ⟨"CONFIG_CPU_RESET_ADDR", .int c.startAddress⟩,
    ⟨"CONFIG_CSR_DATA_WIDTH", .int c.dataWidth.toUInt64⟩,
    ⟨"CONFIG_CSR_ALIGNMENT", .int 32⟩]

lemma declared_of_ethernet (h : c.ethernet = true) : c.declared =
    ⟨baseBanks ++ c.networkBanks, ⟨baseInterrupts ++ networkInterrupts⟩,
      c.baseRegions ++ networkRegions,
      networkConstants ++ c.baseConstants ++ [⟨"CONFIG_WITH_ETHERNET", .flag⟩]⟩ := by
  unfold declared constantDeclarations
  rw [h]
  rfl

lemma declared_of_no_ethernet (h : c.ethernet = false) : c.declared =
    ⟨baseBanks, ⟨baseInterrupts⟩, c.baseRegions, c.baseConstants⟩ := by
  unfold declared constantDeclarations
  rw [h]
  rfl

end Board.Choices

end CsrMap
