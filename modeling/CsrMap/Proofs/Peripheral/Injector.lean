import CsrMap.Proofs.Board.Completion

/-!
The injector of raw memory commands, for any geometry.

Its registers are named by a phase and a role. The numeral of a phase is followed by an underscore,
so a name tells its phase and its role, and no number of phases makes two names meet. No name ends
with a digit, so none meets the name of a word of another register either. What can be wrong is the
width of the registers of a phase, and only where there is one.
-/

namespace CsrMap

open Declaring Declarations

namespace Peripheral

variable {g : MemoryGeometry} {phaseData : UInt32} {phase : ℕ}

/-! ### Names -/

/-- How the names of a phase end: those of its registers and of their fields. -/
def phaseEndings : List String :=
  ["_command", "_command_cs", "_command_we", "_command_cas", "_command_ras", "_command_wren",
    "_command_rden", "_command_issue", "_address", "_baddress", "_wrdata", "_rddata"]

/-- The names of all that belongs to one phase. -/
def phaseNames (phase : ℕ) : List String :=
  phaseEndings.map fun s => "dfii_pi" ++ (Numeral.decimal phase ++ s)

/-- The names of the register that all phases share and of its fields. -/
def controlNames : List String :=
  ["dfii_control", "dfii_control_sel", "dfii_control_cke", "dfii_control_odt",
    "dfii_control_reset_n"]

lemma localNames_phaseRegisters (g : MemoryGeometry) (phaseData : UInt32) (phase : ℕ) :
    (phaseRegisters g phaseData phase).flatMap
        (fun r => r.name :: r.fields.map fun f => r.name ++ "_" ++ f.name)
      = phaseNames phase := by
  simp [phaseRegisters, phaseNames, phaseEndings, packedFields, packedFields.go, storageRegister,
    statusRegister, String.append_assoc]

lemma localNames_injectorRegisters (g : MemoryGeometry) (phaseData : UInt32) :
    Bank.localNames ⟨"sdram", injectorRegisters g phaseData⟩
      = controlNames ++ (List.range g.phases.toNat).flatMap phaseNames := by
  rw [Bank.localNames, injectorRegisters, List.flatMap_cons, List.flatMap_assoc]
  simp only [localNames_phaseRegisters]
  rfl

/-- A name tells the phase that it belongs to. -/
lemma phase_eq_of_mem {k : ℕ} {s : String} (hs : s ∈ phaseNames phase) (hk : s ∈ phaseNames k) :
    phase = k := by
  have hunderscore : ∀ s ∈ phaseEndings, s.toList.head? = some '_' := by decide
  have hdigit : ∀ s ∈ phaseEndings, ∀ c ∈ s.toList.head?, ¬ c.isDigit := by
    intro s hs c hc
    rw [hunderscore s hs, Option.mem_some_iff] at hc
    exact hc ▸ (by decide : ¬ '_'.isDigit)
  obtain ⟨e, he, rfl⟩ := List.mem_map.1 hs
  obtain ⟨f, hf, heq⟩ := List.mem_map.1 hk
  exact Numeral.eq_of_decimal_append_eq (hdigit e he) (hdigit f hf)
    ((String.append_right_inj _).1 heq).symm

/-- **Whatever the number of phases, no two names of the injector meet.** -/
lemma nodup_localNames (g : MemoryGeometry) (phaseData : UInt32) :
    (Bank.localNames ⟨"sdram", injectorRegisters g phaseData⟩).Nodup := by
  have hcontrol : controlNames.Nodup ∧
      ∀ s ∈ controlNames, ¬ "dfii_pi".toList <+: s.toList := by decide
  have hendings : phaseEndings.Nodup := by decide
  rw [localNames_injectorRegisters, List.nodup_append', List.nodup_flatMap]
  refine ⟨hcontrol.1, ⟨fun phase _ => ?_, ?_⟩, fun s hs hphase => ?_⟩
  · refine hendings.map fun s t heq => ?_
    exact (String.append_right_inj _).1 ((String.append_right_inj _).1 heq)
  · exact List.nodup_range.imp fun hne s hs hk => hne (phase_eq_of_mem hs hk)
  · obtain ⟨phase, -, hphase⟩ := List.mem_flatMap.1 hphase
    obtain ⟨e, -, rfl⟩ := List.mem_map.1 hphase
    refine hcontrol.2 _ hs ?_
    rw [String.toList_append]
    exact List.prefix_append _ _

/-! ### Registers -/

/-- The widths that the registers of a phase need. -/
structure PhaseWidths (g : MemoryGeometry) (phaseData : UInt32) : Prop where
  row : 1 ≤ g.rowBits.toNat ∧ g.rowBits.toNat ≤ 64
  bank : 1 ≤ g.bankBits.toNat ∧ g.bankBits.toNat ≤ 64
  data : 1 ≤ phaseData.toNat ∧ phaseData.toNat ≤ 64

lemma name_phase (phase : ℕ) {s : String} (hs : s ∈ phaseEndings) :
    isName ("dfii_pi" ++ Numeral.decimal phase ++ s) ∧
      ¬ Header.EndsWithDigit ("dfii_pi" ++ Numeral.decimal phase ++ s) := by
  have hendings : ∀ s ∈ phaseEndings,
    s.toList.all isLowerWordChar ∧ s ≠ "" ∧ ¬ Header.EndsWithDigit s := by decide
  obtain ⟨hlower, hne, hdigit⟩ := hendings s hs
  have hdecimal : (Numeral.decimal phase).toList.all isLowerWordChar := by
    rw [Numeral.toList_decimal, List.all_eq_true]
    intro c hc
    simp [isLowerWordChar, Nat.isDigit_of_mem_toDigits (by decide) (by decide) hc]
  refine ⟨Header.isName_append (Header.isName_append (by decide) hdecimal) hlower, ?_⟩
  rwa [Header.endsWithDigit_append hne]

/-- A register without fields is plain under the name of a phase. -/
lemma plain_of_width {r : Register} (hname : isName r.name ∧ ¬ Header.EndsWithDigit r.name)
    (hwidth : 1 ≤ r.width.toNat ∧ r.width.toNat ≤ 64) (hreset : r.reset = 0)
    (hfields : r.fields = []) : r.Plain := by
  refine ⟨hname.1, hname.2, hwidth.1, hwidth.2, ?_, ?_, ?_⟩
  · rw [hreset]
    exact UInt64.zero_le
  · rw [hfields]
    exact nofun
  · rw [hfields]
    exact .nil

lemma plain_phaseRegisters (h : PhaseWidths g phaseData) (phase : ℕ) :
    ∀ r ∈ phaseRegisters g phaseData phase, r.Plain := by
  have hname {s : String} (hs : s ∈ phaseEndings) := name_phase phase hs
  have hsix : 0 < (6 : UInt32).toNat ∧ (6 : UInt32).toNat ≤ 64 := by decide
  have hone : 1 ≤ (1 : UInt32).toNat ∧ (1 : UInt32).toNat ≤ 64 := by decide
  have hfields : ∀ f ∈ packedFields
      [("cs", 1), ("we", 1), ("cas", 1), ("ras", 1), ("wren", 1), ("rden", 1)],
      isName f.name ∧ f.width ≠ 0 ∧ f.endBit ≤ (6 : UInt32).toNat := by decide
  have hinOrder : (packedFields
      [("cs", 1), ("we", 1), ("cas", 1), ("ras", 1), ("wren", 1), ("rden", 1)]).Pairwise
      fun f g => f.endBit ≤ g.offset.toNat := by decide
  simp only [phaseRegisters, List.forall_mem_cons]
  exact ⟨⟨(hname (by decide)).1, (hname (by decide)).2, hsix.1, hsix.2, UInt64.zero_le,
      hfields, hinOrder⟩,
    plain_of_width (hname (by decide)) hone rfl rfl,
    plain_of_width (hname (by decide)) h.row rfl rfl,
    plain_of_width (hname (by decide)) h.bank rfl rfl,
    plain_of_width (hname (by decide)) h.data rfl rfl,
    plain_of_width (hname (by decide)) h.data rfl rfl, nofun⟩

lemma phaseWidths_of_wellFormed (h : ∀ r ∈ phaseRegisters g phaseData phase, r.WellFormed) :
    PhaseWidths g phaseData := by
  simp only [phaseRegisters, List.forall_mem_cons] at h
  obtain ⟨-, -, hrow, hbank, hdata, -⟩ := h
  exact ⟨⟨hrow.width_pos, hrow.width_le⟩, ⟨hbank.width_pos, hbank.width_le⟩,
    ⟨hdata.width_pos, hdata.width_le⟩⟩

lemma length_injectorRegisters (g : MemoryGeometry) (phaseData : UInt32) :
    (injectorRegisters g phaseData).length = 1 + 6 * g.phases.toNat := by
  have hphase : (fun phase => (phaseRegisters g phaseData phase).length) = fun _ => 6 := rfl
  rw [injectorRegisters, List.length_cons, List.length_flatMap, hphase, List.map_const',
    List.sum_replicate_nat, List.length_range]
  omega

/-- Without phases, or with widths of registers for them, the bank of the injector is plain. -/
lemma plain_injector (h : g.phases = 0 ∨ PhaseWidths g phaseData) :
    Bank.Plain ⟨"sdram", injectorRegisters g phaseData⟩ := by
  have hname : isName "sdram" := by decide
  have hcontrol : Register.Plain { storageRegister "dfii_control" 4 with
      fields := packedFields [("sel", 1), ("cke", 1), ("odt", 1), ("reset_n", 1)] } := by decide
  refine ⟨hname, List.cons_ne_nil _ _, ?_, nodup_localNames g phaseData⟩
  simp only [injectorRegisters, List.forall_mem_cons, List.mem_flatMap, List.mem_range]
  refine ⟨hcontrol, ?_⟩
  rintro r ⟨phase, hphase, hr⟩
  refine plain_phaseRegisters (h.resolve_left fun hzero => ?_) phase r hr
  rw [hzero] at hphase
  exact absurd hphase (Nat.not_lt_zero _)

/-- **The bank of the injector is well formed** exactly where it has no phases or the widths of a
phase are those of registers. -/
lemma wellFormed_injector_iff (g : MemoryGeometry) (phaseData : UInt32) :
    Bank.WellFormed ⟨"sdram", injectorRegisters g phaseData⟩ ↔
      g.phases = 0 ∨ PhaseWidths g phaseData := by
  constructor
  · intro h
    rw [Classical.or_iff_not_imp_left]
    intro hphases
    have hpos : 0 < g.phases.toNat := by
      rw [← UInt32.toNat_inj] at hphases
      exact Nat.pos_of_ne_zero hphases
    have hfirst : ∀ r ∈ phaseRegisters g phaseData 0, r.WellFormed := fun r hr =>
      h.registers r (List.mem_cons_of_mem _ (List.mem_flatMap.2 ⟨0, List.mem_range.2 hpos, hr⟩))
    exact phaseWidths_of_wellFormed hfirst
  · exact fun h => (plain_injector h).wellFormed

/-- A phase carries two data words. -/
lemma mul?_phaseData (hdata : g.dataBits.toNat < 2 ^ 31) :
    ∃ phaseData, (2 : UInt32).mul? g.dataBits = some phaseData ∧
      phaseData.toNat = 2 * g.dataBits.toNat := by
  have htwice : (UInt32.ofNat (2 * g.dataBits.toNat)).toNat = 2 * g.dataBits.toNat :=
    UInt32.toNat_ofNat_of_lt' (by simp only [UInt32.size]; omega)
  exact ⟨_, UInt32.mul?_eq_some_iff.2 htwice, htwice⟩

lemma phaseWidths_iff (htwice : phaseData.toNat = 2 * g.dataBits.toNat) :
    PhaseWidths g phaseData ↔
      (1 ≤ g.rowBits.toNat ∧ g.rowBits.toNat ≤ 64) ∧
        (1 ≤ g.bankBits.toNat ∧ g.bankBits.toNat ≤ 64) ∧
          1 ≤ g.dataBits.toNat ∧ g.dataBits.toNat ≤ 32 := by
  constructor
  · rintro ⟨hrow, hbank, hdata⟩
    exact ⟨hrow, hbank, by omega, by omega⟩
  · rintro ⟨hrow, hbank, hdata⟩
    exact ⟨hrow, hbank, by omega, by omega⟩

/-! ### Symbols -/

/-- A plain bank of its own is apart from the names of the bus, where its name is. -/
lemma apart_of_plain {b : Bank} (h : b.Plain)
    (hstart : ["data", "slot", b.name].Pairwise Bank.StartApart) :
    Declarations.Apart { banks := [b] } where
  flatNames := by
    have hlocal : ∀ x ∈ ([⟨"data", []⟩, ⟨"slot", []⟩, b] : List Bank), x.localNames.Nodup := by
      simp only [List.forall_mem_cons]
      exact ⟨List.nodup_nil, List.nodup_nil, h.localNames, nofun⟩
    exact Bank.nodup_flatNames hlocal hstart
  digits := by
    simp only [List.forall_mem_singleton]
    exact fun r hr => (h.registers r hr).digit
  regions := nofun
  constants := nofun

/-- **Whatever the number of phases, the injector has symbols of its own.** It can be declared
where it has no phases or the widths of a phase are those of registers. Then it is one bank, with a
register for control and six for each phase, and it completes on each bus that has room for it: no
two symbols meet, however many words a register takes. -/
theorem commandInjector_completes (g : MemoryGeometry) (hdata : g.dataBits.toNat < 2 ^ 31) :
    ((∃ next, (commandInjector g).Makes {} next) ↔ g.phases = 0 ∨
      (1 ≤ g.rowBits.toNat ∧ g.rowBits.toNat ≤ 64) ∧
        (1 ≤ g.bankBits.toNat ∧ g.bankBits.toNat ≤ 64) ∧
          1 ≤ g.dataBits.toNat ∧ g.dataBits.toNat ≤ 32) ∧
    ∀ next, (commandInjector g).Makes {} next →
      (∃ registers, next = { banks := [⟨"sdram", registers⟩] } ∧
        registers.length = 1 + 6 * g.phases.toNat ∧ (registers.map (·.name)).Nodup) ∧
      ∀ bus,
        (∀ map, AddressMap.ofBanks next.banks bus = .ok map →
          ∃ soc, next.complete bus = .ok soc ∧ soc.map = map) ∧
        ∀ first second symbol, next.complete bus ≠ refuse (.symbolCollision first second symbol) := by
  obtain ⟨phaseData, hmul, htwice⟩ := mul?_phaseData hdata
  have hmakes {next : Declarations} : (commandInjector g).Makes {} next ↔
      next = { banks := [⟨"sdram", injectorRegisters g phaseData⟩] } ∧ next.WellFormed :=
    (performs_commandInjector g hmul).makes_iff wellFormed_empty
  have hbank : Declarations.WellFormed { banks := [⟨"sdram", injectorRegisters g phaseData⟩] } ↔
      g.phases = 0 ∨ PhaseWidths g phaseData := by
    rw [← wellFormed_injector_iff]
    refine (wellFormed_empty.including_iff (.bank ⟨"sdram", _⟩)).trans ?_
    exact and_iff_left List.not_mem_nil
  refine ⟨?_, fun next hnext => ?_⟩
  · rw [← phaseWidths_iff htwice, ← hbank]
    constructor
    · rintro ⟨next, hnext⟩
      obtain ⟨rfl, hwf⟩ := hmakes.1 hnext
      exact hwf
    · exact fun hwf => ⟨_, hmakes.2 ⟨rfl, hwf⟩⟩
  · obtain ⟨rfl, hwf⟩ := hmakes.1 hnext
    have hplain := plain_injector (hbank.1 hwf)
    have hapart := apart_of_plain hplain (by decide : ["data", "slot", "sdram"].Pairwise _)
    refine ⟨⟨_, rfl, length_injectorRegisters g phaseData,
      Bank.nodup_registerNames hplain.localNames⟩, fun bus => ?_⟩
    have hsymbols {map : AddressMap} (hmap : AddressMap.ofBanks
        [⟨"sdram", injectorRegisters g phaseData⟩] bus = .ok map) :
        ((Declarations.placedOn { banks := [⟨"sdram", injectorRegisters g phaseData⟩] } bus
          map).symbols.map (·.symbol)).Nodup :=
      hapart.nodup_symbols hwf rfl (AddressMap.ofBanks_eq_ok_iff.1 hmap).2
    refine ⟨fun map hmap => ?_, fun first second symbol hcollision => ?_⟩
    · exact ⟨_, hwf.complete_eq_ok_iff.2 ⟨map, hmap, nofun, hsymbols hmap, rfl⟩, rfl⟩
    · rcases hwf.refused_at hcollision with hplaced | ⟨map, hmap, hregion | hfirst⟩
      · cases hplaced
      · obtain ⟨r, hr, -⟩ := hregion
        exact absurd hr List.not_mem_nil
      · rw [firstCollision_eq_none_iff.2 ⟨hsymbols hmap, by simp⟩] at hfirst
        cases hfirst

/-- Twelve phases complete on a bus of bytes, ten thousand are declared. Without phases any widths
will do, with one phase they will not. -/
theorem commandInjector_completes_wide :
    (∃ next soc, (commandInjector ⟨3, 14, 10, 16, 12⟩).Makes {} next ∧
      next.complete { dataWidth := 8 } = .ok soc) ∧
    (∃ next, (commandInjector ⟨3, 14, 10, 16, 10000⟩).Makes {} next) ∧
    (∃ next, (commandInjector ⟨0, 99, 10, 64, 0⟩).Makes {} next) ∧
    ¬ ∃ next, (commandInjector ⟨0, 99, 10, 64, 1⟩).Makes {} next := by
  refine ⟨?_, (commandInjector_completes _ (by decide)).1.2 (.inr (by decide)),
    (commandInjector_completes _ (by decide)).1.2 (.inl rfl),
    mt (commandInjector_completes _ (by decide)).1.1 (by decide)⟩
  obtain ⟨hmakes, hnext⟩ := commandInjector_completes ⟨3, 14, 10, 16, 12⟩ (by decide)
  obtain ⟨next, h⟩ := hmakes.2 (.inr (by decide))
  have hmul : (2 : UInt32).mul? 16 = some 32 := by decide
  obtain ⟨rfl, hwf⟩ := ((performs_commandInjector _ hmul).makes_iff wellFormed_empty).1 h
  have hsound : BusGeometry.Sound { dataWidth := 8 } :=
    ⟨by decide, ⟨2, by decide⟩, by decide, by decide, ⟨2, by decide⟩, by decide⟩
  have hfits : BusGeometry.Fits { dataWidth := 8 } _ :=
    ⟨hwf.banks, hwf.bankNames, by decide +kernel, by decide +kernel⟩
  obtain ⟨soc, hsoc, -⟩ := ((hnext _ h).2 { dataWidth := 8 }).1 _
    (AddressMap.ofBanks_of_fits hsound (by decide) hfits)
  exact ⟨_, soc, h, hsoc⟩

end Peripheral

end CsrMap
