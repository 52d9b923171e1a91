import CsrMap.Proofs.Board.Declarations
import CsrMap.Proofs.Header.Apart

/-!
When the built-in board with Ethernet completes.

The registers of the board are well formed, and its names are apart whatever the choices, so no
choice makes two of its symbols meet. What is left is that the choices are valid and that there is
room for the banks next to the regions.
-/

namespace CsrMap

/-- The register is well formed, with its fields one after another, and not named like a word. -/
structure Register.Plain (r : Register) : Prop where
  name : isName r.name
  digit : ¬ Header.EndsWithDigit r.name
  width_pos : 0 < r.width.toNat
  width_le : r.width.toNat ≤ 64
  reset_le : r.reset ≤ r.mask
  fields : ∀ f ∈ r.fields, isName f.name ∧ f.width ≠ 0 ∧ f.endBit ≤ r.width.toNat
  inOrder : r.fields.Pairwise fun f g => f.endBit ≤ g.offset.toNat

instance (r : Register) : Decidable r.Plain :=
  decidable_of_iff (isName r.name ∧ ¬ Header.EndsWithDigit r.name ∧ 0 < r.width.toNat ∧
      r.width.toNat ≤ 64 ∧ r.reset ≤ r.mask ∧
      (∀ f ∈ r.fields, isName f.name ∧ f.width ≠ 0 ∧ f.endBit ≤ r.width.toNat) ∧
      r.fields.Pairwise fun f g => f.endBit ≤ g.offset.toNat)
    ⟨fun ⟨h₁, h₂, h₃, h₄, h₅, h₆, h₇⟩ => ⟨h₁, h₂, h₃, h₄, h₅, h₆, h₇⟩,
      fun ⟨h₁, h₂, h₃, h₄, h₅, h₆, h₇⟩ => ⟨h₁, h₂, h₃, h₄, h₅, h₆, h₇⟩⟩

/-- The bank has plain registers, and the names in it are apart. -/
structure Bank.Plain (b : Bank) : Prop where
  name : isName b.name
  registers_ne : b.registers ≠ []
  registers : ∀ r ∈ b.registers, r.Plain
  localNames : b.localNames.Nodup

instance (b : Bank) : Decidable b.Plain :=
  decidable_of_iff (isName b.name ∧ b.registers ≠ [] ∧ (∀ r ∈ b.registers, r.Plain) ∧
      b.localNames.Nodup)
    ⟨fun ⟨h₁, h₂, h₃, h₄⟩ => ⟨h₁, h₂, h₃, h₄⟩, fun ⟨h₁, h₂, h₃, h₄⟩ => ⟨h₁, h₂, h₃, h₄⟩⟩

lemma Bank.Plain.wellFormed {b : Bank} (h : b.Plain) : b.WellFormed := by
  refine ⟨h.name, h.registers_ne, fun r hr => ?_, nodup_registerNames h.localNames⟩
  have hplain := h.registers r hr
  refine ⟨hplain.name, hplain.width_pos, hplain.width_le, hplain.reset_le, fun f hf => ?_,
    nodup_fieldNames h.localNames hr, ?_⟩
  · obtain ⟨hname, hwidth, hend⟩ := hplain.fields f hf
    exact ⟨hname, hwidth, hend⟩
  · rw [Field.sorted_eq_self hplain.inOrder]
    exact Field.overlap?_eq_none hplain.inOrder

namespace Board.Choices

open Declarations Peripheral

variable {c : Choices}

/-- The banks with Ethernet that do not depend on the choices. -/
def fixedBanks : List Bank := baseBanks ++ streamBanks

set_option maxRecDepth 4000 in
lemma plain_fixedBanks : ∀ b ∈ fixedBanks, b.Plain := by
  decide +kernel

/-- The port of the lights is well formed where it has lights that fit in a register. -/
lemma plain_lightBank (hpos : 0 < c.lights.toNat) (hle : c.lights.toNat ≤ 64) :
    c.lightBank.Plain := by
  have hbank : isName "port_led" := by decide
  have hregister : isName "out" ∧ ¬ Header.EndsWithDigit "out" := by decide
  refine ⟨hbank, by simp [lightBank], fun r hr => ?_, List.nodup_singleton _⟩
  rw [List.mem_singleton.1 hr]
  exact ⟨hregister.1, hregister.2, hpos, hle, UInt64.zero_le, nofun, List.Pairwise.nil⟩

/-- What the names of regions and interrupts are about. -/
def plainSubjects : List Header.Subject :=
  ["rom", "sram", "main_ram", "ethmac", "i2s_rx", "i2s_tx"].map (⟨·, ["_BASE", "_SIZE"]⟩)
    ++ ["uart", "timer0", "ethmac", "i2s_rx", "i2s_tx"].map (⟨·, ["_INTERRUPT"]⟩)

/-- A constant for the configuration has a name of its own, whatever comes after its start. -/
lemma config_not_mem {s : String} (h : "CONFIG_".toList <+: s.toList) :
    ¬ "CSR_".toList <+: s.toList ∧ ∀ x ∈ plainSubjects, s ∉ x.numbers := by
  have hall : ∀ x ∈ plainSubjects, ∀ t ∈ x.numbers, ¬ "CONFIG_".toList <+: t.toList := by
    decide
  refine ⟨fun hcsr => ?_, fun x hx hmem => hall x hx s hmem h⟩
  have hapart : ¬ "CSR_".toList <+: "CONFIG_".toList := by decide
  exact hapart (List.prefix_of_prefix_length_le hcsr h (by decide))

/-- No constant of the board has a name that comes from a declaration of another kind. -/
lemma constant_not_mem (h : c.ethernet = true) : ∀ k ∈ c.declared.constants,
    ¬ "CSR_".toList <+: k.name.toList ∧ ∀ x ∈ plainSubjects, k.name ∉ x.numbers := by
  have hnetwork : ∀ k ∈ networkConstants, ¬ "CSR_".toList <+: k.name.toList ∧
    ∀ x ∈ plainSubjects, k.name ∉ x.numbers := by decide
  have hprocessor : "CONFIG_".toList <+: ("CONFIG_CPU_TYPE_" ++ Text.upper c.processor).toList := by
    rw [String.toList_append]
    exact (by decide : "CONFIG_".toList <+: "CONFIG_CPU_TYPE_".toList).trans
      (List.prefix_append _ _)
  have hbase : ∀ k ∈ c.baseConstants, "CONFIG_".toList <+: k.name.toList := by
    simp only [baseConstants, List.forall_mem_cons]
    exact ⟨by decide, hprocessor, by decide, by decide, by decide, nofun⟩
  intro k hk
  rw [declared_of_ethernet h] at hk
  rcases List.mem_append.1 hk with hk | hk
  · rcases List.mem_append.1 hk with hk | hk
    · exact hnetwork k hk
    · exact config_not_mem (hbase k hk)
  · rw [List.mem_singleton.1 hk]
    exact config_not_mem (by decide : "CONFIG_".toList <+: "CONFIG_WITH_ETHERNET".toList)

/-- **Whatever the choices, the names of the board with Ethernet are apart.** -/
theorem declared_apart (h : c.ethernet = true) : c.declared.Apart := by
  have hbanks : c.declared.banks = fixedBanks ++ [c.lightBank] := by
    rw [declared_of_ethernet h]
    exact (List.append_assoc _ _ _).symm
  have hregions : ∀ r ∈ c.declared.regions, Header.regionSubject r ∈ plainSubjects := by
    rw [declared_of_ethernet h]
    intro r hr
    exact List.mem_append_left _ (List.mem_map_of_mem (f := Header.regionSubject) hr)
  have hinterrupts : ∀ i ∈ c.declared.interrupts.entries,
      Header.interruptSubject i ∈ plainSubjects := by
    rw [declared_of_ethernet h]
    intro i hi
    exact List.mem_append_right _ (List.mem_map_of_mem (f := Header.interruptSubject) hi)
  refine ⟨?_, fun b hb r hr => ?_, fun r hr => ?_, fun k hk => ?_⟩
  · -- The names that come from the bus are apart like those of two more banks.
    have hstart : (["data", "slot"] ++ fixedBanks.map (·.name) ++ ["port_led"]).Pairwise
      Bank.StartApart := by decide
    have hlocal : ∀ b ∈ (⟨"data", []⟩ :: ⟨"slot", []⟩ :: (fixedBanks ++ [c.lightBank]) : List Bank),
        b.localNames.Nodup := by
      rw [List.forall_mem_cons, List.forall_mem_cons, List.forall_mem_append,
        List.forall_mem_singleton]
      exact ⟨List.nodup_nil, List.nodup_nil, fun b hb => (plain_fixedBanks b hb).localNames,
        List.nodup_singleton _⟩
    rw [hbanks]
    exact Bank.nodup_flatNames hlocal hstart
  · rw [hbanks, List.mem_append, List.mem_singleton] at hb
    rcases hb with hb | rfl
    · exact ((plain_fixedBanks b hb).registers r hr).digit
    · rw [List.mem_singleton.1 hr]
      exact (by decide : ¬ Header.EndsWithDigit "out")
  · have hall : ∀ x ∈ plainSubjects, ¬ "csr".toList <+: x.name.toList := by decide
    exact hall _ (hregions r hr)
  · obtain ⟨hcsr, hnot⟩ := constant_not_mem h k hk
    exact ⟨hcsr, fun r hr => hnot _ (hregions r hr), fun i hi => hnot _ (hinterrupts i hi)⟩

/-- The board with Ethernet is well formed where its choices are: lights that fit in a register,
regions that are not empty and lie apart, and a name for the processor. -/
lemma wellFormed_declared (h : c.ethernet = true) (hpos : 0 < c.lights.toNat)
    (hle : c.lights.toNat ≤ 64) (hsizes : ∀ r ∈ c.declared.regions, r.size ≠ 0)
    (hapart : c.declared.regions.Pairwise fun r s => ¬ r.meets s.origin s.size)
    (hconstants : ∀ k ∈ c.declared.constants, isConstantName k.name)
    (hconstantNames : (c.declared.constants.map (·.name)).Nodup) : c.declared.WellFormed := by
  have hnames := (declared_apart h).bankNames
  rw [declared_of_ethernet h] at hnames hsizes hapart hconstants hconstantNames ⊢
  have hbanks : ∀ b ∈ baseBanks ++ c.networkBanks, b.WellFormed := by
    rw [networkBanks, ← List.append_assoc, List.forall_mem_append, List.forall_mem_singleton]
    exact ⟨fun b hb => (plain_fixedBanks b hb).wellFormed, (plain_lightBank hpos hle).wellFormed⟩
  have hregions : ∀ s ∈ ["rom", "sram", "main_ram", "ethmac", "i2s_rx", "i2s_tx"], isName s := by
    decide
  have hregionNames : ["rom", "sram", "main_ram", "ethmac", "i2s_rx", "i2s_tx"].Nodup := by decide
  have hentries : ∀ i ∈ baseInterrupts ++ networkInterrupts, isName i.name ∧
    isName i.peripheral := by decide
  have hinterruptNames : ["uart", "timer0", "ethmac", "i2s_rx", "i2s_tx"].Nodup := by decide
  have hbits : (baseInterrupts ++ networkInterrupts).map (·.bit.toNat) = List.range 5 := by
    decide
  have hbit (k : ℕ) (i : Interrupt) (hi : (baseInterrupts ++ networkInterrupts)[k]? = some i) :
      i.bit.toNat = k := by
    have hk := congrArg (·[k]?) hbits
    rw [List.getElem?_map, hi, Option.map_some] at hk
    obtain ⟨_, heq⟩ := List.getElem?_eq_some_iff.1 hk.symm
    rw [List.getElem_range] at heq
    exact heq.symm
  exact
    { banks := hbanks
      bankNames := hnames
      interrupts := fun i hi => (hentries i hi).1
      peripherals := fun i hi => (hentries i hi).2
      interruptNames := hinterruptNames
      bits := hbit
      vector := (by decide : 5 ≤ 32)
      regions := fun r hr => hregions _ (List.mem_map_of_mem (f := (·.name)) hr)
      regionSizes := hsizes
      regionNames := hregionNames
      regionsApart := hapart
      constants := hconstants
      constantNames := hconstantNames }

/-- **The board completes** where its names are apart, what it declares is well formed, its banks
have room and its regions lie apart from its registers. -/
theorem complete_of_fits (hnames : c.declared.Apart) (hwf : c.declared.WellFormed)
    (hsound : c.geometry.Sound) (hfits : c.geometry.Fits c.declared.banks)
    (hregions : ∀ r ∈ c.declared.regions, ∀ a, r.Covers a →
      ¬ (c.geometry.layout c.declared.banks).Covers a) :
    ∃ soc, c.complete = .ok soc := by
  have hslot : c.geometry.slotSize.toNat < 2 ^ 61 := (by decide : (4 : UInt64).toNat < 2 ^ 61)
  refine ⟨_, complete_eq_ok_iff.2 ⟨hwf, hwf.complete_eq_ok_iff.2
    ⟨_, AddressMap.ofBanks_of_fits hsound hslot hfits, hregions, ?_, rfl⟩⟩⟩
  exact hnames.nodup_symbols hwf rfl rfl

/-- Without further choices the board with Ethernet completes. -/
lemma complete_default : ∃ soc, ({ ethernet := true } : Choices).complete = .ok soc := by
  have hdeclared := declared_of_ethernet (c := { ethernet := true }) rfl
  have hwf : ({ ethernet := true } : Choices).declared.WellFormed := by
    refine wellFormed_declared rfl (by decide) (by decide) ?_ ?_ ?_ ?_
    all_goals
      rw [hdeclared]
      decide
  have hbelow : ∀ r ∈ ({ ethernet := true } : Choices).declared.regions,
      r.origin.toNat + r.size.toNat ≤ registersOrigin.toNat := by
    rw [hdeclared]
    decide
  refine complete_of_fits (declared_apart rfl) hwf ?_ ?_ fun r hr a ha hin => ?_
  · exact ⟨by decide, ⟨2, by decide⟩, by decide, by decide, ⟨11, by decide⟩, by decide⟩
  · refine ⟨hwf.banks, hwf.bankNames, ?_, ?_⟩
    · rw [hdeclared]
      decide
    · rw [hdeclared]
      decide
  · have hlt := ha.2.trans_le (hbelow r hr)
    exact absurd hin.1 (Nat.not_le.2 hlt)

end Board.Choices

end CsrMap
