import CsrMap.Proofs.Board.Ethernet
import CsrMap.Proofs.Declaration.Duplicates
import CsrMap.Proofs.Placement.Acceptance

/-!
Which choices for the built-in board are accepted.

The names of the board are apart with and without Ethernet, so no choice is refused for a name or a
symbol that is taken. What is asked of the choices are their own ranges, a good bus, and room for
the registers next to the regions.
-/

namespace CsrMap

namespace Declarations

open Header

variable {d next : Declarations}

/-- The names of what lies within declarations are apart where theirs are. -/
lemma Within.apart (h : d.Within next) (hnext : next.Apart) : d.Apart where
  flatNames := by
    refine hnext.flatNames.sublist (List.Sublist.append_left ?_ _)
    obtain ⟨later, hlater⟩ := h.banks
    rw [← hlater, List.flatMap_append]
    exact List.sublist_append_left _ _
  digits b hb := hnext.digits b (h.banks.subset hb)
  regions r hr := by
    obtain ⟨s, hs, hwithin⟩ := exists_within_of_mem h.regions hr
    rw [hwithin.name]
    exact hnext.regions s hs
  constants k hk := by
    obtain ⟨hcsr, hregions, hinterrupts⟩ := hnext.constants k (h.constants.subset hk)
    refine ⟨hcsr, fun r hr => ?_, fun i hi => hinterrupts i (h.interrupts.subset hi)⟩
    obtain ⟨s, hs, hwithin⟩ := exists_within_of_mem h.regions hr
    rw [regionSubject, hwithin.name]
    exact hregions s hs

/-- Names that are apart are not repeated among the banks and inside of them. -/
lemma Apart.namesApart (h : d.Apart) (hinterrupts : (d.interrupts.entries.map (·.name)).Nodup)
    (hregions : (d.regions.map (·.name)).Nodup) (hconstants : (d.constants.map (·.name)).Nodup) :
    d.NamesApart where
  banks := h.bankNames
  registers _ hb := Bank.nodup_registerNames (h.localNames hb)
  fields _ hb _ hr := Bank.nodup_fieldNames (h.localNames hb) hr
  interrupts := hinterrupts
  regions := hregions
  constants := hconstants

end Declarations

namespace Board.Choices

open Declarations Peripheral

variable {c : Choices}

/-! ### Names -/

/-- Whatever the choices, they declare no more than with Ethernet. -/
lemma declared_within_ethernet (c : Choices) :
    c.declared.Within ({ c with ethernet := true } : Choices).declared := by
  cases h : c.ethernet with
  | false =>
    have hc : ({ c with ethernet := false } : Choices) = c := by rw [← h]
    have hwithin := c.declared_within
    rwa [hc] at hwithin
  | true =>
    have hc : ({ c with ethernet := true } : Choices) = c := by rw [← h]
    rw [hc]
    exact (StartOf.refl _).within

lemma declared_names_apart (c : Choices) : c.declared.Apart :=
  c.declared_within_ethernet.apart (declared_apart rfl)

/-- The names of the constants before that of the processor. -/
def earlierConstants : List String :=
  ["ETHMAC_RX_SLOTS", "ETHMAC_TX_SLOTS", "ETHMAC_SLOT_SIZE", "CONFIG_CLOCK_FREQUENCY"]

def laterConstants : List String :=
  ["CONFIG_CPU_RESET_ADDR", "CONFIG_CSR_DATA_WIDTH", "CONFIG_CSR_ALIGNMENT",
    "CONFIG_WITH_ETHERNET"]

/-- The names of the constants are apart, whatever the processor is called. -/
lemma nodup_constantNames (h : c.ethernet = true) :
    (c.declared.constants.map (·.name)).Nodup := by
  have hnames : c.declared.constants.map (·.name) = earlierConstants
      ++ ("CONFIG_CPU_TYPE_" ++ Text.upper c.processor) :: laterConstants := by
    rw [declared_of_ethernet h]
    rfl
  have hfixed : (earlierConstants ++ laterConstants).Nodup ∧
    ∀ s ∈ earlierConstants ++ laterConstants, ¬ "CONFIG_CPU_TYPE_".toList <+: s.toList := by
      decide
  rw [hnames, List.nodup_middle, List.nodup_cons]
  refine ⟨fun hmem => hfixed.2 _ hmem ?_, hfixed.1⟩
  rw [String.toList_append]
  exact List.prefix_append _ _

/-- **No name of the board is repeated.** -/
lemma declared_namesApart (c : Choices) : c.declared.NamesApart := by
  refine c.declared_within_ethernet.namesApart ((declared_apart rfl).namesApart ?_ ?_
    (nodup_constantNames rfl))
  · rw [declared_of_ethernet rfl]
    exact (by decide : ((baseInterrupts ++ networkInterrupts).map (·.name)).Nodup)
  · rw [declared_of_ethernet rfl]
    exact (by decide : ["rom", "sram", "main_ram", "ethmac", "i2s_rx", "i2s_tx"].Nodup)

/-! ### What is asked of the choices -/

/-- The bytes of all banks together. -/
def registerBytes (c : Choices) : ℕ := (c.declared.banks.map c.geometry.reserved).sum

/-- The choices are in their ranges, the bus is a good one, and there is room for the registers,
next to the regions and below the top of the address space. -/
structure Acceptable (c : Choices) : Prop where
  rom : 1 ≤ c.romBytes.toNat ∧ c.romBytes.toNat ≤ 0x10000000
  sram : 1 ≤ c.sramBytes.toNat ∧ c.sramBytes.toNat ≤ 0x30000000
  mainRam : ∃ bytes, (c.mainRamChoice <|> memoryModule.size) = some bytes ∧ 1 ≤ bytes.toNat ∧
    (c.ethernet = true → bytes.toNat ≤ 0x70000000)
  processor : ∀ ch ∈ (Text.upper c.processor).toList,
    ('A' ≤ ch ∧ ch ≤ 'Z') ∨ ('0' ≤ ch ∧ ch ≤ '9') ∨ ch = '_'
  lights : c.ethernet = true → 1 ≤ c.lights.toNat ∧ c.lights.toNat ≤ 64
  dataWidth : c.dataWidth ∈ [8, 16, 32]
  base : 4 ∣ c.base.toNat
  rounding : ∀ size, c.rounding = .boundary size ∨ c.rounding = .paged size →
    (∃ k, size.toNat = 2 ^ k) ∧ 4 ≤ size.toNat
  pages : ∀ page, c.rounding = .paged page → ∀ b ∈ c.declared.banks,
    c.geometry.need b.registers ≤ page.toNat
  room : c.base.toNat + c.registerBytes ≤ 2 ^ 64 - 1
  apart : ∀ r ∈ c.declared.regions, ∀ a : UInt64, r.Covers a →
    ¬ (c.base.toNat ≤ a.toNat ∧ a.toNat < c.base.toNat + c.registerBytes)

/-! ### Regions -/

lemma mainRam_eq (c : Choices) : (c.mainRamChoice <|> memoryModule.size) = some c.mainRamBytes := by
  unfold mainRamBytes
  cases c.mainRamChoice with
  | some size => rfl
  | none => exact (by decide +kernel : memoryModule.size = some 0x10000000)

/-- Where the regions start, in the order of their declaration. -/
def origins (c : Choices) : List UInt64 := c.declared.regions.map (·.origin)

/-- Where the regions start with Ethernet. -/
def allOrigins : List UInt64 :=
  [romOrigin, sramOrigin, mainRamOrigin, ethernetOrigin, audioReceiveOrigin, audioSendOrigin]

lemma origins_ordered (c : Choices) :
    c.origins.Pairwise (· ≤ ·) ∧ ∀ origin ∈ c.origins, origin < Region.top := by
  have hordered : allOrigins.Pairwise (· ≤ ·) := by decide
  have htop : allOrigins.all (· < Region.top) = true := by decide
  have hsublist : c.origins.Sublist allOrigins := by
    unfold origins
    cases h : c.ethernet with
    | false =>
      rw [declared_of_no_ethernet h]
      exact List.sublist_append_left [romOrigin, sramOrigin, mainRamOrigin] _
    | true =>
      rw [declared_of_ethernet h]
      exact List.Sublist.refl _
  refine ⟨hordered.sublist hsublist, fun origin horigin => ?_⟩
  exact of_decide_eq_true (List.all_eq_true.1 htop origin (hsublist.subset horigin))

/-- The regions are declared in the order of their origins, so each has to end before the next. -/
lemma regions_valid_iff :
    ((∀ r ∈ c.declared.regions, r.size ≠ 0) ∧
        c.declared.regions.Pairwise fun r s => ¬ r.meets s.origin s.size) ↔
      (1 ≤ c.romBytes.toNat ∧ c.romBytes.toNat ≤ 0x10000000) ∧
        (1 ≤ c.sramBytes.toNat ∧ c.sramBytes.toNat ≤ 0x30000000) ∧ 1 ≤ c.mainRamBytes.toNat ∧
          (c.ethernet = true → c.mainRamBytes.toNat ≤ 0x70000000) := by
  have horigins : romOrigin.toNat = 0 ∧ sramOrigin.toNat = 0x10000000 ∧
    mainRamOrigin.toNat = 0x40000000 ∧ ethernetOrigin.toNat = 0xb0000000 ∧
    audioReceiveOrigin.toNat = 0xb1000000 ∧ audioSendOrigin.toNat = 0xb2000000 := by decide
  have hwindows : ((receiveSlots + sendSlots) * packetSize).toNat = 0x2000 ∧
    sampleWindow.toNat = 0x40000 := by decide
  rw [and_congr_right fun hsizes => Region.pairwise_not_meets_iff hsizes c.origins_ordered.1
    c.origins_ordered.2]
  cases h : c.ethernet with
  | false =>
    rw [declared_of_no_ethernet h]
    simp only [baseRegions, List.pairwise_cons, List.Pairwise.nil, List.forall_mem_cons,
      List.not_mem_nil, UInt64.ne_zero_iff, Bool.false_eq_true, false_implies, implies_true,
      and_true]
    omega
  | true =>
    rw [declared_of_ethernet h]
    simp only [baseRegions, networkRegions, List.cons_append, List.nil_append, List.pairwise_cons,
      List.Pairwise.nil, List.forall_mem_cons, List.not_mem_nil, UInt64.ne_zero_iff, false_implies,
      true_implies, implies_true, and_true]
    omega

/-! ### The processor and the lights -/

/-- Only the name of the processor can be no name of a constant. -/
lemma constants_valid_iff : (∀ k ∈ c.declared.constants, isConstantName k.name) ↔
    Header.IsUpperWord (Text.upper c.processor) := by
  have hprefix : isConstantName "CONFIG_CPU_TYPE_" := by decide
  have hprocessor : isConstantName ("CONFIG_CPU_TYPE_" ++ Text.upper c.processor) ↔
      Header.IsUpperWord (Text.upper c.processor) := by
    constructor
    · intro h
      exact (Header.isUpperWord_append.1 (Header.isConstantName_iff.1 h).2).2
    · exact Header.isConstantName_append hprefix
  have hbase : (∀ k ∈ c.baseConstants, isConstantName k.name) ↔
      Header.IsUpperWord (Text.upper c.processor) := by
    rw [← hprocessor]
    simp only [baseConstants, List.forall_mem_cons]
    constructor
    · rintro ⟨-, h, -⟩
      exact h
    · intro h
      exact ⟨by decide, h, by decide, by decide, by decide, List.forall_mem_nil _⟩
  cases h : c.ethernet with
  | false => rw [declared_of_no_ethernet h, hbase]
  | true =>
    have hnetwork : ∀ k ∈ networkConstants, isConstantName k.name := by decide
    have hethernet : isConstantName "CONFIG_WITH_ETHERNET" := by decide
    rw [declared_of_ethernet h, List.forall_mem_append, List.forall_mem_append,
      List.forall_mem_singleton, hbase]
    exact ⟨fun hall => hall.1.2, fun hall => ⟨⟨hnetwork, hall⟩, hethernet⟩⟩

/-- **The board can be declared** where the choices for its regions, its processor and its lights
are in their ranges. -/
lemma wellFormed_declared_iff : c.declared.WellFormed ↔
    ((∀ r ∈ c.declared.regions, r.size ≠ 0) ∧
      c.declared.regions.Pairwise fun r s => ¬ r.meets s.origin s.size) ∧
    Header.IsUpperWord (Text.upper c.processor) ∧
    (c.ethernet = true → 1 ≤ c.lights.toNat ∧ c.lights.toNat ≤ 64) := by
  constructor
  · intro hwf
    refine ⟨⟨hwf.regionSizes, hwf.regionsApart⟩, constants_valid_iff.1 hwf.constants, ?_⟩
    intro h
    have hbank : c.lightBank ∈ c.declared.banks := by
      rw [declared_of_ethernet h]
      exact List.mem_append_right _ List.mem_concat_self
    have hregister := (hwf.banks _ hbank).registers _ (List.mem_singleton_self _)
    exact ⟨hregister.width_pos, hregister.width_le⟩
  · rintro ⟨⟨hsizes, hapart⟩, hprocessor, hlights⟩
    have hconstants := constants_valid_iff.2 hprocessor
    have hnames := c.declared_namesApart
    cases h : c.ethernet with
    | true =>
      exact wellFormed_declared h (hlights h).1 (hlights h).2 hsizes hapart hconstants
        hnames.constants
    | false =>
      -- The banks and the interrupts are those of the board without further choices.
      obtain ⟨large, hlarge⟩ := complete_default
      have hdefault := (declared_within {}).wellFormed (complete_eq_ok_iff.1 hlarge).1
      have hregionNames : ∀ s ∈ c.declared.regions.map (·.name), isName s := by
        rw [declared_of_no_ethernet h]
        exact (by decide : ∀ s ∈ ["rom", "sram", "main_ram"], isName s)
      have hregions : ∀ r ∈ c.declared.regions, isName r.name := fun r hr =>
        hregionNames _ (List.mem_map_of_mem hr)
      rw [declared_of_no_ethernet rfl] at hdefault
      rw [declared_of_no_ethernet h] at hregions hsizes hapart hconstants hnames ⊢
      exact
        { hdefault with
          regions := hregions
          regionSizes := hsizes
          regionNames := hnames.regions
          regionsApart := hapart
          constants := hconstants
          constantNames := hnames.constants }

/-! ### The bus -/

/-- Of the widths of a bus, all but the largest fit in the four bytes of a slot. -/
lemma dataWidth_mem_iff {width : UInt32} :
    (width ∈ [8, 16, 32, 64] ∧ width.toNat ≤ 32) ↔ width ∈ [8, 16, 32] := by
  simp only [List.mem_cons, List.not_mem_nil, or_false]
  constructor
  · rintro ⟨rfl | rfl | rfl | rfl, hle⟩
    · exact .inl rfl
    · exact .inr (.inl rfl)
    · exact .inr (.inr rfl)
    · exact absurd hle (by decide)
  · rintro (rfl | rfl | rfl) <;> decide

/-- A good bus in terms of the choices: its slots have four bytes. -/
lemma sound_geometry_iff : c.geometry.Sound ↔ c.dataWidth ∈ [8, 16, 32] ∧ 4 ∣ c.base.toNat ∧
    ∀ size, c.rounding = .boundary size ∨ c.rounding = .paged size →
      (∃ k, size.toNat = 2 ^ k) ∧ 4 ≤ size.toNat := by
  have hunit : ((∃ k, c.geometry.roundingUnit.toNat = 2 ^ k) ∧
        4 ≤ c.geometry.roundingUnit.toNat) ↔
      ∀ size, c.rounding = .boundary size ∨ c.rounding = .paged size →
        (∃ k, size.toNat = 2 ^ k) ∧ 4 ≤ size.toNat := by
    unfold BusGeometry.roundingUnit geometry
    cases c.rounding with
    | slot =>
      refine iff_of_true ⟨⟨2, rfl⟩, le_rfl⟩ fun size hsize => ?_
      rcases hsize with hsize | hsize <;> cases hsize
    | boundary size => simp
    | paged page => simp
  rw [← hunit, ← dataWidth_mem_iff]
  constructor
  · intro h
    exact ⟨⟨h.dataWidth, h.dataWidth_le⟩, h.base, h.roundingUnit, h.slotSize_le⟩
  · rintro ⟨⟨hmem, hle⟩, hbase, hpow, hslot⟩
    exact ⟨hmem, ⟨2, rfl⟩, hle, hbase, hpow, hslot⟩

/-! ### What is accepted -/

lemma accepts_iff_fits : (∃ soc, c.complete = .ok soc) ↔
    c.declared.WellFormed ∧ c.geometry.Sound ∧ c.geometry.Fits c.declared.banks ∧
      ∀ r ∈ c.declared.regions, ∀ a, r.Covers a →
        ¬ (c.geometry.layout c.declared.banks).Covers a := by
  constructor
  · rintro ⟨soc, h⟩
    obtain ⟨hwf, hcomplete⟩ := complete_eq_ok_iff.1 h
    obtain ⟨m, hm, hapart, -⟩ := hwf.complete_eq_ok_iff.1 hcomplete
    obtain ⟨⟨hsound, -, hfits⟩, rfl⟩ := AddressMap.ofBanks_eq_ok_iff.1 hm
    exact ⟨hwf, hsound, hfits, hapart⟩
  · rintro ⟨hwf, hsound, hfits, hapart⟩
    exact complete_of_fits c.declared_names_apart hwf hsound hfits hapart

lemma not_isDuplicate_of_complete {cause : ConfigError} (h : c.complete = refuse cause) :
    ¬ cause.IsDuplicate := by
  rw [complete_eq] at h
  cases hdeclarations : c.declarations with
  | error failure =>
    rw [hdeclarations] at h
    cases h
    exact c.performs_declare.not_isDuplicate c.declared_namesApart hdeclarations
  | ok d =>
    obtain ⟨rfl, hwf⟩ := c.declarations_eq_ok_iff.1 hdeclarations
    rw [hdeclarations, Outcome.ok_bind] at h
    rcases hwf.refused_at h with hplaced | ⟨m, hm, ⟨r, -, rfl, -⟩ | hcollision⟩
    · cases hplaced with
      | bus flaw => exact id
      | page bank size page => exact id
      | address bank => exact id
    · exact id
    · obtain ⟨-, rfl⟩ := AddressMap.ofBanks_eq_ok_iff.1 hm
      have hnodup : ((c.declared.placedOn c.geometry
          (c.geometry.layout c.declared.banks)).symbols.map (·.symbol)).Nodup :=
        c.declared_names_apart.nodup_symbols hwf rfl rfl
      rw [firstCollision_eq_none_iff.2 ⟨hnodup, by simp⟩] at hcollision
      cases hcollision

/-- The range of the registers, where they fit. -/
lemma covers_layout_iff (hsound : c.geometry.Sound) (hfits : c.geometry.Fits c.declared.banks)
    {a : UInt64} : (c.geometry.layout c.declared.banks).Covers a ↔
      c.base.toNat ≤ a.toNat ∧ a.toNat < c.base.toNat + c.registerBytes := by
  unfold AddressMap.Covers BusGeometry.layout registerBytes
  rw [AddressMap.toNat_total hfits, BusGeometry.total_eq_sum_reserved hsound]
  rfl

lemma acceptable_iff_fits : c.Acceptable ↔
    c.declared.WellFormed ∧ c.geometry.Sound ∧ c.geometry.Fits c.declared.banks ∧
      ∀ r ∈ c.declared.regions, ∀ a, r.Covers a →
        ¬ (c.geometry.layout c.declared.banks).Covers a := by
  have hprocessor : Header.IsUpperWord (Text.upper c.processor) ↔
      ∀ ch ∈ (Text.upper c.processor).toList,
        ('A' ≤ ch ∧ ch ≤ 'Z') ∨ ('0' ≤ ch ∧ ch ≤ '9') ∨ ch = '_' :=
    forall₂_congr fun _ _ => Header.isUpperWordChar_iff
  constructor
  · intro h
    obtain ⟨bytes, hbytes, hmainRam, hethernet⟩ := h.mainRam
    rw [mainRam_eq] at hbytes
    cases hbytes
    have hwf : c.declared.WellFormed := wellFormed_declared_iff.2
      ⟨regions_valid_iff.2 ⟨h.rom, h.sram, hmainRam, hethernet⟩, hprocessor.2 h.processor, h.lights⟩
    have hsound := sound_geometry_iff.2 ⟨h.dataWidth, h.base, h.rounding⟩
    have hfits : c.geometry.Fits c.declared.banks := (BusGeometry.fits_iff hsound).2
      ⟨(Declaring.exists_banks_iff _).2 ⟨hwf.banks, hwf.bankNames⟩, h.pages, h.room⟩
    refine ⟨hwf, hsound, hfits, fun r hr a ha hin => ?_⟩
    exact h.apart r hr a ha ((covers_layout_iff hsound hfits).1 hin)
  · rintro ⟨hwf, hsound, hfits, hapart⟩
    obtain ⟨hregions, hupper, hlights⟩ := wellFormed_declared_iff.1 hwf
    obtain ⟨hrom, hsram, hmainRam, hethernet⟩ := regions_valid_iff.1 hregions
    obtain ⟨hwidth, hbase, hrounding⟩ := sound_geometry_iff.1 hsound
    obtain ⟨-, hpages, hroom⟩ := (BusGeometry.fits_iff hsound).1 hfits
    exact
      { rom := hrom
        sram := hsram
        mainRam := ⟨_, c.mainRam_eq, hmainRam, hethernet⟩
        processor := hprocessor.1 hupper
        lights := hlights
        dataWidth := hwidth
        base := hbase
        rounding := hrounding
        pages := hpages
        room := hroom
        apart := fun r hr a ha hin =>
          hapart r hr a ha ((covers_layout_iff hsound hfits).2 hin) }

/-- **The choices that are accepted.** What the board declares, where it can be declared, are its
fixed lists with the choices filled in. The board completes exactly where the choices are in their
ranges, the bus is a good one with slots of four bytes, pages are large enough, and the registers
have room below the top of the address space and apart from the regions. Otherwise it may be refused
for many causes, but never for a name or a symbol that is taken. -/
theorem complete_accepts (c : Choices) :
    (∀ d, c.declarations = .ok d → d = c.declared) ∧
    ((∃ soc, c.complete = .ok soc) ↔ c.Acceptable) ∧
    ∀ cause, c.complete = refuse cause → ¬ cause.IsDuplicate := by
  refine ⟨fun d hd => (c.declarations_eq_ok_iff.1 hd).1, ?_, fun _ => not_isDuplicate_of_complete⟩
  rw [accepts_iff_fits, acceptable_iff_fits]

/-- The board with Ethernet is accepted without further choices, and words of eight bytes are
not. -/
theorem complete_accepts_default : ({ ethernet := true } : Choices).Acceptable ∧
    ¬ ∃ soc, ({ dataWidth := 64 } : Choices).complete = .ok soc := by
  refine ⟨(complete_accepts _).2.1.1 complete_default, fun h => ?_⟩
  have hwidth := ((complete_accepts _).2.1.1 h).dataWidth
  exact absurd hwidth (by decide)

end Board.Choices

end CsrMap
