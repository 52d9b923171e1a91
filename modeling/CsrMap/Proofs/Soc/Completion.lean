import CsrMap.Proofs.Declaration.Interrupts
import CsrMap.Proofs.Declaration.Regions
import CsrMap.Proofs.Soc.Finished
import Mathlib.Data.List.Nodup

/-!
How a completion ends for declarations that calls have made.

What calls make is well formed, so placement does not refuse any of it for its own sake and the
interrupts are dense. What remains are the bus, the room on it, the regions next to the registers
and the symbols of the header.
-/

namespace CsrMap

/-- The address lies in the range of the registers, in exact arithmetic. -/
def AddressMap.Covers (m : AddressMap) (address : UInt64) : Prop :=
  m.base.toNat ≤ address.toNat ∧ address.toNat < m.base.toNat + m.size.toNat

instance (m : AddressMap) (address : UInt64) : Decidable (m.Covers address) := by
  unfold AddressMap.Covers
  infer_instance

/-! ### The checks of a completion -/

section Regions

variable {m : AddressMap} {regions : List Region} {cause : ConfigError}

/-- Below the top of the address space the check of a region against the registers is exact. -/
lemma meets_registers_iff {r : Region} (hm : m.base.toNat + m.size.toNat < 2 ^ 64)
    (hr : r.size ≠ 0) :
    (m.size ≠ 0 && r.meets m.base m.size) = true ↔ ∃ a, r.Covers a ∧ m.Covers a := by
  rw [Bool.and_eq_true, decide_eq_true_eq]
  constructor
  · rintro ⟨hsize, hmeets⟩
    obtain ⟨a, -, ha, hin⟩ := (Region.meets_iff_exists hr hsize).1 hmeets
    exact ⟨a, ha, hin⟩
  · rintro ⟨a, ha, hin⟩
    have hsize : m.size ≠ 0 := by
      rintro hzero
      have := hin.2
      have := hin.1
      rw [hzero, UInt64.toNat_zero] at *
      omega
    have htop : a < Region.top := by
      rw [Region.lt_top_iff]
      have := hin.2
      omega
    exact ⟨hsize, (Region.meets_iff_exists hr hsize).2 ⟨a, htop, ha, hin⟩⟩

lemma checkRegions_eq_ok_iff (hm : m.base.toNat + m.size.toNat < 2 ^ 64)
    (hregions : ∀ r ∈ regions, r.size ≠ 0) :
    checkRegions m regions = .ok () ↔ ∀ r ∈ regions, ∀ a, r.Covers a → ¬ m.Covers a := by
  unfold checkRegions
  split
  · rename_i r hfind
    have hr := List.mem_of_find?_eq_some hfind
    have hmeets := List.find?_some hfind
    obtain ⟨a, ha, hin⟩ := (meets_registers_iff hm (hregions r hr)).1 hmeets
    exact iff_of_false nofun fun h => h r hr a ha hin
  · rename_i hfind
    refine iff_of_true rfl fun r hr a ha hin => ?_
    exact List.find?_eq_none.1 hfind r hr ((meets_registers_iff hm (hregions r hr)).2 ⟨a, ha, hin⟩)

/-- The check refuses a region that shares an address with the registers. -/
lemma checkRegions_eq_error (hm : m.base.toNat + m.size.toNat < 2 ^ 64)
    (hregions : ∀ r ∈ regions, r.size ≠ 0) (h : checkRegions m regions = .error cause) :
    ∃ r ∈ regions, cause = .regionOverlap r.name "csr" ∧ ∃ a, r.Covers a ∧ m.Covers a := by
  unfold checkRegions at h
  split at h
  · rename_i r hfind
    cases h
    have hr := List.mem_of_find?_eq_some hfind
    have hmeets := List.find?_some hfind
    exact ⟨r, hr, rfl, (meets_registers_iff hm (hregions r hr)).1 hmeets⟩
  · cases h

end Regions

/-! ### The causes of a refusal -/

/-- The causes for which a completion of well-formed declarations is refused. -/
inductive CompletionCause : ConfigError → Prop
  | bus (flaw : BusFlaw) : CompletionCause (.invalidBus flaw)
  | page (bank : String) (size page : UInt64) : CompletionCause (.pageOverflow bank size page)
  | address (bank : String) : CompletionCause (.addressOverflow bank)
  | region (region : String) : CompletionCause (.regionOverlap region "csr")
  | symbol (first second symbol : String) : CompletionCause (.symbolCollision first second symbol)

/-- The causes for which a placement of well-formed banks is refused. -/
inductive PlacementCause : ConfigError → Prop
  | bus (flaw : BusFlaw) : PlacementCause (.invalidBus flaw)
  | page (bank : String) (size page : UInt64) : PlacementCause (.pageOverflow bank size page)
  | address (bank : String) : PlacementCause (.addressOverflow bank)

lemma PlacementCause.completionCause {cause : ConfigError} (h : PlacementCause cause) :
    CompletionCause cause := by
  cases h with
  | bus flaw => exact .bus flaw
  | page bank size page => exact .page bank size page
  | address bank => exact .address bank

namespace AddressMap

variable {banks : List Bank} {bus : BusGeometry} {m : AddressMap}

/-- The range of a placement ends below the top of the address space. -/
lemma end_lt_of_ofBanks (h : ofBanks banks bus = .ok m) :
    m.base.toNat + m.size.toNat < 2 ^ 64 := by
  obtain ⟨⟨-, -, hfit⟩, rfl⟩ := ofBanks_eq_ok_iff.1 h
  have hend := hfit.end_lt
  rwa [← toNat_total hfit] at hend

/-- Placement refuses well-formed banks for the bus or for want of room. -/
lemma placementCause_of_ofBanks {cause : ConfigError} (hwf : ∀ b ∈ banks, b.WellFormed)
    (hnames : (banks.map (·.name)).Nodup) (h : ofBanks banks bus = refuse cause) :
    PlacementCause cause := by
  rcases BusGeometry.check_cases bus with ⟨-, hsound, hslot⟩ | ⟨hcheck, -⟩ | ⟨⟨flaw, hcheck⟩, -, -⟩
  · have hmisfit : ¬ bus.Fits banks := by
      intro hfit
      rw [ofBanks_of_fits hsound hslot hfit] at h
      cases h
    obtain ⟨front, b, back, rfl, hfront, hnot⟩ := exists_first_misfit hmisfit
    have hb : b.WellFormed := hwf b (by simp)
    have hnew : b.name ∉ front.map (·.name) := by
      rw [List.map_append, List.map_cons, List.nodup_append] at hnames
      exact fun hmem => hnames.2.2 _ hmem _ (by simp) rfl
    rcases ofBanks_cases hsound hslot hfront hb hnew back with
      ⟨hover, -⟩ | ⟨found, hfound, -, hrefuses⟩ | hfits
    · rw [hover] at h
      cases h
    · rw [hfound] at h
      cases h
      rcases hrefuses with ⟨rfl, -⟩ | ⟨page, -, -, -, rfl⟩
      · exact .address _
      · exact .page _ _ _
    · exact absurd hfits (hnot.resolve_left (not_not.2 ⟨hb, hnew⟩))
  · rw [ofBanks_of_check_eq_error hcheck] at h
    cases h
  · rw [ofBanks_of_check_eq_error hcheck] at h
    cases h
    exact .bus flaw

end AddressMap

namespace Declarations

variable {d : Declarations} {bus : BusGeometry} {soc : Soc}

/-- **A completion succeeds** exactly where the banks can be placed, no region shares an address
with the registers and no two symbols are the same. -/
theorem WellFormed.complete_eq_ok_iff (hd : d.WellFormed) :
    d.complete bus = .ok soc ↔ ∃ m, AddressMap.ofBanks d.banks bus = .ok m ∧
      (∀ r ∈ d.regions, ∀ a, r.Covers a → ¬ m.Covers a) ∧
      ((d.placedOn bus m).symbols.map (·.symbol)).Nodup ∧ soc = d.placedOn bus m := by
  have hregions {m : AddressMap} (hm : AddressMap.ofBanks d.banks bus = .ok m) :
      checkRegions m d.regions = .ok () ↔ ∀ r ∈ d.regions, ∀ a, r.Covers a → ¬ m.Covers a :=
    checkRegions_eq_ok_iff (AddressMap.end_lt_of_ofBanks hm) hd.regionSizes
  constructor
  · intro h
    obtain ⟨m, hm, rfl, -, hcheck, hsymbols⟩ := eq_of_complete h
    exact ⟨m, hm, (hregions hm).1 hcheck, (firstCollision_eq_none_iff.1 hsymbols).1, rfl⟩
  · rintro ⟨m, hm, hapart, hnodup, rfl⟩
    have hsymbols : firstCollision [] (d.placedOn bus m).symbols = none :=
      firstCollision_eq_none_iff.2 ⟨hnodup, by simp⟩
    rw [complete_eq, hm, hd.checkDense, Outcome.ok_bind, (hregions hm).2 hapart, hsymbols]
    rfl

/-- How a completion of well-formed declarations is refused: by the placement, for a region that
shares an address with the registers, or for the first symbol that is taken. -/
lemma WellFormed.refused_at {cause : ConfigError} (hd : d.WellFormed)
    (h : d.complete bus = refuse cause) :
    PlacementCause cause ∨
      ∃ m, AddressMap.ofBanks d.banks bus = .ok m ∧
        ((∃ r ∈ d.regions, cause = .regionOverlap r.name "csr" ∧ ∃ a, r.Covers a ∧ m.Covers a) ∨
          firstCollision [] (d.placedOn bus m).symbols = some cause) := by
  rw [complete_eq] at h
  rcases hplaced : AddressMap.ofBanks d.banks bus with (_ | refused) | m
  · rw [hplaced] at h
    cases h
  · rw [hplaced] at h
    cases h
    exact .inl (AddressMap.placementCause_of_ofBanks hd.banks hd.bankNames hplaced)
  · rw [hplaced, hd.checkDense, Outcome.ok_bind] at h
    refine .inr ⟨m, rfl, ?_⟩
    cases hregions : checkRegions m d.regions with
    | error found =>
      rw [hregions] at h
      cases h
      exact .inl
        (checkRegions_eq_error (AddressMap.end_lt_of_ofBanks hplaced) hd.regionSizes hregions)
    | ok u =>
      rw [hregions] at h
      cases hsymbols : firstCollision [] (d.placedOn bus m).symbols with
      | some collision =>
        simp only [hsymbols, Outcome.ofExcept_ok, Outcome.ok_bind] at h
        cases h
        exact .inr rfl
      | none =>
        simp only [hsymbols, Outcome.ofExcept_ok, Outcome.ok_bind] at h
        cases h

lemma WellFormed.refused_cases {cause : ConfigError} (hd : d.WellFormed)
    (h : d.complete bus = refuse cause) :
    PlacementCause cause ∨
      (∃ m, AddressMap.ofBanks d.banks bus = .ok m ∧ ∃ r ∈ d.regions,
        cause = .regionOverlap r.name "csr" ∧ ∃ a, r.Covers a ∧ m.Covers a) ∨
      ∃ first second symbol, cause = .symbolCollision first second symbol := by
  rcases hd.refused_at h with hplaced | ⟨m, hm, hregion | hsymbols⟩
  · exact .inl hplaced
  · exact .inr (.inl ⟨m, hm, hregion⟩)
  · exact .inr (.inr (firstCollision_eq_some hsymbols))

/-- **A completion is refused** for one of five causes only. -/
theorem WellFormed.completionCause {cause : ConfigError} (hd : d.WellFormed)
    (h : d.complete bus = refuse cause) : CompletionCause cause := by
  rcases hd.refused_cases h with hplaced | ⟨m, -, r, -, rfl, -⟩ | ⟨first, second, symbol, rfl⟩
  · exact hplaced.completionCause
  · exact .region r.name
  · exact .symbol first second symbol

/-! ### Calls -/

/-- **Regions lie apart from the registers.** After any calls, a region of a system shares no
address with the range of its registers, whether or not it runs past the top of the address space;
and where a completion is refused for an overlap, the region that it names shares an address with
the range that the registers would have. -/
theorem after_regions_apart_from_registers (calls : List Call) (bus : BusGeometry) :
    (∀ soc, (after {} calls).complete bus = .ok soc →
      ∀ r ∈ soc.regions, ∀ a : UInt64, ¬ (soc.map.Covers a ∧ r.Covers a)) ∧
    ∀ first second, (after {} calls).complete bus = refuse (.regionOverlap first second) →
      second = "csr" ∧ ∃ m, AddressMap.ofBanks (after {} calls).banks bus = .ok m ∧
        ∃ r ∈ (after {} calls).regions, r.name = first ∧
          (∀ s ∈ (after {} calls).regions, s.name = first → s = r) ∧
          ∃ a : UInt64, m.Covers a ∧ r.Covers a := by
  have hd := wellFormed_after calls
  refine ⟨fun soc h r hr a hboth => ?_, fun first second h => ?_⟩
  · obtain ⟨m, -, hapart, -, rfl⟩ := hd.complete_eq_ok_iff.1 h
    exact hapart r hr a hboth.2 hboth.1
  · rcases hd.refused_cases h with hplaced | ⟨m, hm, r, hr, hcause, a, ha, hin⟩ | ⟨_, _, _, hcause⟩
    · cases hplaced
    · cases hcause
      refine ⟨rfl, m, hm, r, hr, rfl, fun s hs hname => ?_, a, hin, ha⟩
      exact List.inj_on_of_nodup_map hd.regionNames hs hr hname
    · cases hcause

/-- A region next to the registers of one bus, and in the way of those of another. -/
theorem after_regions_apart_from_registers_two_buses :
    (∃ soc, (after {} [.bank "a" [⟨"r", 8, .storage, [], 0, none⟩],
          .region ⟨"ram", 4, 0xffffffffffffffff, .cached⟩]).complete {} = .ok soc ∧
        soc.map.Covers 3 ∧ ∀ r ∈ soc.regions, ∀ a : UInt64, ¬ (soc.map.Covers a ∧ r.Covers a)) ∧
    ∃ m, AddressMap.ofBanks [⟨"a", [⟨"r", 8, .storage, [], 0, none⟩]⟩] { base := 0x1000 } = .ok m ∧
      ∃ a : UInt64, m.Covers a ∧ Region.Covers ⟨"ram", 4, 0xffffffffffffffff, .cached⟩ a := by
  have hbanks : (after {} [.bank "a" [⟨"r", 8, .storage, [], 0, none⟩],
      .region ⟨"ram", 4, 0xffffffffffffffff, .cached⟩]).banks
      = [⟨"a", [⟨"r", 8, .storage, [], 0, none⟩]⟩] := by decide +kernel
  have hregions : (after {} [.bank "a" [⟨"r", 8, .storage, [], 0, none⟩],
      .region ⟨"ram", 4, 0xffffffffffffffff, .cached⟩]).regions
      = [⟨"ram", 4, 0xffffffffffffffff, .cached⟩] := by decide +kernel
  constructor
  · have h : (after {} [.bank "a" [⟨"r", 8, .storage, [], 0, none⟩],
        .region ⟨"ram", 4, 0xffffffffffffffff, .cached⟩]).complete {}
        = .ok ⟨{}, [⟨"a", [⟨"r", 8, .storage, [], 0, none⟩]⟩],
          ⟨0, 4, [⟨"a", 0, 4, [⟨"r", .storage, 8, 0, [⟨0, 0, 8⟩]⟩]⟩]⟩, {},
          [⟨"ram", 4, 0xffffffffffffffff, .cached⟩], []⟩ := by decide +kernel
    exact ⟨_, h, by decide, (after_regions_apart_from_registers _ _).1 _ h⟩
  · have h : (after {} [.bank "a" [⟨"r", 8, .storage, [], 0, none⟩],
        .region ⟨"ram", 4, 0xffffffffffffffff, .cached⟩]).complete { base := 0x1000 }
        = refuse (.regionOverlap "ram" "csr") := by decide +kernel
    obtain ⟨-, m, hm, r, hr, -, -, a, hin, ha⟩ := (after_regions_apart_from_registers _ _).2 _ _ h
    rw [hregions, List.mem_singleton] at hr
    rw [hbanks] at hm
    exact ⟨m, hm, a, hin, hr ▸ ha⟩

/-- The bank at a position that a call hands out stands there after all later calls. -/
lemma exists_bank_of_handed (d : Declarations) (c : Call) {i : ℕ}
    (h : (c.row.run d).1 = .ok (some i)) :
    ∃ b, ∀ later, ((c.perform d).after later).banks[i]? = some b := by
  have hlt := (c.handsOut_row.position d (some i) i h rfl).2
  refine ⟨(c.perform d).banks[i], fun later => ?_⟩
  have hstays := (startOf_of_grows (grows_after (c.perform d) later)).banks
  exact List.prefix_iff_getElem?.1 hstays i hlt

/-- **After any calls** declarations are well formed, they stay where they are whatever calls
follow, and a completion that stays in range answers by placement, regions and symbols alone. -/
theorem after_stays_and_completes (calls : List Call) :
    (after {} calls).WellFormed ∧
    (∀ b ∈ (after {} calls).banks, ∀ r ∈ b.registers, r.check b.name = .ok ()) ∧
    (∀ later, (after {} calls).StartOf ((after {} calls).after later)) ∧
    (∀ (c : Call) (i : ℕ), (c.row.run (after {} calls)).1 = .ok (some i) →
      ∃ b, ∀ later, ((c.perform (after {} calls)).after later).banks[i]? = some b) ∧
    ∀ bus, (after {} calls).complete bus ≠ .error .overflow →
      (∀ soc, (after {} calls).complete bus = .ok soc ↔
        ∃ m, AddressMap.ofBanks (after {} calls).banks bus = .ok m ∧
          (∀ r ∈ (after {} calls).regions, ∀ a, r.Covers a → ¬ m.Covers a) ∧
          (((after {} calls).placedOn bus m).symbols.map (·.symbol)).Nodup ∧
          soc = (after {} calls).placedOn bus m) ∧
      ((∀ soc, (after {} calls).complete bus ≠ .ok soc) →
        ∃ cause, (after {} calls).complete bus = refuse cause ∧ CompletionCause cause) := by
  have hd := wellFormed_after calls
  refine ⟨hd, fun b hb r hr => Register.check_eq_ok_iff.2 ((hd.banks b hb).registers r hr),
    fun later => startOf_of_grows (grows_after _ later),
    fun c i h => exists_bank_of_handed _ c h,
    fun bus hrange => ⟨fun soc => hd.complete_eq_ok_iff, fun hfails => ?_⟩⟩
  rcases hend : (after {} calls).complete bus with (_ | cause) | soc
  · exact absurd hend hrange
  · exact ⟨cause, rfl, hd.completionCause hend⟩
  · exact absurd hend (hfails soc)

/-- Pins after other pins, and a bus that carries twelve bits. -/
theorem after_stays_and_completes_pins :
    (∃ b, ∀ later, (((Call.outputPins "led" 4).perform (after {} [.inputPins "key" 8])).after
      later).banks[1]? = some b) ∧
    ∃ cause, (after {} [.inputPins "key" 8]).complete { dataWidth := 12 } = refuse cause ∧
      CompletionCause cause := by
  have hrefused : (after {} [.inputPins "key" 8]).complete { dataWidth := 12 }
      = refuse (.invalidBus (.dataWidth 12)) := by decide +kernel
  obtain ⟨-, -, -, hbank, hcomplete⟩ := after_stays_and_completes [.inputPins "key" 8]
  refine ⟨hbank (.outputPins "led" 4) 1 (by decide +kernel), (hcomplete _ ?_).2 fun soc => ?_⟩
  · rw [hrefused]
    exact refuse_ne_overflow _
  · rw [hrefused]
    exact refuse_ne_ok _ _

/-- Two interrupts of one peripheral: names of peripherals are not unique. -/
theorem after_shared_peripheral :
    ¬ ((after {} [.interrupt "rx" "dma", .interrupt "tx" "dma"]).interrupts.entries.map
      (·.peripheral)).Nodup := by
  decide +kernel

end Declarations

end CsrMap
