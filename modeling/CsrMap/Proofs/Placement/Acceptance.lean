import CsrMap.Proofs.Declaration.Making
import CsrMap.Proofs.Placement.Outcome

/-!
Which banks a placement accepts.

The placement checks its banks by itself, in an order of its own, and some of its sums are checked
and some are not. It accepts the banks that could be declared one after another and for which
there is room below the top of the address space, and no others.
-/

namespace CsrMap

namespace BusGeometry

/-- The bytes that the bus sets aside for a bank: the need of its registers, rounded to a boundary
if the bus has one, or a page. -/
def reserved (bus : BusGeometry) (b : Bank) : ℕ :=
  match bus.rounding with
  | .slot => bus.need b.registers
  | .boundary size => roundUp (bus.need b.registers) size.toNat
  | .paged page => page.toNat

variable {bus : BusGeometry} {banks : List Bank}

/-- Registers take whole slots, so rounding to slots changes nothing. -/
lemma extent_eq_reserved (h : bus.Sound) (b : Bank) : bus.extent b = bus.reserved b := by
  unfold extent reserved roundingUnit
  cases hrounding : bus.rounding with
  | slot =>
    have hmod := Nat.mod_eq_zero_of_dvd (bus.slotSize_dvd_need b.registers)
    exact roundUp_of_mod_eq_zero h.slotSize_pos hmod
  | boundary size => rfl
  | paged page => rfl

lemma total_eq_sum_reserved (h : bus.Sound) (banks : List Bank) :
    bus.total banks = (banks.map bus.reserved).sum := by
  rw [total]
  congr 1
  exact List.map_congr_left fun b _ => extent_eq_reserved h b

/-- Only a page can be too small for the registers of its bank. -/
lemma need_le_extent_iff (h : bus.Sound) (b : Bank) :
    bus.need b.registers ≤ bus.extent b ↔
      ∀ page, bus.rounding = .paged page → bus.need b.registers ≤ page.toNat := by
  by_cases hpaged : ∃ page, bus.rounding = .paged page
  · obtain ⟨page, hpage⟩ := hpaged
    rw [extent_of_paged hpage]
    constructor
    · intro hle other hother
      rw [hpage] at hother
      cases hother
      exact hle
    · intro hle
      exact hle page hpage
  · have hnot : ∀ page, bus.rounding ≠ .paged page := fun page hpage => hpaged ⟨page, hpage⟩
    rw [extent_of_not_paged hnot]
    refine iff_of_true (le_roundUp h.roundingUnit_pos) ?_
    intro page hpage
    exact absurd hpage (hnot page)

/-- Banks fit where they can be declared, their pages are large enough and they end below the
top. -/
lemma fits_iff (h : bus.Sound) : bus.Fits banks ↔
    (∃ d, (Declaring.banks banks).all = .ok d) ∧
      (∀ page, bus.rounding = .paged page → ∀ b ∈ banks, bus.need b.registers ≤ page.toNat) ∧
      bus.base.toNat + (banks.map bus.reserved).sum ≤ 2 ^ 64 - 1 := by
  rw [Declaring.exists_banks_iff, ← total_eq_sum_reserved h]
  constructor
  · intro hfit
    have hend := hfit.end_lt
    refine ⟨⟨hfit.wellFormed, hfit.names⟩, ?_, by omega⟩
    intro page hpage b hb
    exact (need_le_extent_iff h b).1 (hfit.need_le b hb) page hpage
  · rintro ⟨⟨hwf, hnames⟩, hpages, hend⟩
    refine ⟨hwf, hnames, ?_, by omega⟩
    intro b hb
    exact (need_le_extent_iff h b).2 fun page hpage => hpages page hpage b hb

end BusGeometry

/-- **Placement accepts exactly the banks that fit**: on a good bus with slots that are not too
wide, those that could be declared one after another, with no need above its page, and with an end
that is an address. -/
theorem AddressMap.ofBanks_accepts_iff (banks : List Bank) (bus : BusGeometry) :
    (∃ m, ofBanks banks bus = .ok m) ↔
      bus.slotSize.toNat < 2 ^ 61 ∧ bus.check = .ok () ∧
      (∃ d, (Declaring.banks banks).all = .ok d) ∧
      (∀ page, bus.rounding = .paged page → ∀ b ∈ banks, bus.need b.registers ≤ page.toNat) ∧
      bus.base.toNat + (banks.map bus.reserved).sum ≤ 2 ^ 64 - 1 := by
  have hplaced : (∃ m, ofBanks banks bus = .ok m) ↔
      bus.Sound ∧ bus.slotSize.toNat < 2 ^ 61 ∧ bus.Fits banks := by
    simp [ofBanks_eq_ok_iff]
  rw [hplaced, BusGeometry.check_eq_ok_iff]
  constructor
  · rintro ⟨hsound, hslot, hfit⟩
    exact ⟨hslot, ⟨hsound, hslot⟩, (BusGeometry.fits_iff hsound).1 hfit⟩
  · rintro ⟨hslot, ⟨hsound, -⟩, hrest⟩
    exact ⟨hsound, hslot, (BusGeometry.fits_iff hsound).2 hrest⟩

end CsrMap
