import CsrMap.Proofs.Placement.Outcome
import CsrMap.Proofs.Placement.Positions

/-!
The same banks on buses that round the sizes of banks in different ways.

A bank has registers, so it needs something, and a need that is no more than the boundary is
rounded to the boundary itself. Hence pages and boundaries of one size lay the same banks out in
the same way until some bank needs more than a page. Rounding to slots is rounding to a boundary
of one slot.
-/

namespace CsrMap

namespace BusGeometry

/-- The bus with another rounding of the sizes of banks. -/
def rounded (bus : BusGeometry) (rounding : Rounding) : BusGeometry :=
  { bus with rounding := rounding }

variable {bus : BusGeometry} {banks front : List Bank} {b : Bank} {size : UInt64}
  {rounding other : Rounding}

/-! ### What the rounding does not touch -/

@[simp] lemma base_rounded : (bus.rounded rounding).base = bus.base := rfl

@[simp] lemma slotSize_rounded : (bus.rounded rounding).slotSize = bus.slotSize := rfl

@[simp] lemma rounding_rounded : (bus.rounded rounding).rounding = rounding := rfl

@[simp] lemma need_rounded (registers : List Register) :
    (bus.rounded rounding).need registers = bus.need registers := rfl

lemma registersFrom_rounded (start : ℕ) (registers : List Register) :
    (bus.rounded rounding).registersFrom start registers = bus.registersFrom start registers := by
  induction registers generalizing start with
  | nil => rfl
  | cons r registers ih =>
    rw [registersFrom, registersFrom, ih]
    rfl

/-- Pages and boundaries of one size make the same demands on the geometry. -/
lemma sound_paged_iff :
    (bus.rounded (.paged size)).Sound ↔ (bus.rounded (.boundary size)).Sound := by
  constructor
  · intro h
    exact ⟨h.dataWidth, h.slotSize, h.dataWidth_le, h.base, h.roundingUnit, h.slotSize_le⟩
  · intro h
    exact ⟨h.dataWidth, h.slotSize, h.dataWidth_le, h.base, h.roundingUnit, h.slotSize_le⟩

/-! ### Banks that take the same bytes in both ways -/

lemma bankAt_rounded (start : ℕ)
    (h : (bus.rounded other).extent b = (bus.rounded rounding).extent b) :
    (bus.rounded other).bankAt start b = (bus.rounded rounding).bankAt start b := by
  unfold bankAt
  rw [h, registersFrom_rounded, registersFrom_rounded]

lemma total_rounded
    (h : ∀ b ∈ banks, (bus.rounded other).extent b = (bus.rounded rounding).extent b) :
    (bus.rounded other).total banks = (bus.rounded rounding).total banks := by
  unfold total
  congr 1
  exact List.map_congr_left h

lemma banksFrom_rounded (start : ℕ)
    (h : ∀ b ∈ banks, (bus.rounded other).extent b = (bus.rounded rounding).extent b) :
    (bus.rounded other).banksFrom start banks = (bus.rounded rounding).banksFrom start banks := by
  induction banks generalizing start with
  | nil => rfl
  | cons b banks ih =>
    obtain ⟨hb, h⟩ := List.forall_mem_cons.1 h
    rw [banksFrom, banksFrom, bankAt_rounded start hb, hb, ih _ h]

lemma layout_rounded
    (h : ∀ b ∈ banks, (bus.rounded other).extent b = (bus.rounded rounding).extent b) :
    (bus.rounded other).layout banks = (bus.rounded rounding).layout banks := by
  unfold layout
  rw [total_rounded h, base_rounded, base_rounded, banksFrom_rounded _ h]

lemma Fits.of_rounded (hfit : (bus.rounded rounding).Fits banks)
    (h : ∀ b ∈ banks, (bus.rounded other).extent b = (bus.rounded rounding).extent b) :
    (bus.rounded other).Fits banks where
  wellFormed := hfit.wellFormed
  names := hfit.names
  need_le b hb := by
    rw [h b hb]
    exact hfit.need_le b hb
  end_lt := by
    rw [total_rounded h]
    exact hfit.end_lt

/-! ### Pages against boundaries -/

lemma roundUp_of_le {n unit : ℕ} (hpos : 0 < n) (hle : n ≤ unit) : roundUp n unit = unit := by
  have hone : (n + unit - 1) / unit = 1 := Nat.div_eq_of_lt_le (by omega) (by omega)
  rw [roundUp, hone, Nat.one_mul]

/-- A bank has a register and a register takes a slot at least. -/
lemma need_pos (h : bus.Sound) (hb : b.WellFormed) : 0 < bus.need b.registers := by
  cases hregs : b.registers with
  | nil => exact absurd hregs hb.registers_ne
  | cons r registers =>
    have hr := span_pos h (hb.registers r (by rw [hregs]; exact List.mem_cons_self))
    rw [need_cons]
    omega

@[simp] lemma extent_paged (b : Bank) : (bus.rounded (.paged size)).extent b = size.toNat := rfl

lemma extent_boundary (b : Bank) : (bus.rounded (.boundary size)).extent b
    = roundUp (bus.need b.registers) size.toNat := rfl

/-- A bank that fits in a page takes one boundary. -/
lemma extent_boundary_of_need_le (h : (bus.rounded (.boundary size)).Sound) (hb : b.WellFormed)
    (hle : bus.need b.registers ≤ size.toNat) :
    (bus.rounded (.boundary size)).extent b = (bus.rounded (.paged size)).extent b := by
  have hpos : 0 < (bus.rounded (.boundary size)).need b.registers := need_pos h hb
  rw [extent_paged, extent_boundary]
  exact roundUp_of_le hpos hle

/-- A bank never takes less than one boundary. -/
lemma le_extent_boundary (h : (bus.rounded (.boundary size)).Sound) (hb : b.WellFormed) :
    size.toNat ≤ (bus.rounded (.boundary size)).extent b := by
  have hpos : 0 < (bus.rounded (.boundary size)).need b.registers := need_pos h hb
  have hneed : bus.need b.registers ≤ (bus.rounded (.boundary size)).extent b :=
    le_roundUp h.roundingUnit_pos
  rw [need_rounded] at hpos
  exact Nat.le_of_dvd (by omega) (dvd_roundUp _ _)

lemma Fits.extent_boundary (hfit : (bus.rounded (.paged size)).Fits banks)
    (h : (bus.rounded (.boundary size)).Sound) :
    ∀ b ∈ banks, (bus.rounded (.boundary size)).extent b = (bus.rounded (.paged size)).extent b :=
  fun b hb => extent_boundary_of_need_le h (hfit.wellFormed b hb) (hfit.need_le b hb)

end BusGeometry

/-- Bank number `i` of the map is the first one that takes more than `size` bytes. -/
structure AddressMap.FirstAbove (m : AddressMap) (size : UInt64) (i : ℕ) (placed : PlacedBank) :
    Prop where
  bank : m.banks[i]? = some placed
  above : size < placed.size
  before : ∀ j < i, ∀ earlier, m.banks[j]? = some earlier → earlier.size ≤ size

namespace AddressMap

open BusGeometry

variable {bus : BusGeometry} {banks front back : List Bank} {b : Bank} {size : UInt64}
  {m : AddressMap} {rounding : Rounding}

/-- A map of pages is also the map of boundaries of that size. -/
lemma ofBanks_boundary_of_paged (h : ofBanks banks (bus.rounded (.paged size)) = .ok m) :
    ofBanks banks (bus.rounded (.boundary size)) = .ok m := by
  rw [ofBanks_eq_ok_iff] at h ⊢
  obtain ⟨⟨hpaged, hslot, hfit⟩, rfl⟩ := h
  have hsound := sound_paged_iff.1 hpaged
  have hextent := hfit.extent_boundary hsound
  exact ⟨⟨hsound, hslot, hfit.of_rounded hextent⟩, (layout_rounded hextent).symm⟩

lemma size_eq_of_paged (h : ofBanks banks (bus.rounded (.paged size)) = .ok m) :
    ∀ placed ∈ m.banks, placed.size = size := by
  obtain ⟨⟨-, -, hfit⟩, rfl⟩ := ofBanks_eq_ok_iff.1 h
  intro placed hplaced
  obtain ⟨i, b, hstands⟩ := hfit.exists_standsAt hplaced
  exact UInt64.toNat_inj.1 hstands.size

/-- Where boundaries leave room for a bank, only its page can be too small for it. -/
lemma ofBanks_paged_eq_refuse (h : (bus.rounded (.paged size)).Sound)
    (hslot : bus.slotSize.toNat < 2 ^ 61) (hfit : (bus.rounded (.paged size)).Fits front)
    (hwf : b.WellFormed) (hnew : b.name ∉ front.map (·.name))
    (hroom : bus.base.toNat + (bus.rounded (.paged size)).total front
      + (bus.rounded (.boundary size)).extent b < 2 ^ 64)
    (hneed : size.toNat < bus.need b.registers) :
    ofBanks (front ++ b :: back) (bus.rounded (.paged size))
      = refuse (.pageOverflow b.name (bus.need b.registers).toUInt64 size) := by
  have hsound := sound_paged_iff.1 h
  have hle : bus.need b.registers ≤ (bus.rounded (.boundary size)).extent b :=
    le_roundUp hsound.roundingUnit_pos
  rcases ofBanks_cases h hslot hfit hwf hnew back with
    ⟨-, hover | ⟨hnot, -⟩⟩ | ⟨cause, hrefuse, -, hrefuses⟩ | hat
  · refine absurd hover (not_registersOverflow_of_fits ?_)
    rw [base_rounded, need_rounded]
    omega
  · exact absurd rfl (hnot size)
  · rw [hrefuse]
    rcases hrefuses with ⟨-, htop | ⟨hpage, -⟩⟩ | ⟨page, hpage, -, -, rfl⟩
    · rw [base_rounded, need_rounded] at htop
      omega
    · rw [extent_paged, need_rounded] at hpage
      omega
    · cases hpage
      rfl
  · have hpage := hat.need_le
    rw [extent_paged, need_rounded] at hpage
    omega

/-- On boundaries, a bank that needs more than a page behind banks that do not is the first one
that takes more. -/
lemma exists_firstAbove (h : (bus.rounded (.boundary size)).Sound)
    (hfit : (bus.rounded (.boundary size)).Fits (front ++ b :: back))
    (hfront : (bus.rounded (.paged size)).Fits front)
    (hneed : size.toNat < bus.need b.registers) :
    ∃ placed, ((bus.rounded (.boundary size)).layout (front ++ b :: back)).FirstAbove size
      front.length placed := by
  have hb : (front ++ b :: back)[front.length]? = some b := by simp
  obtain ⟨placed, hplaced⟩ : ∃ placed, ((bus.rounded (.boundary size)).layout
      (front ++ b :: back)).banks[front.length]? = some placed :=
    ⟨_, by rw [layout, getElem?_banksFrom, hb, Option.map_some]⟩
  refine ⟨placed, hplaced, ?_, ?_⟩
  · obtain ⟨c, hstands⟩ := hfit.standsAt hplaced
    obtain rfl : b = c := Option.some.inj (hb.symm.trans hstands.bank)
    have hle : bus.need b.registers ≤ (bus.rounded (.boundary size)).extent b :=
      le_roundUp h.roundingUnit_pos
    rw [UInt64.lt_iff_toNat_lt, hstands.size]
    omega
  · intro j hj earlier hearlier
    obtain ⟨c, hstands⟩ := hfit.standsAt hearlier
    have hc : c ∈ front := by
      have hbank := hstands.bank
      rw [List.getElem?_append_left hj] at hbank
      exact List.mem_of_getElem? hbank
    rw [UInt64.le_iff_toNat_le, hstands.size, hfront.extent_boundary h c hc, extent_paged]

/-- Where banks lie on boundaries, they lie on pages of that size, or the first bank above the
size of a page is refused with its need. -/
theorem ofBanks_paged_of_boundary
    (h : ofBanks banks (bus.rounded (.boundary size)) = .ok m) :
    ofBanks banks (bus.rounded (.paged size)) = .ok m ∨
      ∃ i b placed need, banks[i]? = some b ∧ m.FirstAbove size i placed ∧
        need.toNat = bus.need b.registers ∧
        ofBanks banks (bus.rounded (.paged size)) = refuse (.pageOverflow b.name need size) := by
  obtain ⟨⟨hsound, hslot, hfit⟩, rfl⟩ := ofBanks_eq_ok_iff.1 h
  have hpaged := sound_paged_iff.2 hsound
  by_cases hpages : (bus.rounded (.paged size)).Fits banks
  · have hok := ofBanks_of_fits hpaged hslot hpages
    obtain ⟨-, hlayout⟩ := ofBanks_eq_ok_iff.1 (ofBanks_boundary_of_paged hok)
    rw [← hlayout]
    exact .inl hok
  refine .inr ?_
  obtain ⟨front, b, back, rfl, hfront, hmisfit⟩ := exists_first_misfit hpages
  have hprefix := hfit
  rw [List.append_cons] at hprefix
  obtain ⟨-, ⟨hwf, hnew⟩, hat⟩ := Fits.snoc_iff.1 hprefix.left
  have hend := hat.end_lt
  have hle := hat.need_le
  rw [base_rounded, total_rounded (hfront.extent_boundary hsound)] at hend
  rw [need_rounded] at hle
  have hneed : size.toNat < bus.need b.registers := by
    -- On its page the bank would end where it ends on boundaries, or below that.
    by_contra hge
    have hpage := le_extent_boundary hsound hwf
    refine hmisfit.elim (fun hnot => hnot ⟨hwf, hnew⟩) fun hnot => hnot ⟨?_, ?_⟩
    · rw [extent_paged, need_rounded]
      omega
    · rw [extent_paged, base_rounded]
      omega
  obtain ⟨placed, hfirst⟩ := exists_firstAbove hsound hfit hfront hneed
  refine ⟨front.length, b, placed, (bus.need b.registers).toUInt64, by simp, hfirst, ?_, ?_⟩
  · exact UInt64.toNat_ofNat_of_lt' (by simp only [UInt64.size]; omega)
  · exact ofBanks_paged_eq_refuse hpaged hslot hfront hwf hnew hend hneed

/-! ### Boundaries of one slot against slots -/

/-- A boundary of one slot passes the check where slots do: it is asked for after the slots. -/
lemma check_boundary_slotSize (bus : BusGeometry) :
    (bus.rounded (.boundary bus.slotSize)).check = (bus.rounded .slot).check := by
  by_cases hpow : bus.slotSize.isPowerOfTwo
  · have hround : checkRounding bus.slotSize (.boundary bus.slotSize)
        = checkRounding bus.slotSize .slot := by
      simp [checkRounding, hpow]
    simp only [check, slotSize_rounded, rounding_rounded, hround]
    rfl
  · have hfits (rounding : Rounding) : (bus.rounded rounding).slotFits = some false := if_neg hpow
    simp only [check, hfits, liftM, monadLift_some, Outcome.ok_bind, Bool.false_eq_true,
      not_false_eq_true, if_true, refuse_bind]
    rfl

lemma placeRegisters_rounded (bank : String) (start offset : UInt64) (registers : List Register) :
    placeRegisters (bus.rounded rounding) bank start offset registers
      = placeRegisters bus bank start offset registers := by
  induction registers generalizing offset with
  | nil => rfl
  | cons r registers ih =>
    simp only [placeRegisters, ih]
    rfl

lemma placeBank_boundary_slotSize (earlier : List String) (cursor : UInt64) (b : Bank) :
    placeBank (bus.rounded (.boundary bus.slotSize)) earlier cursor b
      = placeBank (bus.rounded .slot) earlier cursor b := by
  unfold placeBank
  simp only [placeRegisters_rounded]
  rfl

lemma placeBanks_boundary_slotSize (earlier : List String) (cursor : UInt64) (banks : List Bank) :
    placeBanks (bus.rounded (.boundary bus.slotSize)) earlier cursor banks
      = placeBanks (bus.rounded .slot) earlier cursor banks := by
  induction banks generalizing earlier cursor with
  | nil => rfl
  | cons b banks ih =>
    simp only [placeBanks, placeBank_boundary_slotSize, ih]

/-- Boundaries of one slot are slots, also where the placement fails and in what it reports. -/
theorem ofBanksLogged_boundary_slotSize (banks : List Bank) (bus : BusGeometry) :
    ofBanksLogged banks (bus.rounded (.boundary bus.slotSize))
      = ofBanksLogged banks (bus.rounded .slot) := by
  unfold ofBanksLogged
  rw [check_boundary_slotSize, placeBanks_boundary_slotSize]
  rfl

/-- **The roundings agree.** A map of pages is the map of boundaries of that size. Where boundaries
give a map, pages do exactly if every bank of it takes one page, and otherwise the first bank that
takes more is refused with what it needs. Boundaries of one slot are slots. -/
theorem ofBanks_roundings_agree (banks : List Bank) (bus : BusGeometry) (size : UInt64) :
    (∀ m, ofBanks banks (bus.rounded (.paged size)) = .ok m →
      ofBanks banks (bus.rounded (.boundary size)) = .ok m) ∧
    (∀ m, ofBanks banks (bus.rounded (.boundary size)) = .ok m →
      ((∃ pages, ofBanks banks (bus.rounded (.paged size)) = .ok pages) ↔
        ∀ placed ∈ m.banks, placed.size = size) ∧
      (¬ (∀ placed ∈ m.banks, placed.size = size) →
        ∃ i b placed need, banks[i]? = some b ∧ m.FirstAbove size i placed ∧
          need.toNat = bus.need b.registers ∧
          ofBanks banks (bus.rounded (.paged size))
            = refuse (.pageOverflow b.name need size))) ∧
    ofBanksLogged banks (bus.rounded (.boundary bus.slotSize))
      = ofBanksLogged banks (bus.rounded .slot) := by
  refine ⟨fun m => ofBanks_boundary_of_paged, ?_, ofBanksLogged_boundary_slotSize banks bus⟩
  intro m hm
  rcases ofBanks_paged_of_boundary hm with hpaged | ⟨i, b, placed, need, hb, hfirst, hneed, hrefuse⟩
  · have hsizes := size_eq_of_paged hpaged
    exact ⟨iff_of_true ⟨m, hpaged⟩ hsizes, fun hnot => absurd hsizes hnot⟩
  · have hsizes : ¬ ∀ placed ∈ m.banks, placed.size = size := by
      intro hall
      have habove := hfirst.above
      rw [hall placed (List.mem_of_getElem? hfirst.bank), UInt64.lt_iff_toNat_lt] at habove
      omega
    refine ⟨iff_of_false ?_ hsizes, fun _ => ⟨i, b, placed, need, hb, hfirst, hneed, hrefuse⟩⟩
    rintro ⟨pages, hpages⟩
    rw [hrefuse] at hpages
    exact refuse_ne_ok _ _ hpages

/-- The registers of the second bank need twelve bytes, which are two boundaries and no page. -/
theorem ofBanks_roundings_agree_small_page :
    let banks : List Bank := [⟨"a", [⟨"r", 8, .storage, [], 0, none⟩]⟩,
      ⟨"b", [⟨"s", 64, .storage, [], 0, none⟩, ⟨"t", 8, .status, [], 0, none⟩]⟩]
    let m : AddressMap := ⟨0, 24, [⟨"a", 0, 8, [⟨"r", .storage, 8, 0, [⟨0, 0, 8⟩]⟩]⟩,
      ⟨"b", 8, 16, [⟨"s", .storage, 64, 8, [⟨8, 32, 32⟩, ⟨12, 0, 32⟩]⟩,
        ⟨"t", .status, 8, 16, [⟨16, 0, 8⟩]⟩]⟩]⟩
    ofBanks banks (BusGeometry.rounded {} (.boundary 8)) = .ok m ∧
      ofBanks banks (BusGeometry.rounded {} (.paged 8)) = refuse (.pageOverflow "b" 12 8) := by
  intro banks m
  have hm : ofBanks banks (BusGeometry.rounded {} (.boundary 8)) = .ok m := by
    decide +kernel
  obtain ⟨-, hsizes⟩ := (ofBanks_roundings_agree banks {} 8).2.1 m hm
  obtain ⟨i, b, placed, need, hb, hfirst, hneed, hrefuse⟩ := hsizes (by decide)
  refine ⟨hm, ?_⟩
  have habove := hfirst.above
  rcases i with _ | _ | i
  · obtain rfl := Option.some.inj hfirst.bank
    exact absurd habove (by decide)
  · obtain rfl := Option.some.inj hb
    obtain rfl : need = 12 := UInt64.toNat_inj.1 hneed
    exact hrefuse
  · exact absurd hb (by simp [banks])

end AddressMap

end CsrMap
