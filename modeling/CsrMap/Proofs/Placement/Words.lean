import CsrMap.Proofs.Placement.Layout

/-!
The words of a layout, in the order of their addresses.

A register, a bank and a whole map each hold a list of words. All three are told by one
invariant, `SlotsWithin`, which is kept where lists of words follow one another.
-/

namespace CsrMap

/-- The words of all registers of a bank. -/
def PlacedBank.words (b : PlacedBank) : List Slice := b.registers.flatMap (·.words)

/-- The words of all banks of a map. -/
def AddressMap.words (m : AddressMap) : List Slice := m.banks.flatMap (·.words)

/-- Words at whole slots, each behind the one before it, from `lo` on and ended at `hi`. -/
structure SlotsWithin (slotSize lo hi : ℕ) (words : List Slice) : Prop where
  ascending : words.Pairwise fun s t => s.address.toNat + slotSize ≤ t.address.toNat
  lower : ∀ s ∈ words, lo ≤ s.address.toNat
  upper : ∀ s ∈ words, s.address.toNat + slotSize ≤ hi
  aligned : ∀ s ∈ words, slotSize ∣ s.address.toNat

namespace SlotsWithin

variable {slotSize lo mid hi top : ℕ} {front back : List Slice}

lemma nil (slotSize lo hi : ℕ) : SlotsWithin slotSize lo hi [] :=
  ⟨List.Pairwise.nil, nofun, nofun, nofun⟩

lemma append (hfront : SlotsWithin slotSize lo mid front) (hback : SlotsWithin slotSize mid hi back)
    (hlo : lo ≤ mid) (hhi : mid ≤ hi) : SlotsWithin slotSize lo hi (front ++ back) where
  ascending := by
    rw [List.pairwise_append]
    refine ⟨hfront.ascending, hback.ascending, fun s hs t ht => ?_⟩
    exact (hfront.upper s hs).trans (hback.lower t ht)
  lower s hs := by
    rcases List.mem_append.1 hs with hs | hs
    · exact hfront.lower s hs
    · exact hlo.trans (hback.lower s hs)
  upper s hs := by
    rcases List.mem_append.1 hs with hs | hs
    · exact (hfront.upper s hs).trans hhi
    · exact hback.upper s hs
  aligned s hs := by
    rcases List.mem_append.1 hs with hs | hs
    · exact hfront.aligned s hs
    · exact hback.aligned s hs

lemma mono (h : SlotsWithin slotSize lo hi front) (hle : hi ≤ top) :
    SlotsWithin slotSize lo top front :=
  ⟨h.ascending, h.lower, fun s hs => (h.upper s hs).trans hle, h.aligned⟩

end SlotsWithin

namespace BusGeometry

variable {bus : BusGeometry} {start : ℕ} {r : Register} {b : Bank}

/-- The addresses of the words of a register whose end is no more than the top. -/
lemma address_tile {i : ℕ} (h : bus.Sound) (hi : i < bus.wordCount r.width)
    (hend : start + bus.span r ≤ 2 ^ 64) :
    (bus.tile r.width start i).address.toNat = start + i * bus.slotSize.toNat ∧
      start + i * bus.slotSize.toNat + bus.slotSize.toNat ≤ start + bus.span r := by
  have hpos := h.slotSize_pos
  have hle := Nat.mul_le_mul_right bus.slotSize.toNat (Nat.succ_le_of_lt hi)
  rw [Nat.succ_mul] at hle
  rw [span] at hend ⊢
  exact ⟨toNat_address_tile (by omega), by omega⟩

lemma slotsWithin_tiles (h : bus.Sound) (hstart : bus.slotSize.toNat ∣ start)
    (hend : start + bus.span r ≤ 2 ^ 64) :
    SlotsWithin bus.slotSize.toNat start (start + bus.span r) (bus.tiles r.width start) where
  ascending := by
    rw [tiles, List.pairwise_map]
    refine (List.pairwise_lt_range (n := bus.wordCount r.width)).imp_of_mem fun hi hj hlt => ?_
    have hle := Nat.mul_le_mul_right bus.slotSize.toNat (Nat.succ_le_of_lt hlt)
    rw [Nat.succ_mul] at hle
    rw [(address_tile h (List.mem_range.1 hi) hend).1,
      (address_tile h (List.mem_range.1 hj) hend).1]
    omega
  lower s hs := by
    obtain ⟨i, hi, rfl⟩ := mem_tiles.1 hs
    rw [(address_tile h hi hend).1]
    exact Nat.le_add_right _ _
  upper s hs := by
    obtain ⟨i, hi, rfl⟩ := mem_tiles.1 hs
    rw [(address_tile h hi hend).1]
    exact (address_tile h hi hend).2
  aligned s hs := by
    obtain ⟨i, hi, rfl⟩ := mem_tiles.1 hs
    rw [(address_tile h hi hend).1]
    exact Nat.dvd_add hstart (Nat.dvd_mul_left _ _)

lemma slotsWithin_registersFrom (h : bus.Sound) (hstart : bus.slotSize.toNat ∣ start)
    (registers : List Register) (hend : start + bus.need registers ≤ 2 ^ 64) :
    SlotsWithin bus.slotSize.toNat start (start + bus.need registers)
      ((bus.registersFrom start registers).flatMap (·.words)) := by
  induction registers generalizing start with
  | nil => exact SlotsWithin.nil _ _ _
  | cons r registers ih =>
    rw [need_cons] at hend ⊢
    have htail := ih (Nat.dvd_add hstart (bus.slotSize_dvd_span r)) (by omega)
    rw [Nat.add_assoc] at htail
    rw [registersFrom, List.flatMap_cons]
    exact (slotsWithin_tiles h hstart (by omega)).append htail (Nat.le_add_right _ _) (by omega)

lemma slotsWithin_bankAt (h : bus.Sound) (hstart : bus.slotSize.toNat ∣ start)
    (hfit : bus.FitsAt start b) :
    SlotsWithin bus.slotSize.toNat start (start + bus.extent b) (bus.bankAt start b).words := by
  have hneed := hfit.need_le
  have hend := hfit.end_lt
  exact (slotsWithin_registersFrom h hstart b.registers (by omega)).mono (by omega)

lemma slotsWithin_banksFrom (h : bus.Sound) (hstart : bus.slotSize.toNat ∣ start)
    (banks : List Bank) (hneed : ∀ b ∈ banks, bus.need b.registers ≤ bus.extent b)
    (hend : start + bus.total banks < 2 ^ 64) :
    SlotsWithin bus.slotSize.toNat start (start + bus.total banks)
      ((bus.banksFrom start banks).flatMap (·.words)) := by
  induction banks generalizing start with
  | nil => exact SlotsWithin.nil _ _ _
  | cons b banks ih =>
    obtain ⟨hb, hneed⟩ := List.forall_mem_cons.1 hneed
    rw [total_cons] at hend ⊢
    have hdvd := Nat.dvd_add hstart (h.slotSize_dvd.trans (bus.roundingUnit_dvd_extent b))
    have htail := ih hdvd hneed (by omega)
    rw [Nat.add_assoc] at htail
    rw [banksFrom, List.flatMap_cons]
    exact (slotsWithin_bankAt h hstart ⟨hb, by omega⟩).append htail (Nat.le_add_right _ _)
      (by omega)

end BusGeometry

end CsrMap
