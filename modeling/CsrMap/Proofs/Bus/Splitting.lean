import CsrMap.Proofs.Bus.Gather
import Mathlib.Algebra.Order.Floor.Div

/-!
Registers split among words of any width.

Whatever the width of a register and of the bus, the words carry intervals of its bits that are
not empty, do not meet and leave no bit out; the order of the lanes only turns their list round.
So the words of a value give back all of its bits below the width, and gathered words give back
all of their bits that have a place in the register.
-/

namespace CsrMap

namespace Slice

/-- Which bits of the register the slice carries: the lowest, and how many. -/
def bitRange (s : Slice) : UInt32 × UInt32 := (s.shift, s.bits)

/-- No bit is carried by both slices. -/
def Apart (s t : Slice) : Prop := ∀ k, ¬ (s.Carries k ∧ t.Carries k)

variable {slices : List Slice} {i j k : ℕ}

/-- Of slices that are apart only one carries a bit. -/
lemma eq_of_pairwise_apart (h : slices.Pairwise Apart) {hi : i < slices.length}
    {hj : j < slices.length} (hik : slices[i].Carries k) (hjk : slices[j].Carries k) : i = j := by
  rw [List.pairwise_iff_getElem] at h
  rcases Nat.lt_trichotomy i j with hlt | heq | hgt
  · exact absurd ⟨hik, hjk⟩ (h i j hi hj hlt k)
  · exact heq
  · exact absurd ⟨hjk, hik⟩ (h j i hj hi hgt k)

end Slice

open UInt64 Slice

variable {slices : List Slice} {words : List UInt64}

/-- A value gathered from slices that are apart has the bits of each word where its slice lies. -/
lemma exists_gather_bit (hin : ∀ s ∈ slices, s.InWord) (hapart : slices.Pairwise Apart)
    (words : List UInt64) :
    ∃ v, gather slices words = some v ∧
      ∀ i (hs : i < slices.length) (hw : i < words.length) (k : ℕ), slices[i].Carries k →
        v.bit k = words[i].bit (k - slices[i].shift.toNat) := by
  obtain ⟨v, hv, hbit⟩ := gather_eq_some hin words
  refine ⟨v, hv, ?_⟩
  intro i hs hw k hcarries
  rw [hbit, Bool.eq_iff_iff, List.any_eq_true]
  constructor
  · rintro ⟨⟨t, w⟩, hmem, hgives⟩
    obtain ⟨j, hj, heq⟩ := List.mem_iff_getElem.1 hmem
    rw [List.length_zip] at hj
    rw [List.getElem_zip] at heq
    obtain ⟨rfl, rfl⟩ := Prod.mk.inj heq
    simp only [Bool.and_eq_true, decide_eq_true_eq] at hgives
    -- The word that gives the bit is the one whose slice carries it.
    obtain rfl := eq_of_pairwise_apart hapart hcarries hgives.1
    exact hgives.2
  · intro hgives
    have hzip : i < (slices.zip words).length := by
      rw [List.length_zip]
      omega
    refine ⟨(slices[i], words[i]), ?_, ?_⟩
    · rw [← List.getElem_zip (h := hzip)]
      exact List.getElem_mem hzip
    · simp [hcarries, hgives]

/-- **Gathered words can be told apart again**, up to the bits that their slices do not carry. -/
theorem exists_gather_scatter (hin : ∀ s ∈ slices, s.InWord) (hapart : slices.Pairwise Apart)
    (hlen : words.length = slices.length) :
    ∃ v, gather slices words = some v ∧
      scatter slices v = some (List.zipWith (fun s w => w &&& s.mask) slices words) := by
  obtain ⟨v, hv, hbit⟩ := exists_gather_bit hin hapart words
  refine ⟨v, hv, ?_⟩
  have hscatter : scatter slices v = some (slices.map (·.part v)) :=
    mapM_eq_pure fun s hs => extract_eq_some (hin s hs) v
  rw [hscatter, Option.some.injEq]
  apply List.ext_getElem
  · simp [hlen]
  intro i hi hi'
  have hs : i < slices.length := by simpa using hi
  rw [List.getElem_map, List.getElem_zipWith]
  apply eq_of_bit_eq
  intro k hk
  rw [bit_part (hin _ (List.getElem_mem hs)), bit_and, mask, bit_lowBits]
  by_cases hlt : k < slices[i].bits.toNat
  · have hcarries : slices[i].Carries (k + slices[i].shift.toNat) := ⟨by omega, by omega⟩
    rw [hbit i hs (by omega) _ hcarries]
    simp [hlt, hk]
  · simp [hlt]

namespace BusGeometry

/-- The bus with its lanes in another order. -/
def inOrder (bus : BusGeometry) (order : LaneOrder) : BusGeometry := { bus with laneOrder := order }

/-- Slices split a register of `width` bits at `address`: there are as many as the width asks for,
each takes the next slot, and each bit of the register is in exactly one of them. -/
structure Splits (bus : BusGeometry) (width : UInt32) (address : UInt64) (slices : List Slice) :
    Prop where
  length : slices.length = width.toNat ⌈/⌉ bus.dataWidth.toNat
  address : ∀ i (hi : i < slices.length),
    slices[i].address.toNat = address.toNat + i * bus.slotSize.toNat
  bits_pos : ∀ s ∈ slices, 0 < s.bits.toNat
  apart : slices.Pairwise Slice.Apart
  covers : ∀ k, (∃ s ∈ slices, s.Carries k) ↔ k < width.toNat

/-- Scattering and gathering undo each other, for the bits that have a place on both sides. -/
structure RoundTrips (width : UInt32) (slices : List Slice) : Prop where
  value : ∀ v, ∃ words, scatter slices v = some words ∧
    gather slices words = some (v &&& lowBits width)
  words : ∀ words : List UInt64, words.length = slices.length → ∃ v, gather slices words = some v ∧
    scatter slices v = some (List.zipWith (fun s w => w &&& s.mask) slices words)

variable {bus : BusGeometry} {width : UInt32} {address : UInt64} {start i : ℕ}

@[simp] lemma dataWidth_inOrder (order : LaneOrder) :
    (bus.inOrder order).dataWidth = bus.dataWidth := rfl

@[simp] lemma wordCount_inOrder (order : LaneOrder) :
    (bus.inOrder order).wordCount width = bus.wordCount width := rfl

lemma wordCount_eq_ceilDiv (bus : BusGeometry) (width : UInt32) :
    bus.wordCount width = width.toNat ⌈/⌉ bus.dataWidth.toNat :=
  (Nat.ceilDiv_eq_add_pred_div _ _).symm

lemma bits_tile_pos (hpos : 0 < bus.dataWidth.toNat) (hi : i < bus.wordCount width) :
    0 < (bus.tile width start i).bits.toNat := by
  have hlt := lane_mul_lt hpos hi
  rw [toNat_bits_tile]
  omega

lemma pairwise_apart_tiles (hpos : 0 < bus.dataWidth.toNat) (width : UInt32) (start : ℕ) :
    (bus.tiles width start).Pairwise Slice.Apart := by
  rw [tiles, List.pairwise_map]
  apply List.pairwise_lt_range.imp_of_mem
  rintro i j hi hj hlt k ⟨hik, hjk⟩
  rw [List.mem_range] at hi hj
  have heq := eq_of_carries hpos hi hj hik hjk
  omega

lemma exists_carries_iff (hpos : 0 < bus.dataWidth.toNat) (width : UInt32) (start k : ℕ) :
    (∃ s ∈ bus.tiles width start, s.Carries k) ↔ k < width.toNat := by
  constructor
  · rintro ⟨s, hs, hc⟩
    obtain ⟨i, hi, rfl⟩ := mem_tiles.1 hs
    exact ((carries_tile_iff hpos hi).1 hc).2
  · intro hk
    obtain ⟨i, hi, hc⟩ := exists_carries hpos hk start
    exact ⟨_, mem_tiles.2 ⟨i, hi, rfl⟩, hc⟩

lemma splits_tiles (bus : BusGeometry) (hpos : 0 < bus.dataWidth.toNat)
    (hfit : ∀ i < bus.wordCount width, address.toNat + i * bus.slotSize.toNat < 2 ^ 64) :
    bus.Splits width address (bus.tiles width address.toNat) where
  length := by rw [length_tiles, wordCount_eq_ceilDiv]
  address i hi := by
    rw [length_tiles] at hi
    simp only [tiles, List.getElem_map, List.getElem_range]
    exact toNat_address_tile (hfit i hi)
  bits_pos s hs := by
    obtain ⟨i, hi, rfl⟩ := mem_tiles.1 hs
    exact bits_tile_pos hpos hi
  apart := pairwise_apart_tiles hpos width _
  covers := exists_carries_iff hpos width _

lemma roundTrips_tiles (bus : BusGeometry) (hpos : 0 < bus.dataWidth.toNat)
    (hwidth : width.toNat ≤ 64) (start : ℕ) : RoundTrips width (bus.tiles width start) := by
  have hin (s : Slice) (hs : s ∈ bus.tiles width start) : s.InWord :=
    inWord_of_mem_tiles hpos hwidth hs
  constructor
  case value =>
    intro v
    refine ⟨(bus.tiles width start).map (·.part v), ?_, gather_part hpos hwidth start v⟩
    exact mapM_eq_pure fun s hs => extract_eq_some (hin s hs) v
  case words =>
    intro words hlen
    exact exists_gather_scatter hin (pairwise_apart_tiles hpos width start) hlen

/-- The word that carries lane `i` has the same bits in both orders. -/
lemma bitRange_tile_inOrder (hi : i < bus.wordCount width) :
    ((bus.inOrder .lowFirst).tile width start i).bitRange
      = ((bus.inOrder .highFirst).tile width start (bus.wordCount width - 1 - i)).bitRange := by
  have hlane : (bus.inOrder .highFirst).lane (bus.wordCount width) (bus.wordCount width - 1 - i)
      = i := by
    show bus.wordCount width - 1 - (bus.wordCount width - 1 - i) = i
    omega
  unfold tile Slice.bitRange
  simp only [wordCount_inOrder, hlane, dataWidth_inOrder]
  rfl

/-- With the lowest lane first the words carry the same bits as with the highest first, the other
way round. -/
lemma map_bitRange_tiles (bus : BusGeometry) (width : UInt32) (start : ℕ) :
    ((bus.inOrder .lowFirst).tiles width start).map Slice.bitRange
      = (((bus.inOrder .highFirst).tiles width start).map Slice.bitRange).reverse := by
  apply List.ext_getElem
  · simp
  intro i hi hi'
  have hi : i < bus.wordCount width := by simpa using hi
  simp only [List.getElem_reverse, tiles, List.getElem_map, List.getElem_range, List.length_map,
    List.length_range, wordCount_inOrder]
  exact bitRange_tile_inOrder hi

/-- **Slices tile a register of any width on a bus of any width**, in both orders of the lanes, as
long as the addresses of its words stay below the top. The orders differ in the direction of the
list only, and the words of a register that fits in a value round-trip. -/
theorem slices_split (bus : BusGeometry) (width : UInt32) (address : UInt64)
    (hpos : 1 ≤ bus.dataWidth.toNat)
    (hfit : ∀ i < width.toNat ⌈/⌉ bus.dataWidth.toNat,
      address.toNat + i * bus.slotSize.toNat < 2 ^ 64) :
    ∃ split : LaneOrder → List Slice,
      (∀ order, (bus.inOrder order).slices width address = some (split order) ∧
        bus.Splits width address (split order) ∧
        (width.toNat ≤ 64 → RoundTrips width (split order))) ∧
      (split .lowFirst).map Slice.bitRange = ((split .highFirst).map Slice.bitRange).reverse := by
  rw [← wordCount_eq_ceilDiv] at hfit
  refine ⟨fun order => (bus.inOrder order).tiles width address.toNat, fun order => ⟨?_, ?_, ?_⟩,
    map_bitRange_tiles bus width address.toNat⟩
  · exact slices_eq_some hpos hfit
  · have hsplits := splits_tiles (bus.inOrder order) hpos hfit
    exact { hsplits with }
  · exact fun hwidth => roundTrips_tiles (bus.inOrder order) hpos hwidth address.toNat

/-- A bus of twelve bits with slots of five bytes: the words of 30 bits end just below the top. -/
theorem slices_split_below_top :
    (1 ≤ (12 : UInt32).toNat ∧ ∀ i < (30 : UInt32).toNat ⌈/⌉ (12 : UInt32).toNat,
      (0xfffffffffffffff5 : UInt64).toNat + i * (5 : UInt64).toNat < 2 ^ 64) ∧
    ∃ split : LaneOrder → List Slice,
      split .highFirst = [⟨0xfffffffffffffff5, 24, 6⟩, ⟨0xfffffffffffffffa, 12, 12⟩,
        ⟨0xffffffffffffffff, 0, 12⟩] ∧
      split .lowFirst = [⟨0xfffffffffffffff5, 0, 12⟩, ⟨0xfffffffffffffffa, 12, 12⟩,
        ⟨0xffffffffffffffff, 24, 6⟩] ∧
      ∀ order, BusGeometry.Splits { dataWidth := 12, slotSize := 5 } 30 0xfffffffffffffff5
        (split order) ∧ RoundTrips 30 (split order) := by
  have hpos : 1 ≤ (12 : UInt32).toNat := by decide
  have hfit : ∀ i < (30 : UInt32).toNat ⌈/⌉ (12 : UInt32).toNat,
      (0xfffffffffffffff5 : UInt64).toNat + i * (5 : UInt64).toNat < 2 ^ 64 := by decide +kernel
  obtain ⟨split, hsplit, -⟩ := slices_split { dataWidth := 12, slotSize := 5 } 30
    0xfffffffffffffff5 hpos hfit
  refine ⟨⟨hpos, hfit⟩, split, ?_, ?_, fun order => ⟨(hsplit order).2.1, ?_⟩⟩
  · exact Option.some.inj ((hsplit .highFirst).1.symm.trans (by decide +kernel))
  · exact Option.some.inj ((hsplit .lowFirst).1.symm.trans (by decide +kernel))
  · exact (hsplit order).2.2 (by decide)

end BusGeometry

end CsrMap
