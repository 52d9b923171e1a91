import CsrMap.Proofs.Bus.Tiling

/-!
Splitting a value into the words of its tiles and putting the words together again.

Each bit below the width belongs to exactly one tile, so a value that fits in the register is
known from its words, and gathering the words of a value gives the value back.
-/

namespace CsrMap

open UInt64

/-- The bits of gathered words: each word gives the bits that its slice carries. -/
lemma gather_eq_some {slices : List Slice} (h : ∀ s ∈ slices, s.InWord) (words : List UInt64) :
    ∃ v, gather slices words = some v ∧ ∀ i, v.bit i
      = (slices.zip words).any fun (s, w) => decide (s.Carries i) && w.bit (i - s.shift.toNat) := by
  suffices fold : ∀ (pairs : List (Slice × UInt64)) (start : UInt64),
      (∀ p ∈ pairs, p.1.InWord) → ∃ v,
        pairs.foldlM (fun value (s, word) => (value ||| ·) <$> s.place word) start = some v ∧
        ∀ i, v.bit i = (start.bit i || pairs.any fun (s, w) =>
          decide (s.Carries i) && w.bit (i - s.shift.toNat)) by
    obtain ⟨v, hv, hbit⟩ := fold (slices.zip words) 0 fun p hp => h _ (List.of_mem_zip hp).1
    exact ⟨v, hv, fun i => by rw [hbit, bit_zero, Bool.false_or]⟩
  intro pairs
  induction pairs with
  | nil => exact fun start _ => ⟨start, rfl, fun i => by simp⟩
  | cons p pairs ih =>
    intro start hp
    obtain ⟨s, word⟩ := p
    have hin : s.InWord := hp (s, word) (by simp)
    obtain ⟨v, hv, hbit⟩ := ih (start ||| ((word &&& s.mask) <<< s.shift.toUInt64))
      fun q hq => hp q (by simp [hq])
    refine ⟨v, ?_, fun i => ?_⟩
    · simp only [List.foldlM_cons, Slice.place_eq_some hin]
      exact hv
    · rw [hbit, bit_or, Slice.bit_place hin, List.any_cons, Bool.or_assoc]

namespace BusGeometry

variable {bus : BusGeometry} {width : UInt32} {start i j k : ℕ} {v w : UInt64}

lemma carries_tile_iff (hpos : 0 < bus.dataWidth.toNat) (hi : i < bus.wordCount width) :
    (bus.tile width start i).Carries k ↔
      bus.lane (bus.wordCount width) i = k / bus.dataWidth.toNat ∧ k < width.toNat := by
  have hlt := lane_mul_lt hpos hi
  rw [Slice.Carries, toNat_shift_tile hpos hi, toNat_bits_tile, eq_comm,
    Nat.div_eq_iff hpos]
  omega

lemma inWord_tile (hpos : 0 < bus.dataWidth.toNat) (hw : width.toNat ≤ 64)
    (hi : i < bus.wordCount width) : (bus.tile width start i).InWord := by
  have hlt := lane_mul_lt hpos hi
  rw [Slice.InWord, toNat_shift_tile hpos hi, toNat_bits_tile]
  omega

lemma inWord_of_mem_tiles (hpos : 0 < bus.dataWidth.toNat) (hw : width.toNat ≤ 64)
    {s : Slice} (hs : s ∈ bus.tiles width start) : s.InWord := by
  obtain ⟨i, hi, rfl⟩ := mem_tiles.1 hs
  exact inWord_tile hpos hw hi

/-- Each bit of the register is carried by some tile. -/
lemma exists_carries (hpos : 0 < bus.dataWidth.toNat) (hk : k < width.toNat) (start : ℕ) :
    ∃ i < bus.wordCount width, (bus.tile width start i).Carries k := by
  have hlane : k / bus.dataWidth.toNat < bus.wordCount width :=
    (lt_wordCount_iff hpos).2 ((Nat.div_mul_le_self _ _).trans_lt hk)
  obtain ⟨i, hi, heq⟩ := exists_lane_eq hlane
  exact ⟨i, hi, (carries_tile_iff hpos hi).2 ⟨heq, hk⟩⟩

/-- No bit is carried by two tiles. -/
lemma eq_of_carries (hpos : 0 < bus.dataWidth.toNat) (hi : i < bus.wordCount width)
    (hj : j < bus.wordCount width) (hik : (bus.tile width start i).Carries k)
    (hjk : (bus.tile width start j).Carries k) : i = j := by
  by_contra hij
  rw [carries_tile_iff hpos hi] at hik
  rw [carries_tile_iff hpos hj] at hjk
  exact lane_ne hi hj hij (hik.1.trans hjk.1.symm)

/-- A value that fits in the register is known from the words of its tiles. -/
lemma eq_of_part_eq (hpos : 0 < bus.dataWidth.toNat) (hw : width.toNat ≤ 64)
    (hv : v ≤ lowBits width) (hv' : w ≤ lowBits width)
    (h : ∀ s ∈ bus.tiles width start, s.part v = s.part w) : v = w := by
  refine eq_of_bit_eq fun k _ => ?_
  rcases Nat.lt_or_ge k width.toNat with hk | hk
  · obtain ⟨i, hi, hc⟩ := exists_carries hpos hk start
    have hpart := h _ (mem_tiles.2 ⟨i, hi, rfl⟩)
    exact (Slice.part_eq_part_iff (inWord_tile hpos hw hi)).1 hpart k hc
  · rw [le_lowBits_iff.1 hv k hk, le_lowBits_iff.1 hv' k hk]

/-- The bits of the lowest `n` lanes. -/
lemma sum_lanes (bus : BusGeometry) (width : UInt32) (n : ℕ) :
    ((List.range n).map fun lane => min bus.dataWidth.toNat
      (width.toNat - lane * bus.dataWidth.toNat)).sum
      = min (n * bus.dataWidth.toNat) width.toNat := by
  induction n with
  | zero => simp
  | succ n ih =>
    rw [List.range_succ, List.map_append, List.sum_append, ih, List.map_singleton,
      List.sum_singleton, Nat.succ_mul]
    omega

/-- The tiles of a register have as many bits together as the register. -/
lemma sum_bits_tiles (hpos : 0 < bus.dataWidth.toNat) (width : UInt32) (start : ℕ) :
    ((bus.tiles width start).map (·.bits.toNat)).sum = width.toNat := by
  have hcover : width.toNat ≤ bus.wordCount width * bus.dataWidth.toNat :=
    Nat.le_of_not_lt fun hlt => Nat.lt_irrefl _ ((lt_wordCount_iff hpos).2 hlt)
  have hsum := sum_lanes bus width (bus.wordCount width)
  rw [Nat.min_eq_right hcover] at hsum
  rw [tiles, List.map_map, ← hsum]
  cases ho : bus.laneOrder with
  | lowFirst =>
    refine congrArg List.sum (List.map_congr_left fun i _ => ?_)
    simp only [Function.comp_apply, toNat_bits_tile, lane, ho]
  | highFirst =>
    -- The lanes come in descending order.
    rw [← List.sum_reverse, ← List.map_reverse, List.range_eq_range', List.reverse_range',
      ← List.range_eq_range', List.map_map]
    refine congrArg List.sum (List.map_congr_left fun i hi => ?_)
    have hi := List.mem_range.1 hi
    simp only [Function.comp_apply, toNat_bits_tile, lane, ho]
    congr 3
    omega

/-- Gathering the words of a value gives its bits below the width. -/
theorem gather_part (hpos : 0 < bus.dataWidth.toNat) (hw : width.toNat ≤ 64) (start : ℕ)
    (v : UInt64) :
    gather (bus.tiles width start) ((bus.tiles width start).map (·.part v))
      = some (v &&& lowBits width) := by
  have hin : ∀ s ∈ bus.tiles width start, s.InWord := fun s hs => inWord_of_mem_tiles hpos hw hs
  obtain ⟨x, hx, hbit⟩ := gather_eq_some hin ((bus.tiles width start).map (·.part v))
  rw [hx, Option.some.injEq]
  refine eq_of_bit_eq fun k h64 => ?_
  rw [hbit, ← List.map_prod_left_eq_zip, bit_and, bit_lowBits, List.any_map, Bool.eq_iff_iff,
    List.any_eq_true]
  simp only [Function.comp_apply, Bool.and_eq_true, decide_eq_true_eq]
  constructor
  · rintro ⟨s, hs, hc, hb⟩
    obtain ⟨i, hi, rfl⟩ := mem_tiles.1 hs
    rw [Slice.bit_part (hin _ hs), Nat.sub_add_cancel hc.1, Bool.and_eq_true] at hb
    exact ⟨hb.2, ((carries_tile_iff hpos hi).1 hc).2, h64⟩
  · rintro ⟨hb, hk, -⟩
    obtain ⟨i, hi, hc⟩ := exists_carries hpos hk start
    have hs : bus.tile width start i ∈ bus.tiles width start := mem_tiles.2 ⟨i, hi, rfl⟩
    have hlt : k - (bus.tile width start i).shift.toNat
        < (bus.tile width start i).bits.toNat := by
      have := hc.1
      have := hc.2
      omega
    refine ⟨_, hs, hc, ?_⟩
    rw [Slice.bit_part (hin _ hs), Nat.sub_add_cancel hc.1, hb]
    simp [hlt]

end BusGeometry

end CsrMap
