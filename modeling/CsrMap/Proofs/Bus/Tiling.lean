import CsrMap.Proofs.Bus.Geometry
import CsrMap.Proofs.Word.Bits
import Mathlib.Data.List.Basic

/-!
How the words of a bus tile the bits of a register.

`tiles` are the slices of a register in unbounded numbers. The words that the bus computes are
these, and there are none where an address passes the top. Each bit of the register belongs to
exactly one tile.
-/

namespace CsrMap

/-- Steps that all have a value give the list of the values. -/
lemma mapM_eq_pure {m : Type → Type} [Monad m] [LawfulMonad m] {α β : Type} {f : α → m β}
    {g : α → β} {xs : List α} (h : ∀ x ∈ xs, f x = pure (g x)) : xs.mapM f = pure (xs.map g) := by
  induction xs with
  | nil => rw [List.mapM_nil, List.map_nil]
  | cons x xs ih =>
    rw [List.mapM_cons, h x (by simp), ih fun y hy => h y (by simp [hy])]
    simp only [pure_bind, List.map_cons]

/-- One step without a value leaves none for the whole. -/
lemma mapM_eq_none {α β : Type} {f : α → Option β} {xs : List α} {x : α} (hx : x ∈ xs)
    (h : f x = none) : xs.mapM f = none := by
  induction xs with
  | nil => simp at hx
  | cons y ys ih =>
    rw [List.mapM_cons]
    rcases List.mem_cons.1 hx with rfl | hx
    · rw [h]
      rfl
    · rw [ih hx]
      cases f y <;> rfl

/-- Rounding a quotient up changes nothing where the division leaves no rest. -/
lemma ceilDiv_of_mod_eq_zero {n d : ℕ} (hd : 0 < d) (h : n % d = 0) :
    (n + d - 1) / d = n / d := by
  have hn := Nat.div_add_mod n d
  refine Nat.div_eq_of_lt_le ?_ ?_
  · rw [Nat.mul_comm]
    omega
  · rw [Nat.succ_mul, Nat.mul_comm]
    omega

lemma ceilDiv_of_mod_ne_zero {n d : ℕ} (hd : 0 < d) (h : n % d ≠ 0) :
    (n + d - 1) / d = n / d + 1 := by
  have hn := Nat.div_add_mod n d
  have hm := Nat.mod_lt n hd
  refine Nat.div_eq_of_lt_le ?_ ?_
  · rw [Nat.succ_mul, Nat.mul_comm]
    omega
  · rw [Nat.succ_mul, Nat.succ_mul, Nat.mul_comm]
    omega

namespace BusGeometry

/-- How many words carry `width` bits. -/
def wordCount (bus : BusGeometry) (width : UInt32) : ℕ :=
  (width.toNat + bus.dataWidth.toNat - 1) / bus.dataWidth.toNat

/-- The lane of word number `index` of `count`; lane zero holds the lowest bits. -/
def lane (bus : BusGeometry) (count index : ℕ) : ℕ :=
  match bus.laneOrder with
  | .highFirst => count - 1 - index
  | .lowFirst => index

/-- Word number `index` of a register of `width` bits at `address`. -/
def tile (bus : BusGeometry) (width : UInt32) (address index : ℕ) : Slice :=
  let shift := bus.lane (bus.wordCount width) index * bus.dataWidth.toNat
  ⟨(address + index * bus.slotSize.toNat).toUInt64, shift.toUInt32,
    (min bus.dataWidth.toNat (width.toNat - shift)).toUInt32⟩

def tiles (bus : BusGeometry) (width : UInt32) (address : ℕ) : List Slice :=
  (List.range (bus.wordCount width)).map (bus.tile width address)

variable {bus : BusGeometry} {width : UInt32} {address : UInt64} {i j k : ℕ}

@[simp] lemma length_tiles (bus : BusGeometry) (width : UInt32) (start : ℕ) :
    (bus.tiles width start).length = bus.wordCount width := by
  simp [tiles]

lemma mem_tiles {start : ℕ} {s : Slice} :
    s ∈ bus.tiles width start ↔ ∃ i < bus.wordCount width, bus.tile width start i = s := by
  simp [tiles]

lemma lt_wordCount_iff (hpos : 0 < bus.dataWidth.toNat) :
    k < bus.wordCount width ↔ k * bus.dataWidth.toNat < width.toNat := by
  rw [wordCount, ← Nat.succ_le_iff, Nat.le_div_iff_mul_le hpos, Nat.succ_mul]
  omega

lemma wordCount_le (hpos : 0 < bus.dataWidth.toNat) : bus.wordCount width ≤ width.toNat := by
  by_contra hlt
  have := (lt_wordCount_iff hpos).1 (Nat.lt_of_not_le hlt)
  exact absurd this (Nat.not_lt.2 (Nat.le_mul_of_pos_right _ hpos))

lemma wordCount_lt (hpos : 0 < bus.dataWidth.toNat) : bus.wordCount width < 2 ^ 32 :=
  (wordCount_le hpos).trans_lt width.toNat_lt

lemma wordCount_pos (hpos : 0 < bus.dataWidth.toNat) (hw : 0 < width.toNat) :
    0 < bus.wordCount width :=
  (lt_wordCount_iff hpos).2 (by omega)

lemma toNat_wordCount (hpos : 0 < bus.dataWidth.toNat) :
    (bus.wordCount width).toUInt32.toNat = bus.wordCount width :=
  UInt32.toNat_ofNat_of_lt' (wordCount_lt hpos)

lemma lane_lt (hi : i < bus.wordCount width) :
    bus.lane (bus.wordCount width) i < bus.wordCount width := by
  unfold lane
  split <;> omega

/-- Different words of a register carry different lanes. -/
lemma lane_ne (hi : i < bus.wordCount width) (hj : j < bus.wordCount width) (hij : i ≠ j) :
    bus.lane (bus.wordCount width) i ≠ bus.lane (bus.wordCount width) j := by
  unfold lane
  split <;> omega

/-- Each lane is carried by some word. -/
lemma exists_lane_eq (hk : k < bus.wordCount width) :
    ∃ i < bus.wordCount width, bus.lane (bus.wordCount width) i = k := by
  cases h : bus.laneOrder with
  | highFirst => exact ⟨bus.wordCount width - 1 - k, by omega, by simp only [lane, h]; omega⟩
  | lowFirst => exact ⟨k, hk, by simp only [lane, h]⟩

lemma lane_mul_lt (hpos : 0 < bus.dataWidth.toNat) (hi : i < bus.wordCount width) :
    bus.lane (bus.wordCount width) i * bus.dataWidth.toNat < width.toNat :=
  (lt_wordCount_iff hpos).1 (lane_lt hi)

lemma toNat_shift_tile (hpos : 0 < bus.dataWidth.toNat) (hi : i < bus.wordCount width)
    (start : ℕ) : (bus.tile width start i).shift.toNat
      = bus.lane (bus.wordCount width) i * bus.dataWidth.toNat :=
  UInt32.toNat_ofNat_of_lt' ((lane_mul_lt hpos hi).trans width.toNat_lt)

lemma toNat_bits_tile (bus : BusGeometry) (width : UInt32) (start i : ℕ) :
    (bus.tile width start i).bits.toNat
      = min bus.dataWidth.toNat
          (width.toNat - bus.lane (bus.wordCount width) i * bus.dataWidth.toNat) :=
  UInt32.toNat_ofNat_of_lt' ((min_le_left _ _).trans_lt bus.dataWidth.toNat_lt)

lemma toNat_address_tile {start : ℕ} (h : start + i * bus.slotSize.toNat < 2 ^ 64) :
    (bus.tile width start i).address.toNat = start + i * bus.slotSize.toNat :=
  UInt64.toNat_ofNat_of_lt' h

/-! ### The words that the bus computes -/

lemma countWords_eq (hpos : 0 < bus.dataWidth.toNat) :
    bus.countWords width = some (bus.wordCount width).toUInt32 := by
  have hne : bus.dataWidth ≠ 0 := by
    rintro h0
    simp [h0] at hpos
  have hzero : width % bus.dataWidth = 0 ↔ width.toNat % bus.dataWidth.toNat = 0 := by
    rw [← UInt32.toNat_inj, UInt32.toNat_mod]
    rfl
  have hlt : bus.wordCount width < 2 ^ 32 := wordCount_lt hpos
  rw [countWords, UInt32.ceilDiv?, if_neg hne, Option.some.injEq, ← UInt32.toNat_inj,
    toNat_wordCount hpos]
  rw [wordCount] at hlt ⊢
  split
  · rename_i h
    rw [ceilDiv_of_mod_eq_zero hpos (hzero.1 h), UInt32.toNat_div]
  · rename_i h
    rw [ceilDiv_of_mod_ne_zero hpos (mt hzero.2 h)] at hlt ⊢
    rw [UInt32.toNat_add, UInt32.toNat_div, UInt32.toNat_one, Nat.mod_eq_of_lt hlt]

lemma toNat_index (hpos : 0 < bus.dataWidth.toNat) (hi : i < bus.wordCount width) :
    i.toUInt32.toNat = i := UInt32.toNat_ofNat_of_lt' (hi.trans (wordCount_lt hpos))

/-- The lane of a word, as the bus counts it. -/
lemma lane_eq_some (hpos : 0 < bus.dataWidth.toNat) (hi : i < bus.wordCount width) :
    (match bus.laneOrder with
      | .highFirst => (bus.wordCount width).toUInt32.sub? 1 >>= (·.sub? i.toUInt32)
      | .lowFirst => pure i.toUInt32)
        = some (bus.lane (bus.wordCount width) i).toUInt32 := by
  have hlt : bus.wordCount width < 2 ^ 32 := wordCount_lt hpos
  cases ho : bus.laneOrder with
  | highFirst =>
    have hlane : bus.lane (bus.wordCount width) i = bus.wordCount width - 1 - i := by
      simp only [lane, ho]
    have hl : (bus.lane (bus.wordCount width) i).toUInt32.toNat
        = bus.lane (bus.wordCount width) i := UInt32.toNat_ofNat_of_lt' ((lane_lt hi).trans hlt)
    have hlast : (bus.wordCount width - 1).toUInt32.toNat = bus.wordCount width - 1 :=
      UInt32.toNat_ofNat_of_lt' (by simp only [UInt32.size]; omega)
    have hsub : (bus.wordCount width).toUInt32.sub? 1
        = some (bus.wordCount width - 1).toUInt32 := by
      rw [UInt32.sub?_eq_some_iff, toNat_wordCount hpos, UInt32.toNat_one, hlast]
      omega
    simp only [hsub, Option.bind_eq_bind, Option.bind_some]
    rw [UInt32.sub?_eq_some_iff, hl, toNat_index hpos hi, hlane, hlast]
    omega
  | lowFirst =>
    simp only [lane, ho]
    rfl

/-- The last word of a register may carry fewer bits than the bus is wide. -/
lemma bits_tile_eq (hpos : 0 < bus.dataWidth.toNat) (hi : i < bus.wordCount width) (start : ℕ) :
    ∃ rest, width.sub? (bus.tile width start i).shift = some rest ∧
      (if bus.dataWidth ≤ rest then bus.dataWidth else rest) = (bus.tile width start i).bits := by
  have hshift := toNat_shift_tile hpos hi start
  have hbits := toNat_bits_tile bus width start i
  have hle : (bus.tile width start i).shift ≤ width :=
    UInt32.le_iff_toNat_le.2 (by rw [hshift]; exact (lane_mul_lt hpos hi).le)
  have hrest : width.sub? (bus.tile width start i).shift
      = some (width - (bus.tile width start i).shift) := if_pos hle
  have hval := UInt32.sub?_eq_some_iff.1 hrest
  refine ⟨_, hrest, ?_⟩
  rw [← UInt32.toNat_inj, hbits, ← hshift]
  split
  · rename_i h
    have := UInt32.le_iff_toNat_le.1 h
    omega
  · rename_i h
    rw [UInt32.le_iff_toNat_le] at h
    omega

/-- A word has the position and the bits of its tile; only its address can overflow. -/
lemma nth_of_lane (hpos : 0 < bus.dataWidth.toNat) (hi : i < bus.wordCount width) :
    Slice.nth bus width address (bus.wordCount width).toUInt32 i.toUInt32
      = (do
        let distance ← i.toUInt32.toUInt64.mul? bus.slotSize
        let wordAddress ← address.add? distance
        pure ⟨wordAddress, (bus.tile width 0 i).shift, (bus.tile width 0 i).bits⟩) := by
  have hl : (bus.lane (bus.wordCount width) i).toUInt32.toNat = bus.lane (bus.wordCount width) i :=
    UInt32.toNat_ofNat_of_lt' ((lane_lt hi).trans (wordCount_lt hpos))
  have hmul : (bus.lane (bus.wordCount width) i).toUInt32.mul? bus.dataWidth
      = some (bus.tile width 0 i).shift := by
    rw [UInt32.mul?_eq_some_iff, toNat_shift_tile hpos hi, hl]
  obtain ⟨rest, hrest, hbits⟩ := bits_tile_eq hpos hi 0
  have body : Slice.nth bus width address (bus.wordCount width).toUInt32 i.toUInt32
      = ((match bus.laneOrder with
        | .highFirst => (bus.wordCount width).toUInt32.sub? 1 >>= (·.sub? i.toUInt32)
        | .lowFirst => pure i.toUInt32) >>= fun lane => do
          let shift ← lane.mul? bus.dataWidth
          let distance ← i.toUInt32.toUInt64.mul? bus.slotSize
          let wordAddress ← address.add? distance
          let rest ← width.sub? shift
          pure ⟨wordAddress, shift, if bus.dataWidth ≤ rest then bus.dataWidth else rest⟩) := by
    unfold Slice.nth
    cases bus.laneOrder <;> rfl
  rw [body, lane_eq_some hpos hi]
  simp only [Option.bind_eq_bind, Option.bind_some, hmul, hrest, hbits]

lemma nth_eq_some (hpos : 0 < bus.dataWidth.toNat) (hi : i < bus.wordCount width)
    (hfit : address.toNat + i * bus.slotSize.toNat < 2 ^ 64) :
    Slice.nth bus width address (bus.wordCount width).toUInt32 i.toUInt32
      = some (bus.tile width address.toNat i) := by
  have hi64 : i.toUInt32.toUInt64.toNat = i := by
    rw [UInt32.toNat_toUInt64, toNat_index hpos hi]
  have hmul : i.toUInt32.toUInt64.mul? bus.slotSize
      = some (i * bus.slotSize.toNat).toUInt64 := by
    rw [UInt64.mul?_eq_some_iff, hi64]
    exact UInt64.toNat_ofNat_of_lt' (by simp only [UInt64.size]; omega)
  have hadd : address.add? (i * bus.slotSize.toNat).toUInt64
      = some (bus.tile width address.toNat i).address := by
    rw [UInt64.add?_eq_some_iff, toNat_address_tile hfit,
      show (i * bus.slotSize.toNat).toUInt64.toNat = i * bus.slotSize.toNat from
        UInt64.toNat_ofNat_of_lt' (by simp only [UInt64.size]; omega)]
  rw [nth_of_lane hpos hi, hmul]
  simp only [Option.bind_eq_bind, Option.bind_some, hadd]
  rfl

lemma nth_eq_none (hpos : 0 < bus.dataWidth.toNat) (hi : i < bus.wordCount width)
    (htop : 2 ^ 64 ≤ address.toNat + i * bus.slotSize.toNat) :
    Slice.nth bus width address (bus.wordCount width).toUInt32 i.toUInt32 = none := by
  have hi64 : i.toUInt32.toUInt64.toNat = i := by
    rw [UInt32.toNat_toUInt64, toNat_index hpos hi]
  rw [nth_of_lane hpos hi]
  cases hmul : i.toUInt32.toUInt64.mul? bus.slotSize with
  | none => rfl
  | some distance =>
    have hd := UInt64.mul?_eq_some_iff.1 hmul
    have hadd : address.add? distance = none := by
      rw [UInt64.add?_eq_none_iff, hd, hi64]
      exact htop
    simp only [Option.bind_eq_bind, Option.bind_some, hadd, Option.bind_none]

/-- The words of a register whose addresses stay below the top. -/
theorem slices_eq_some (hpos : 0 < bus.dataWidth.toNat)
    (hfit : ∀ i < bus.wordCount width, address.toNat + i * bus.slotSize.toNat < 2 ^ 64) :
    bus.slices width address = some (bus.tiles width address.toNat) := by
  rw [slices, countWords_eq hpos]
  simp only [Option.bind_eq_bind, Option.bind_some, toNat_wordCount hpos]
  refine mapM_eq_pure fun i hi => ?_
  have hi := List.mem_range.1 hi
  exact nth_eq_some hpos hi (hfit i hi)

theorem slices_eq_none (hpos : 0 < bus.dataWidth.toNat) (hi : i < bus.wordCount width)
    (htop : 2 ^ 64 ≤ address.toNat + i * bus.slotSize.toNat) :
    bus.slices width address = none := by
  rw [slices, countWords_eq hpos]
  simp only [Option.bind_eq_bind, Option.bind_some, toNat_wordCount hpos]
  exact mapM_eq_none (List.mem_range.2 hi) (nth_eq_none hpos hi htop)

end BusGeometry

end CsrMap
