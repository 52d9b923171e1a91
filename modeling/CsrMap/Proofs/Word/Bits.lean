import CsrMap.Bus.Slice
import CsrMap.Proofs.Word.Arithmetic
import Mathlib.Data.Nat.Bitwise
import Mathlib.Tactic.Common

/-!
The bits of a machine word, by their positions.

Words that agree in all their bits are equal, so what a mask, a shift or a slice does is told by
one equation for each operation. A slice takes the bits of a register that its word carries, and
puts them back.
-/

namespace UInt64

/-- The bit at position `i`; from position 64 on there is none. -/
def bit (a : UInt64) (i : ℕ) : Bool := a.toNat.testBit i

variable {a b : UInt64} {i : ℕ}

lemma bit_of_le (h : 64 ≤ i) : a.bit i = false :=
  Nat.testBit_lt_two_pow (a.toNat_lt.trans_le (Nat.pow_le_pow_right (by decide) h))

lemma eq_of_bit_eq (h : ∀ i < 64, a.bit i = b.bit i) : a = b := by
  rw [← UInt64.toNat_inj]
  refine Nat.eq_of_testBit_eq fun i => ?_
  rcases Nat.lt_or_ge i 64 with hi | hi
  · exact h i hi
  · exact (bit_of_le (a := a) hi).trans (bit_of_le (a := b) hi).symm

@[simp] lemma bit_zero (i : ℕ) : (0 : UInt64).bit i = false := by simp [bit]

@[simp] lemma bit_and (a b : UInt64) (i : ℕ) : (a &&& b).bit i = (a.bit i && b.bit i) := by
  simp [bit]

@[simp] lemma bit_or (a b : UInt64) (i : ℕ) : (a ||| b).bit i = (a.bit i || b.bit i) := by
  simp [bit]

lemma bit_not (a : UInt64) (h : i < 64) : (~~~a).bit i = !a.bit i := by
  have ha := a.toNat_lt
  rw [bit, UInt64.toNat_not, bit, show UInt64.size - 1 - a.toNat = 2 ^ 64 - (a.toNat + 1) by
    simp only [UInt64.size]; omega, Nat.testBit_two_pow_sub_succ ha]
  simp [h]

lemma bit_shiftLeft {n : UInt32} (hn : n < 64) (hi : i < 64) :
    (a <<< n.toUInt64).bit i = (decide (n.toNat ≤ i) && a.bit (i - n.toNat)) := by
  have hn : n.toNat < 64 := UInt32.lt_iff_toNat_lt.1 hn
  simp only [bit, UInt64.toNat_shiftLeft, UInt32.toNat_toUInt64, Nat.mod_eq_of_lt hn,
    Nat.testBit_mod_two_pow, Nat.testBit_shiftLeft, hi, decide_true, Bool.true_and]

lemma bit_shiftRight {n : UInt32} (hn : n < 64) :
    (a >>> n.toUInt64).bit i = a.bit (i + n.toNat) := by
  have hn : n.toNat < 64 := UInt32.lt_iff_toNat_lt.1 hn
  simp only [bit, UInt64.toNat_shiftRight, UInt32.toNat_toUInt64, Nat.mod_eq_of_lt hn,
    Nat.testBit_shiftRight, Nat.add_comm]

lemma bit_one (i : ℕ) : (1 : UInt64).bit i = decide (i = 0) := by
  rw [bit, UInt64.toNat_one, ← Nat.pow_zero 2, Nat.testBit_two_pow]
  exact decide_eq_decide.2 eq_comm

/-- One bit, moved to its position. -/
lemma bit_one_shiftLeft {n : UInt32} (hn : n < 64) (hi : i < 64) :
    (1 <<< n.toUInt64 : UInt64).bit i = decide (i = n.toNat) := by
  rw [bit_shiftLeft hn hi, bit_one, ← Bool.decide_and, decide_eq_decide]
  omega

/-- A word meets one bit where it has this bit. -/
lemma and_one_shiftLeft_ne_zero_iff {n : UInt32} (hn : n < 64) :
    a &&& (1 <<< n.toUInt64) ≠ 0 ↔ a.bit n.toNat = true := by
  have hlt : n.toNat < 64 := UInt32.lt_iff_toNat_lt.1 hn
  constructor
  · contrapose!
    intro hclear
    refine eq_of_bit_eq fun i hi => ?_
    rw [bit_and, bit_one_shiftLeft hn hi, bit_zero]
    by_cases heq : i = n.toNat
    · simp [heq, hclear]
    · simp [heq]
  · intro hset hzero
    have hbit := congrArg (·.bit n.toNat) hzero
    simp [bit_one_shiftLeft hn hlt, hset] at hbit

end UInt64

namespace CsrMap

open UInt64

variable {v w : UInt64} {i : ℕ}

lemma bit_lowBits (count : UInt32) (i : ℕ) :
    (lowBits count).bit i = decide (i < count.toNat ∧ i < 64) := by
  rw [bit, toNat_lowBits, Nat.testBit_two_pow_sub_one]
  simp

/-- A word is below `2 ^ count` where no bit from position `count` on is set. -/
lemma le_lowBits_iff {count : UInt32} :
    v ≤ lowBits count ↔ ∀ i, count.toNat ≤ i → v.bit i = false := by
  rw [UInt64.le_iff_toNat_le, toNat_lowBits]
  have hpos : 0 < 2 ^ min count.toNat 64 := Nat.two_pow_pos _
  constructor
  · intro h i hi
    refine Nat.testBit_lt_two_pow (lt_of_lt_of_le (b := 2 ^ min count.toNat 64) (by omega) ?_)
    exact Nat.pow_le_pow_right (by decide) (by omega)
  · intro h
    have : v.toNat < 2 ^ min count.toNat 64 := by
      refine Nat.lt_pow_two_of_testBit _ fun i hi => ?_
      rcases Nat.lt_or_ge i 64 with h64 | h64
      · exact h i (by omega)
      · exact bit_of_le h64
    omega

lemma and_lowBits_le (v : UInt64) (count : UInt32) : v &&& lowBits count ≤ lowBits count :=
  le_lowBits_iff.2 fun i hi => by simp [bit_lowBits, Nat.not_lt.2 hi]

lemma and_lowBits_of_le {count : UInt32} (h : v ≤ lowBits count) : v &&& lowBits count = v := by
  refine eq_of_bit_eq fun i hi => ?_
  rw [bit_and, bit_lowBits]
  rcases Nat.lt_or_ge i count.toNat with hlt | hge
  · simp [hlt, hi]
  · simp [le_lowBits_iff.1 h i hge]

namespace Slice

variable {s : Slice}

/-- The slice carries the bit at position `i` of the register. -/
def Carries (s : Slice) (i : ℕ) : Prop := s.shift.toNat ≤ i ∧ i < s.shift.toNat + s.bits.toNat

instance (s : Slice) (i : ℕ) : Decidable (s.Carries i) := by
  unfold Carries
  infer_instance

/-- The bits that the slice carries are bits of a word. -/
def InWord (s : Slice) : Prop := s.shift.toNat < 64 ∧ s.shift.toNat + s.bits.toNat ≤ 64

lemma InWord.shift_lt (h : s.InWord) : s.shift < 64 := UInt32.lt_iff_toNat_lt.2 h.1

/-- The part of `v` that the slice carries, as the word at its address. -/
def part (s : Slice) (v : UInt64) : UInt64 := (v >>> s.shift.toUInt64) &&& s.mask

lemma extract_eq_some (h : s.InWord) (v : UInt64) : s.extract v = some (s.part v) := by
  simp [extract, UInt64.shiftRight?_eq_some h.shift_lt, part]

lemma bit_part (h : s.InWord) :
    (s.part v).bit i = (decide (i < s.bits.toNat) && v.bit (i + s.shift.toNat)) := by
  rw [part, bit_and, bit_shiftRight h.shift_lt, mask, bit_lowBits]
  have h64 : i < s.bits.toNat → i < 64 := fun hi => by have := h.2; omega
  by_cases hi : i < s.bits.toNat <;> simp [hi, h64]

lemma part_and_mask (s : Slice) (v : UInt64) : s.part v &&& s.mask = s.part v := by
  rw [part, UInt64.and_assoc, UInt64.and_self]

/-- Two values agree on the bits of a slice where its words for them agree. -/
lemma part_eq_part_iff (h : s.InWord) :
    s.part v = s.part w ↔ ∀ i, s.Carries i → v.bit i = w.bit i := by
  constructor
  · rintro hp i ⟨h1, h2⟩
    have := congrArg (·.bit (i - s.shift.toNat)) hp
    simp only [bit_part h, show i - s.shift.toNat < s.bits.toNat by omega, decide_true,
      Bool.true_and, show i - s.shift.toNat + s.shift.toNat = i by omega] at this
    exact this
  · intro hv
    refine eq_of_bit_eq fun i _ => ?_
    rw [bit_part h, bit_part h]
    by_cases hi : i < s.bits.toNat
    · rw [hv _ ⟨by omega, by omega⟩]
    · simp [hi]

lemma place_eq_some (h : s.InWord) (w : UInt64) :
    s.place w = some ((w &&& s.mask) <<< s.shift.toUInt64) := by
  simp [place, UInt64.shiftLeft?_eq_some h.shift_lt]

lemma bit_place (h : s.InWord) (w : UInt64) :
    ((w &&& s.mask) <<< s.shift.toUInt64).bit i
      = (decide (s.Carries i) && w.bit (i - s.shift.toNat)) := by
  have h64 := h.2
  rcases Nat.lt_or_ge i 64 with hi | hi
  · rw [bit_shiftLeft h.shift_lt hi, bit_and, mask, bit_lowBits]
    by_cases h1 : s.shift.toNat ≤ i
    · by_cases h2 : i - s.shift.toNat < s.bits.toNat
      · have hc : s.Carries i := ⟨h1, by omega⟩
        simp [h1, h2, hc, show i - s.shift.toNat < 64 by omega]
      · have hc : ¬ s.Carries i := fun hc => h2 (by have := hc.2; omega)
        simp [h2, hc]
    · have hc : ¬ s.Carries i := fun hc => h1 hc.1
      simp [h1, hc]
  · have hc : ¬ s.Carries i := fun hc => by have := hc.2; omega
    simp [bit_of_le hi, hc]

/-- The value of a register after `w` is stored in the bits that the slice carries. -/
def stored (s : Slice) (v w : UInt64) : UInt64 :=
  v &&& ~~~(s.mask <<< s.shift.toUInt64) ||| (w &&& s.mask) <<< s.shift.toUInt64

lemma bit_mask_shiftLeft (h : s.InWord) :
    (s.mask <<< s.shift.toUInt64).bit i = decide (s.Carries i) := by
  have hplace := bit_place (i := i) h s.mask
  rw [UInt64.and_self, mask, bit_lowBits] at hplace
  rw [mask, hplace]
  by_cases hc : s.Carries i
  · have := hc.1
    have := hc.2
    have := h.2
    simp only [hc, decide_true, Bool.true_and, decide_eq_true_eq]
    omega
  · simp [hc]

lemma bit_stored (h : s.InWord) (hi : i < 64) :
    (s.stored v w).bit i = if s.Carries i then w.bit (i - s.shift.toNat) else v.bit i := by
  rw [stored, bit_or, bit_and, bit_not _ hi, bit_mask_shiftLeft h, bit_place h]
  by_cases hc : s.Carries i <;> simp [hc]

/-- A slice gives back what was stored in it. -/
lemma part_stored_self (h : s.InWord) : s.part (s.stored v w) = w &&& s.mask := by
  refine eq_of_bit_eq fun i hi => ?_
  rw [bit_part h, bit_and, mask, bit_lowBits]
  by_cases hlt : i < s.bits.toNat
  · have hc : s.Carries (i + s.shift.toNat) := ⟨by omega, by omega⟩
    have h64 : i + s.shift.toNat < 64 := by
      have := h.2
      omega
    rw [bit_stored h h64, if_pos hc]
    simp [hlt, hi]
  · simp [hlt]

/-- A slice with other bits does not see what is stored. -/
lemma part_stored_of_apart {t : Slice} (h : s.InWord) (ht : t.InWord)
    (hapart : ∀ i, t.Carries i → ¬ s.Carries i) : t.part (s.stored v w) = t.part v := by
  rw [part_eq_part_iff ht]
  intro i hc
  have h64 : i < 64 := by
    have := hc.2
    have := ht.2
    omega
  rw [bit_stored h h64, if_neg (hapart i hc)]

lemma stored_le {count : UInt32} (h : s.InWord) (hs : s.shift.toNat + s.bits.toNat ≤ count.toNat)
    (hv : v ≤ lowBits count) : s.stored v w ≤ lowBits count := by
  rw [le_lowBits_iff] at hv ⊢
  intro i hi
  rcases Nat.lt_or_ge i 64 with h64 | h64
  · have hc : ¬ s.Carries i := fun hc => by
      have := hc.2
      omega
    rw [bit_stored h h64, if_neg hc, hv i hi]
  · exact bit_of_le h64

end Slice

end CsrMap
