import CsrMap.Region
import Mathlib.Algebra.Order.Group.Nat
import Mathlib.Tactic.Common

/-!
Word arithmetic in terms of powers of two.

Sums and products leave their range from `2 ^ 64` on, and clamped ends of regions stop one short of
it.
-/

namespace UInt64

variable {a b : UInt64}

lemma ne_zero_iff : a ≠ 0 ↔ 0 < a.toNat := by
  rw [Nat.pos_iff_ne_zero, ne_eq, ne_eq, ← UInt64.toNat_inj, UInt64.toNat_zero]

lemma add?_eq_none_iff : a.add? b = none ↔ 2 ^ 64 ≤ a.toNat + b.toNat := by
  simp [add?]

lemma mul?_eq_none_iff : a.mul? b = none ↔ 2 ^ 64 ≤ a.toNat * b.toNat := by
  simp [mul?]

lemma mul?_eq_some_of_lt (h : a.toNat * b.toNat < 2 ^ 64) : a.mul? b = some (a * b) := if_pos h

lemma isPowerOfTwo_iff : a.isPowerOfTwo ↔ ∃ k, a.toNat = 2 ^ k := by
  rw [isPowerOfTwo, beq_iff_eq, Nat.one_shiftLeft]
  refine ⟨fun h => ⟨_, h⟩, ?_⟩
  rintro ⟨k, hk⟩
  rw [hk, Nat.log2_two_pow]

lemma toNat_addClamped (a b : UInt64) :
    (a.addClamped b).toNat = min (a.toNat + b.toNat) (2 ^ 64 - 1) := by
  unfold addClamped
  cases h : a.add? b with
  | none =>
    have hsum := add?_eq_none_iff.1 h
    have hmax : (0 - 1 : UInt64).toNat = 2 ^ 64 - 1 := rfl
    rw [Option.getD_none, hmax]
    omega
  | some c =>
    have hsum := add?_eq_some_iff.1 h
    have hlt := c.toNat_lt
    rw [Option.getD_some]
    omega

end UInt64

namespace CsrMap

lemma toNat_lowBits (count : UInt32) : (lowBits count).toNat = 2 ^ min count.toNat 64 - 1 := by
  unfold lowBits
  split
  · rename_i h
    have h : count.toNat < 64 := UInt32.lt_iff_toNat_lt.1 h
    have hp : 2 ^ count.toNat < 2 ^ 64 := Nat.pow_lt_pow_right (by decide) h
    have h1 : (1 <<< count.toUInt64 : UInt64).toNat = 2 ^ count.toNat := by
      simp only [UInt64.toNat_shiftLeft, UInt64.toNat_one, UInt32.toNat_toUInt64,
        Nat.mod_eq_of_lt h, Nat.shiftLeft_eq, Nat.one_mul]
      exact Nat.mod_eq_of_lt hp
    have hpos : 0 < 2 ^ count.toNat := Nat.two_pow_pos _
    have hle : (1 : UInt64) ≤ 1 <<< count.toUInt64 := by
      rw [UInt64.le_iff_toNat_le, h1]
      exact hpos
    rw [UInt64.toNat_sub_of_le _ _ hle, h1, Nat.min_eq_left (by omega)]
    rfl
  · rename_i h
    have h : ¬ count.toNat < 64 := fun hlt => h (UInt32.lt_iff_toNat_lt.2 hlt)
    rw [Nat.min_eq_right (by omega)]
    rfl

namespace Region

lemma toNat_endAddress (r : Region) :
    r.endAddress.toNat = min (r.origin.toNat + r.size.toNat) (2 ^ 64 - 1) :=
  UInt64.toNat_addClamped r.origin r.size

/-- Two ranges meet where each starts before the clamped end of the other. -/
theorem meets_iff {r : Region} {origin size : UInt64} :
    r.meets origin size ↔
      r.origin.toNat < min (origin.toNat + size.toNat) (2 ^ 64 - 1) ∧
        origin.toNat < min (r.origin.toNat + r.size.toNat) (2 ^ 64 - 1) := by
  simp only [meets, Bool.and_eq_true, decide_eq_true_eq, UInt64.lt_iff_toNat_lt,
    UInt64.toNat_addClamped, toNat_endAddress]

end Region

end CsrMap
