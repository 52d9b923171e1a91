/-!
Arithmetic on machine words that says when it leaves its range.

Addresses and register values are 64-bit words, widths and bit positions are 32-bit words. An
operation of this file has no value where the exact result is not a word of the same size, where
a shift moves by the whole width or more, and where it divides by zero; nothing wraps around.
Each operation is pinned down in the natural numbers.
-/

namespace CsrMap

/-- A result of word arithmetic; `none` says that some step left its range. -/
abbrev Checked (α : Type) : Type := Option α

end CsrMap

namespace UInt64

def add? (a b : UInt64) : Option UInt64 :=
  if a.toNat + b.toNat < UInt64.size then some (a + b) else none

def mul? (a b : UInt64) : Option UInt64 :=
  if a.toNat * b.toNat < UInt64.size then some (a * b) else none

def mod? (a b : UInt64) : Option UInt64 :=
  if b = 0 then none else some (a % b)

/-- Bits moved past the top are lost; only the distance is limited. -/
def shiftLeft? (a : UInt64) (distance : UInt32) : Option UInt64 :=
  if distance < 64 then some (a <<< distance.toUInt64) else none

def shiftRight? (a : UInt64) (distance : UInt32) : Option UInt64 :=
  if distance < 64 then some (a >>> distance.toUInt64) else none

/-- The least multiple of `unit` that is not below `a`. -/
def ceilMultiple? (a unit : UInt64) : Option UInt64 := do
  let rest ← a.mod? unit
  if rest = 0 then pure a else a.add? (unit - rest)

/-- The sum, or the largest word where the sum is larger still. -/
def addClamped (a b : UInt64) : UInt64 :=
  (a.add? b).getD (0 - 1)

def isPowerOfTwo (a : UInt64) : Bool :=
  a.toNat == 1 <<< a.toNat.log2

theorem add?_eq_some_iff {a b c : UInt64} :
    a.add? b = some c ↔ c.toNat = a.toNat + b.toNat := by
  have hc : c.toNat < UInt64.size := c.toNat_lt
  unfold add?
  split
  · rename_i h
    rw [Option.some.injEq, ← UInt64.toNat_inj, UInt64.toNat_add]
    exact (Nat.mod_eq_of_lt h).symm ▸ eq_comm
  · simp only [reduceCtorEq, false_iff]
    omega

theorem mul?_eq_some_iff {a b c : UInt64} :
    a.mul? b = some c ↔ c.toNat = a.toNat * b.toNat := by
  have hc : c.toNat < UInt64.size := c.toNat_lt
  unfold mul?
  split
  · rename_i h
    rw [Option.some.injEq, ← UInt64.toNat_inj, UInt64.toNat_mul]
    exact (Nat.mod_eq_of_lt h).symm ▸ eq_comm
  · simp only [reduceCtorEq, false_iff]
    omega

theorem mod?_eq_some {a b : UInt64} (h : b ≠ 0) : a.mod? b = some (a % b) := if_neg h

theorem shiftLeft?_eq_some {a : UInt64} {n : UInt32} (h : n < 64) :
    a.shiftLeft? n = some (a <<< n.toUInt64) := if_pos h

theorem shiftRight?_eq_some {a : UInt64} {n : UInt32} (h : n < 64) :
    a.shiftRight? n = some (a >>> n.toUInt64) := if_pos h

end UInt64

namespace UInt32

def add? (a b : UInt32) : Option UInt32 :=
  if a.toNat + b.toNat < UInt32.size then some (a + b) else none

def sub? (a b : UInt32) : Option UInt32 :=
  if b ≤ a then some (a - b) else none

def mul? (a b : UInt32) : Option UInt32 :=
  if a.toNat * b.toNat < UInt32.size then some (a * b) else none

/-- The quotient rounded up. -/
def ceilDiv? (a b : UInt32) : Option UInt32 :=
  if b = 0 then none else some (if a % b = 0 then a / b else a / b + 1)

theorem add?_eq_some_iff {a b c : UInt32} :
    a.add? b = some c ↔ c.toNat = a.toNat + b.toNat := by
  have hc : c.toNat < UInt32.size := c.toNat_lt
  unfold add?
  split
  · rename_i h
    rw [Option.some.injEq, ← UInt32.toNat_inj, UInt32.toNat_add]
    exact (Nat.mod_eq_of_lt h).symm ▸ eq_comm
  · simp only [reduceCtorEq, false_iff]
    omega

theorem sub?_eq_some_iff {a b c : UInt32} :
    a.sub? b = some c ↔ a.toNat = c.toNat + b.toNat := by
  unfold sub?
  split
  · rename_i h
    have h' := UInt32.le_iff_toNat_le.1 h
    rw [Option.some.injEq, ← UInt32.toNat_inj, UInt32.toNat_sub_of_le _ _ h]
    omega
  · rename_i h
    rw [UInt32.le_iff_toNat_le] at h
    simp only [reduceCtorEq, false_iff]
    omega

theorem mul?_eq_some_iff {a b c : UInt32} :
    a.mul? b = some c ↔ c.toNat = a.toNat * b.toNat := by
  have hc : c.toNat < UInt32.size := c.toNat_lt
  unfold mul?
  split
  · rename_i h
    rw [Option.some.injEq, ← UInt32.toNat_inj, UInt32.toNat_mul]
    exact (Nat.mod_eq_of_lt h).symm ▸ eq_comm
  · simp only [reduceCtorEq, false_iff]
    omega

end UInt32

namespace CsrMap

/-- The word whose lowest `count` bits are set. -/
def lowBits (count : UInt32) : UInt64 :=
  if count < 64 then (1 <<< count.toUInt64) - 1 else 0 - 1

end CsrMap
