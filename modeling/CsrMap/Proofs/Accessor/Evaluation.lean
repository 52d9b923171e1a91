import CsrMap.Proofs.Accessor.Meaning
import CsrMap.Proofs.Bus.Gather

/-!
The values of the expressions that accessors are made of.

A word of a type stays in the type that it is promoted to: a mask that the type holds meets it
there, and shifts keep to the bits of the type. What is put into a field is what is stored in the
bits of a slice.
-/

namespace CsrMap.Header

open UInt64

variable {t : IntType} {p : Promoted} {x y mask : UInt64} {distance : UInt32}

/-! ### Types -/

lemma IntType.max_le (t : IntType) : t.max ≤ t.promoted.max := by
  cases t <;> decide

lemma IntType.bits_le (t : IntType) : t.bits ≤ t.promoted.bits := by
  cases t <;> decide

lemma IntType.toNat_max (t : IntType) : t.max.toNat = 2 ^ t.bits - 1 := by
  cases t <;> decide

lemma IntType.bits_le_64 (t : IntType) : t.bits ≤ 64 := by
  cases t <;> decide

/-- The type of a register holds all its bits. -/
lemma IntType.le_bits_ofWidth {width : UInt32} (h : width.toNat ≤ 64) :
    width.toNat ≤ (IntType.ofWidth width).bits := by
  unfold ofWidth
  simp only [UInt32.le_iff_toNat_le]
  split_ifs <;> simp_all [bits]

lemma le_max_iff : x ≤ t.max ↔ x.toNat < 2 ^ t.bits := by
  have hpos := Nat.two_pow_pos t.bits
  rw [UInt64.le_iff_toNat_le, t.toNat_max]
  omega

lemma lowBits_le_max {count : UInt32} (h : count.toNat ≤ t.bits) : lowBits count ≤ t.max := by
  have hpow : 2 ^ min count.toNat 64 ≤ 2 ^ t.bits := Nat.pow_le_pow_right (by decide) (by omega)
  have hpos := Nat.two_pow_pos (min count.toNat 64)
  rw [le_max_iff, toNat_lowBits]
  omega

namespace Value

lemma amount?_number (h : x ≤ p.max) : (number p x).amount? = some x := if_pos h

lemma amount?_ofWord (h : x ≤ t.max) : (ofWord t x).amount? = some x :=
  amount?_number (UInt64.le_trans h t.max_le)

lemma convert?_number (h : x ≤ p.max) (ht : x ≤ t.max) : (number p x).convert? t = some x := by
  rw [convert?, amount?_number h]
  exact if_pos ht

lemma convert?_ofWord (h : x ≤ t.max) : (ofWord t x).convert? t = some x :=
  convert?_number (UInt64.le_trans h t.max_le) h

end Value

/-! ### Operators -/

lemma le_max_maskType (x : UInt64) : x ≤ (maskType x).max := by
  unfold maskType
  split
  · assumption
  · split
    · assumption
    · exact UInt64.le_iff_toNat_le.2 (Nat.le_of_lt_succ x.toNat_lt)

/-- A mask that a type holds meets its words in the type they are promoted to. -/
lemma join_maskType (h : x ≤ t.max) : t.promoted.join (maskType x) = t.promoted := by
  have hint (h : x ≤ Promoted.int.max) : maskType x = .int := if_pos h
  cases t with
  | u8 => rw [hint (UInt64.le_trans h (by decide))]; rfl
  | u16 => rw [hint (UInt64.le_trans h (by decide))]; rfl
  | u32 =>
    have h : x ≤ Promoted.u32.max := h
    unfold maskType
    split
    · rfl
    · rfl
  | u64 =>
    unfold maskType
    split
    · rfl
    · split <;> rfl

lemma Promoted.join_self (p : Promoted) : p.join p = p := by
  cases p <;> rfl

lemma and_same (p : Promoted) (x y : UInt64) :
    BinaryOp.and.eval? (.number p x) (.number p y) = some (.number p (x &&& y)) := by
  simp [BinaryOp.eval?, bitwise?, Promoted.widen?, Promoted.join_self]

lemma or_same (p : Promoted) (x y : UInt64) :
    BinaryOp.or.eval? (.number p x) (.number p y) = some (.number p (x ||| y)) := by
  simp [BinaryOp.eval?, bitwise?, Promoted.widen?, Promoted.join_self]

lemma and_mask (x : UInt64) (hmask : mask ≤ t.max) :
    BinaryOp.and.eval? (.number t.promoted x) (.number (maskType mask) mask)
      = some (.number t.promoted (x &&& mask)) := by
  simp [BinaryOp.eval?, bitwise?, Promoted.widen?, join_maskType hmask, le_max_maskType]

/-- Where the flipped bits do not reach, and-ing them away needs no more than the complement. -/
lemma and_flip (h : x ≤ p.max) : x &&& p.flip y = x &&& ~~~y := by
  cases p with
  | int => rfl
  | u64 => rfl
  | u32 =>
    have hx : x &&& Promoted.u32.max = x := and_lowBits_of_le h
    rw [Promoted.flip, UInt64.and_comm (~~~y), ← UInt64.and_assoc, hx]

/-! ### Expressions -/

namespace Expression

variable {calls : Calls} {vars : Variables} {e : Expression} {m m' : BusModel}

lemma run_masked (he : e.run calls vars m = some (.number t.promoted x, m'))
    (hmask : mask ≤ t.max) :
    (masked e mask).run calls vars m = some (.number t.promoted (x &&& mask), m') := by
  simp [masked, he, Literal.operand?, and_mask x hmask]

/-- A distance less than the bits of a word is a literal of type int. -/
lemma operand?_count (h : distance.toNat < 64) :
    (Literal.count distance.toNat).operand? = some (.number .int distance.toUInt64) ∧
      (Value.number .int distance.toUInt64).amount? = some distance.toUInt64 := by
  have hmax : Promoted.int.max.toNat = 2 ^ 31 - 1 := by decide
  have hword : distance.toNat.toUInt64 = distance.toUInt64 := by
    rw [← UInt64.toNat_inj, UInt32.toNat_toUInt64]
    exact UInt64.toNat_ofNat_of_lt' (distance.toNat_lt.trans (by decide))
  constructor
  · rw [Literal.operand?, if_pos (by omega), hword]
  · refine Value.amount?_number (UInt64.le_iff_toNat_le.2 ?_)
    rw [UInt32.toNat_toUInt64]
    omega

/-- A shift to the right by less than the bits of the type. -/
lemma run_shiftRight (he : e.run calls vars m = some (.ofWord t x, m')) (hx : x ≤ t.max)
    (hd : distance.toNat < t.bits) :
    (binary .shiftRight e (literal (.count distance.toNat))).run calls vars m
      = some (.number t.promoted (x >>> distance.toUInt64), m') := by
  obtain ⟨hliteral, hamount⟩ := operand?_count (hd.trans_le t.bits_le_64)
  have hfits : distance.toNat < t.promoted.bits := hd.trans_le t.bits_le
  have hvalue : (Value.number t.promoted x).amount? = some x := Value.amount?_ofWord hx
  simp [he, hliteral, BinaryOp.eval?, Value.ofWord, shiftRight?, hvalue, hamount, hfits]

/-- A shift to the left that keeps all bits in the type. -/
lemma run_shiftLeft {count : UInt32} (he : e.run calls vars m = some (.number t.promoted x, m'))
    (hx : x ≤ lowBits count) (hd : distance.toNat < t.bits)
    (hsum : distance.toNat + count.toNat ≤ t.bits) :
    (binary .shiftLeft e (literal (.count distance.toNat))).run calls vars m
      = some (.number t.promoted (x <<< distance.toUInt64), m') := by
  have hbits := t.bits_le_64
  have hmax := UInt64.le_iff_toNat_le.1 t.max_le
  have hfits : distance.toNat < t.promoted.bits := hd.trans_le t.bits_le
  have hvalue : (Value.number t.promoted x).amount? = some x :=
    Value.amount?_ofWord (UInt64.le_trans hx (lowBits_le_max (by omega)))
  have hkeeps : x.toNat * 2 ^ distance.toNat ≤ t.promoted.max.toNat := by
    have hlt : x.toNat < 2 ^ count.toNat := by
      have hpos := Nat.two_pow_pos count.toNat
      rw [UInt64.le_iff_toNat_le, toNat_lowBits, Nat.min_eq_left (by omega)] at hx
      omega
    have hproduct : x.toNat * 2 ^ distance.toNat < 2 ^ t.bits :=
      calc x.toNat * 2 ^ distance.toNat
          < 2 ^ count.toNat * 2 ^ distance.toNat :=
            Nat.mul_lt_mul_of_pos_right hlt (Nat.two_pow_pos _)
        _ = 2 ^ (count.toNat + distance.toNat) := (Nat.pow_add ..).symm
        _ ≤ 2 ^ t.bits := Nat.pow_le_pow_right (by decide) (by omega)
    rw [t.toNat_max] at hmax
    omega
  obtain ⟨hliteral, hamount⟩ := operand?_count (hd.trans_le hbits)
  simp [he, hliteral, BinaryOp.eval?, shiftLeft?, hvalue, hamount, hfits, hkeeps]

lemma run_movedRight (he : e.run calls vars m = some (.ofWord t x, m')) (hx : x ≤ t.max)
    (hd : distance.toNat < t.bits) :
    (movedRight e distance).run calls vars m
      = some (.number t.promoted (x >>> distance.toUInt64), m') := by
  unfold movedRight
  split
  · rename_i hzero
    rw [he, hzero]
    simp [Value.ofWord]
  · exact run_shiftRight he hx hd

lemma run_movedLeft {count : UInt32} (he : e.run calls vars m = some (.number t.promoted x, m'))
    (hx : x ≤ lowBits count) (hd : distance.toNat < t.bits)
    (hsum : distance.toNat + count.toNat ≤ t.bits) :
    (movedLeft e distance).run calls vars m
      = some (.number t.promoted (x <<< distance.toUInt64), m') := by
  unfold movedLeft
  split
  · rename_i hzero
    rw [he, hzero]
    simp
  · exact run_shiftLeft he hx hd hsum

lemma run_cast (he : e.run calls vars m = some (.number p x, m')) (hp : x ≤ p.max)
    (ht : x ≤ t.max) : (cast t e).run calls vars m = some (.ofWord t x, m') := by
  simp [he, Value.convert?_number hp ht]

lemma run_complement (he : e.run calls vars m = some (.number p x, m')) :
    (complement e).run calls vars m = some (.number p (p.flip x), m') := by
  simp [he, complement?]

lemma run_binary {op : BinaryOp} {left right : Expression} {a b c : Value} {m'' : BusModel}
    (hl : left.run calls vars m = some (a, m')) (hr : right.run calls vars m' = some (b, m''))
    (h : op.eval? a b = some c) : (binary op left right).run calls vars m = some (c, m'') := by
  simp [hl, hr, h]

end Expression

end CsrMap.Header
