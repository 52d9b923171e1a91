import CsrMap.Bus.Geometry
import CsrMap.Proofs.Word.Arithmetic
import CsrMap.Bus.Slice
import Mathlib.Algebra.Order.Group.Nat
import Mathlib.Tactic.Common

/-!
The geometry of a bus in unbounded numbers.

`Sound` is what a geometry has to satisfy. The check accepts exactly the sound geometries whose
slots have fewer than `2 ^ 64` bits; for wider slots the number of their bits is no word.
-/

namespace CsrMap.BusGeometry

open UInt64

variable {bus : BusGeometry}

/-- What a geometry has to satisfy, in unbounded numbers. -/
structure Sound (bus : BusGeometry) : Prop where
  dataWidth : bus.dataWidth ∈ [8, 16, 32, 64]
  slotSize : ∃ k, bus.slotSize.toNat = 2 ^ k
  dataWidth_le : bus.dataWidth.toNat ≤ 8 * bus.slotSize.toNat
  base : bus.slotSize.toNat ∣ bus.base.toNat
  roundingUnit : ∃ k, bus.roundingUnit.toNat = 2 ^ k
  slotSize_le : bus.slotSize.toNat ≤ bus.roundingUnit.toNat

/-- The check reaches the number of bits of a slot and that number is no word. -/
def SlotTooWide (bus : BusGeometry) : Prop :=
  bus.dataWidth ∈ [8, 16, 32, 64] ∧ (∃ k, bus.slotSize.toNat = 2 ^ k) ∧
    2 ^ 61 ≤ bus.slotSize.toNat

namespace Sound

lemma dataWidth_pos (h : bus.Sound) : 0 < bus.dataWidth.toNat := by
  have := h.dataWidth
  simp only [List.mem_cons, List.not_mem_nil, or_false] at this
  rcases this with hw | hw | hw | hw <;> rw [hw] <;> decide

lemma dataWidth_mem (h : bus.Sound) : bus.dataWidth.toNat ∈ [8, 16, 32, 64] := by
  have := h.dataWidth
  simp only [List.mem_cons, List.not_mem_nil, or_false] at this
  rcases this with hw | hw | hw | hw <;> rw [hw] <;> decide

lemma slotSize_pos (h : bus.Sound) : 0 < bus.slotSize.toNat := by
  obtain ⟨k, hk⟩ := h.slotSize
  rw [hk]
  exact Nat.two_pow_pos k

lemma roundingUnit_pos (h : bus.Sound) : 0 < bus.roundingUnit.toNat :=
  h.slotSize_pos.trans_le h.slotSize_le

/-- Of two powers of two the smaller one divides the other. -/
lemma slotSize_dvd (h : bus.Sound) : bus.slotSize.toNat ∣ bus.roundingUnit.toNat := by
  obtain ⟨k, hk⟩ := h.slotSize
  obtain ⟨l, hl⟩ := h.roundingUnit
  have hle := h.slotSize_le
  rw [hk, hl] at hle ⊢
  exact Nat.pow_dvd_pow 2 ((Nat.pow_le_pow_iff_right (by decide)).1 hle)

/-- The top of the address space lies between two slots. -/
lemma slotSize_dvd_top (h : bus.Sound) : bus.slotSize.toNat ∣ 2 ^ 64 := by
  obtain ⟨k, hk⟩ := h.slotSize
  have hlt := bus.slotSize.toNat_lt
  rw [hk] at hlt ⊢
  exact Nat.pow_dvd_pow 2 ((Nat.pow_lt_pow_iff_right (by decide)).1 hlt).le

end Sound

lemma slotFits_eq_some (hpow : ∃ k, bus.slotSize.toNat = 2 ^ k)
    (hslot : bus.slotSize.toNat < 2 ^ 61) :
    bus.slotFits = some (decide (bus.dataWidth.toNat ≤ 8 * bus.slotSize.toNat)) := by
  have h8 : (8 : UInt64).toNat = 8 := rfl
  have hbits : bus.slotSize.mul? 8 = some (bus.slotSize * 8) :=
    mul?_eq_some_of_lt (by rw [h8]; omega)
  have hle : bus.dataWidth.toUInt64 ≤ bus.slotSize * 8 ↔
      bus.dataWidth.toNat ≤ 8 * bus.slotSize.toNat := by
    rw [UInt64.le_iff_toNat_le, UInt32.toNat_toUInt64, mul?_eq_some_iff.1 hbits, h8, Nat.mul_comm]
  rw [slotFits, if_pos (isPowerOfTwo_iff.2 hpow), hbits, ← decide_eq_decide.2 hle]
  rfl

lemma slotFits_eq_none (hpow : ∃ k, bus.slotSize.toNat = 2 ^ k)
    (hslot : 2 ^ 61 ≤ bus.slotSize.toNat) : bus.slotFits = none := by
  have h8 : (8 : UInt64).toNat = 8 := rfl
  have hbits : bus.slotSize.mul? 8 = none := mul?_eq_none_iff.2 (by rw [h8]; omega)
  rw [slotFits, if_pos (isPowerOfTwo_iff.2 hpow), hbits]
  rfl

lemma slotFits_eq_false (hpow : ¬ ∃ k, bus.slotSize.toNat = 2 ^ k) :
    bus.slotFits = some false :=
  if_neg fun h => hpow (isPowerOfTwo_iff.1 h)

lemma checkRounding_eq (hslot : ∃ k, bus.slotSize.toNat = 2 ^ k) :
    (checkRounding bus.slotSize bus.rounding = .ok () ∧
        (∃ k, bus.roundingUnit.toNat = 2 ^ k) ∧
        bus.slotSize.toNat ≤ bus.roundingUnit.toNat) ∨
      (∃ flaw, checkRounding bus.slotSize bus.rounding = refuse (.invalidBus flaw)) ∧
        ¬ ((∃ k, bus.roundingUnit.toNat = 2 ^ k) ∧
          bus.slotSize.toNat ≤ bus.roundingUnit.toNat) := by
  have sized (size : UInt64) (hunit : bus.roundingUnit = size) :
      (size.isPowerOfTwo && decide (bus.slotSize ≤ size)) ↔
        (∃ k, bus.roundingUnit.toNat = 2 ^ k) ∧ bus.slotSize.toNat ≤ bus.roundingUnit.toNat := by
    rw [Bool.and_eq_true, decide_eq_true_eq, isPowerOfTwo_iff, UInt64.le_iff_toNat_le, hunit]
  unfold checkRounding
  split
  · rename_i hr
    have hunit : bus.roundingUnit = bus.slotSize := by simp [roundingUnit, hr]
    exact .inl ⟨rfl, hunit ▸ hslot, by rw [hunit]⟩
  all_goals
    rename_i size hr
    have hunit : bus.roundingUnit = size := by simp [roundingUnit, hr]
    split
    · rename_i hfit
      exact .inl ⟨rfl, (sized size hunit).1 hfit⟩
    · rename_i hfit
      exact .inr ⟨⟨_, rfl⟩, fun h => hfit ((sized size hunit).2 h)⟩

/-- How the check of a geometry ends. -/
theorem check_cases (bus : BusGeometry) :
    (bus.check = .ok () ∧ bus.Sound ∧ bus.slotSize.toNat < 2 ^ 61) ∨
      (bus.check = .error .overflow ∧ bus.SlotTooWide) ∨
      (∃ flaw, bus.check = refuse (.invalidBus flaw)) ∧ ¬ bus.Sound ∧ ¬ bus.SlotTooWide := by
  unfold check
  simp only []
  by_cases hwidth : bus.dataWidth ∈ [8, 16, 32, 64]
  swap
  · have hc : [8, 16, 32, 64].contains bus.dataWidth = false := by simpa using hwidth
    simp only [hc, Bool.false_eq_true, not_false_eq_true, if_true, refuse_bind]
    exact .inr (.inr ⟨⟨_, rfl⟩, fun h => hwidth h.dataWidth, fun h => hwidth h.1⟩)
  have hc : [8, 16, 32, 64].contains bus.dataWidth = true := List.contains_iff_mem.2 hwidth
  simp only [hc, not_true_eq_false, if_false]
  by_cases hpow : ∃ k, bus.slotSize.toNat = 2 ^ k
  swap
  · simp only [slotFits_eq_false hpow, liftM, monadLift_some, Outcome.ok_bind, Bool.false_eq_true,
      not_false_eq_true, if_true, refuse_bind]
    exact .inr (.inr ⟨⟨_, rfl⟩, fun h => hpow h.slotSize, fun h => hpow h.2.1⟩)
  rcases Nat.lt_or_ge bus.slotSize.toNat (2 ^ 61) with hslot | hslot
  swap
  · simp only [slotFits_eq_none hpow hslot, liftM, monadLift_none, Outcome.error_bind]
    exact .inr (.inl ⟨trivial, hwidth, hpow, hslot⟩)
  have hwide : ¬ bus.SlotTooWide := fun h => by have := h.2.2; omega
  simp only [slotFits_eq_some hpow hslot, liftM, monadLift_some, Outcome.ok_bind, decide_eq_true_eq]
  by_cases hle : bus.dataWidth.toNat ≤ 8 * bus.slotSize.toNat
  swap
  · simp only [hle, not_false_eq_true, if_true, refuse_bind]
    exact .inr (.inr ⟨⟨_, rfl⟩, fun h => hle h.dataWidth_le, hwide⟩)
  have hne : bus.slotSize ≠ 0 := fun h0 => by
    obtain ⟨k, hk⟩ := hpow
    have := Nat.two_pow_pos k
    rw [h0] at hk
    simp at hk
    omega
  have hdvd : bus.base % bus.slotSize = 0 ↔ bus.slotSize.toNat ∣ bus.base.toNat := by
    rw [← UInt64.toNat_inj, UInt64.toNat_mod, Nat.dvd_iff_mod_eq_zero]
    rfl
  simp only [hle, not_true_eq_false, if_false, mod?_eq_some hne, monadLift_some,
    Outcome.ok_bind, ne_eq, hdvd]
  by_cases hbase : bus.slotSize.toNat ∣ bus.base.toNat
  swap
  · simp only [hbase, not_false_eq_true, if_true, refuse_bind]
    exact .inr (.inr ⟨⟨_, rfl⟩, fun h => hbase h.base, hwide⟩)
  simp only [hbase, not_true_eq_false, if_false]
  rcases checkRounding_eq hpow with ⟨hok, hunit, hge⟩ | ⟨hbad, hnot⟩
  · exact .inl ⟨hok, ⟨hwidth, hpow, hle, hbase, hunit, hge⟩, hslot⟩
  · exact .inr (.inr ⟨hbad, fun h => hnot ⟨h.roundingUnit, h.slotSize_le⟩, hwide⟩)

lemma check_eq_ok_iff : bus.check = .ok () ↔ bus.Sound ∧ bus.slotSize.toNat < 2 ^ 61 := by
  rcases check_cases bus with ⟨h, hs⟩ | ⟨h, -, -, hw⟩ | ⟨⟨flaw, h⟩, hs, -⟩
  · exact ⟨fun _ => hs, fun _ => h⟩
  · rw [h]
    exact ⟨nofun, fun hs => by have := hs.2; omega⟩
  · rw [h]
    exact ⟨nofun, fun hs' => absurd hs'.1 hs⟩

end CsrMap.BusGeometry
