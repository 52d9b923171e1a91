import CsrMap.Proofs.Declaration.WellFormed
import Mathlib.Data.List.Sort

/-!
Fields that share no bit.

The check of a register puts its fields in the order of their lowest bits and looks at neighbours
only. That is enough: a field ends at or behind its own start, so fields that follow their left
neighbours follow all fields to the left of them. What the check accepts can then be said without
an order, and the fields that it names as overlapping do have a bit in common.
-/

namespace CsrMap

namespace Field

/-- Some bit belongs to both fields. -/
def Meets (f g : Field) : Prop := ∃ bit, f.Covers bit ∧ g.Covers bit

/-- The field ends at the first bit of the other one or below it. -/
def Before (f g : Field) : Prop := f.endBit ≤ g.offset.toNat

variable {f g : Field} {fields : List Field} {width : UInt32}

lemma Meets.symm (h : f.Meets g) : g.Meets f := by
  obtain ⟨bit, hf, hg⟩ := h
  exact ⟨bit, hg, hf⟩

lemma Before.trans {h : Field} (hfg : f.Before g) (hgh : g.Before h) : f.Before h := by
  unfold Before endBit at *
  omega

instance : Trans Before Before Before := ⟨Before.trans⟩

lemma FitsIn.width_pos (h : f.FitsIn width) : 0 < f.width.toNat := by
  have hne := h.width_ne
  rw [ne_eq, ← UInt32.toNat_inj] at hne
  exact Nat.pos_of_ne_zero hne

/-- The field with the lower start meets the other one unless it ends before it. -/
lemma meets_iff_not_before (hg : 0 < g.width.toNat)
    (hle : f.offset.toNat ≤ g.offset.toNat) : f.Meets g ↔ ¬ f.Before g := by
  unfold Meets Before Covers endBit
  constructor
  · rintro ⟨bit, ⟨-, hend⟩, hstart, -⟩
    omega
  · intro hover
    exact ⟨g.offset.toNat, by omega, by omega⟩

/-! ### Neighbours -/

/-- No neighbours overlap where each field stands before all that follow it. -/
lemma overlap?_eq_none_iff : overlap? fields = none ↔ fields.Pairwise Before := by
  rw [← List.isChain_iff_pairwise]
  induction fields with
  | nil => simp [overlap?]
  | cons f fields ih =>
    cases fields with
    | nil => simp [overlap?]
    | cons g fields =>
      rw [overlap?, List.isChain_cons_cons, ← ih]
      by_cases hlt : g.offset.toNat < f.endBit
      · simp [hlt, Before]
      · simp [hlt, Before, Nat.le_of_not_lt hlt]

/-- Neighbours that overlap stand in the list one after the other. -/
lemma overlap?_eq_some (h : overlap? fields = some (f, g)) :
    [f, g].Sublist fields ∧ ¬ f.Before g := by
  induction fields with
  | nil => simp [overlap?] at h
  | cons x fields ih =>
    cases fields with
    | nil => simp [overlap?] at h
    | cons y fields =>
      rw [overlap?] at h
      split at h
      · rename_i hlt
        obtain ⟨rfl, rfl⟩ := Prod.mk.inj (Option.some.inj h)
        refine ⟨by simp, ?_⟩
        unfold Before
        omega
      · obtain ⟨hsub, hover⟩ := ih h
        exact ⟨hsub.cons x, hover⟩

/-! ### The order of the lowest bits -/

lemma sorted_perm (fields : List Field) : (sorted fields).Perm fields :=
  List.mergeSort_perm _ _

lemma pairwise_sorted (fields : List Field) :
    (sorted fields).Pairwise fun f g => f.offset.toNat ≤ g.offset.toNat := by
  have hsorted : (sorted fields).Pairwise fun f g => decide (f.offset ≤ g.offset) = true := by
    apply List.pairwise_mergeSort
    case trans =>
      intro f g h hfg hgh
      rw [decide_eq_true_eq, UInt32.le_iff_toNat_le] at *
      omega
    case total =>
      intro f g
      rw [Bool.or_eq_true, decide_eq_true_eq, decide_eq_true_eq, UInt32.le_iff_toNat_le,
        UInt32.le_iff_toNat_le]
      omega
  apply hsorted.imp
  intro f g hle
  exact UInt32.le_iff_toNat_le.1 (of_decide_eq_true hle)

/-- **Looking at neighbours is enough**: sorted fields that have bits share none of them where no
neighbours overlap. -/
theorem overlap?_sorted_eq_none_iff (hpos : ∀ f ∈ fields, 0 < f.width.toNat) :
    overlap? (sorted fields) = none ↔ fields.Pairwise fun f g => ¬ f.Meets g := by
  have hunordered := (sorted_perm fields).pairwise_iff (R := fun f g => ¬ f.Meets g)
    fun hnot hmeets => hnot hmeets.symm
  rw [overlap?_eq_none_iff, ← hunordered]
  have hpos (f : Field) (hf : f ∈ sorted fields) : 0 < f.width.toNat :=
    hpos f ((sorted_perm fields).mem_iff.1 hf)
  constructor
  · intro hbefore
    apply (hbefore.and (pairwise_sorted fields)).imp_of_mem
    rintro f g - hg ⟨hfg, hle⟩ hmeets
    exact (meets_iff_not_before (hpos g hg) hle).1 hmeets hfg
  · intro hapart
    apply (hapart.and (pairwise_sorted fields)).imp_of_mem
    rintro f g - hg ⟨hnot, hle⟩
    by_contra hover
    exact hnot ((meets_iff_not_before (hpos g hg) hle).2 hover)

/-- Sorted fields that are found to overlap are two fields with a bit in common. -/
lemma meets_of_overlap? (hpos : ∀ f ∈ fields, 0 < f.width.toNat)
    (hnames : (fields.map (·.name)).Nodup) (h : overlap? (sorted fields) = some (f, g)) :
    f ∈ fields ∧ g ∈ fields ∧ f.name ≠ g.name ∧ f.Meets g := by
  obtain ⟨hsub, hover⟩ := overlap?_eq_some h
  have hmem (x : Field) (hx : x ∈ [f, g]) : x ∈ fields :=
    (sorted_perm fields).mem_iff.1 (hsub.subset hx)
  have hf := hmem f (by simp)
  have hg := hmem g (by simp)
  refine ⟨hf, hg, ?_, ?_⟩
  · have hnodup := ((sorted_perm fields).map (·.name)).nodup_iff.2 hnames
    simpa using hnodup.sublist (hsub.map _)
  · have hle := (pairwise_sorted fields).sublist hsub
    rw [List.pairwise_pair] at hle
    exact (meets_iff_not_before (hpos g hg) hle).2 hover

end Field

/-! ### Refusals -/

variable {register first second : String}

lemma checkName_ne_fieldOverlap (name : String) :
    checkName name ≠ .error (.fieldOverlap register first second) := by
  unfold checkName
  split <;> simp

/-- A field by itself is never refused for another one. -/
lemma Field.checkEach_ne_fieldOverlap (owner : String) (width : UInt32) (earlier : List String)
    (fields : List Field) :
    Field.checkEach owner width earlier fields ≠ .error (.fieldOverlap register first second) := by
  induction fields generalizing earlier with
  | nil => simp [checkEach]
  | cons f fields ih =>
    simp [checkEach, step_eq_error_iff, guard_eq_error_iff, checkName_ne_fieldOverlap, ih]

namespace Register

variable {bank : String} {r : Register}

/-- Overlapping fields are named only where the fields are in order otherwise. -/
lemma check_eq_fieldOverlap (h : r.check bank = .error (.fieldOverlap register first second)) :
    register = bank ++ "." ++ r.name ∧ (∀ f ∈ r.fields, f.FitsIn r.width) ∧
      (r.fields.map (·.name)).Nodup ∧
      ∃ f g, Field.overlap? (Field.sorted r.fields) = some (f, g) ∧
        f.name = first ∧ g.name = second := by
  simp only [check, checkFields, step_eq_error_iff, guard_eq_error_iff, checkName_ne_fieldOverlap,
    Field.checkEach_ne_fieldOverlap, Field.checkEach_eq_ok_iff, reduceCtorEq, and_false,
    false_or] at h
  obtain ⟨-, -, -, -, ⟨hfits, hnames, -⟩, hneighbours⟩ := h
  cases hpair : Field.overlap? (Field.sorted r.fields) with
  | none =>
    rw [hpair] at hneighbours
    cases hneighbours
  | some pair =>
    rw [hpair] at hneighbours
    obtain ⟨f, g⟩ := pair
    cases hneighbours
    exact ⟨rfl, hfits, hnames, f, g, rfl, rfl, rfl⟩

lemma reset_le_mask_iff (hwidth : r.width.toNat ≤ 64) :
    r.reset ≤ r.mask ↔ r.reset.toNat < 2 ^ r.width.toNat := by
  have hpos : 0 < 2 ^ r.width.toNat := Nat.two_pow_pos _
  rw [mask, UInt64.le_iff_toNat_le, toNat_lowBits, Nat.min_eq_left hwidth]
  omega

/-- **What the check of a register asks**, said without the order of its steps: the register and
its fields have valid names, those of the fields are distinct, the width is one that a map can
hold, the reset value fits in it, and each field has bits of the register that no other one has.
Fields that it refuses as overlapping do share a bit. -/
theorem check_accepts (bank : String) (r : Register) :
    (r.check bank = .ok () ↔
      isName r.name ∧ 1 ≤ r.width.toNat ∧ r.width.toNat ≤ 64 ∧
        r.reset.toNat < 2 ^ r.width.toNat ∧
        (∀ f ∈ r.fields, isName f.name) ∧ (r.fields.map (·.name)).Nodup ∧
        (∀ f ∈ r.fields, 1 ≤ f.width.toNat ∧
          f.offset.toNat + f.width.toNat ≤ r.width.toNat) ∧
        r.fields.Pairwise fun f g => ¬ f.Meets g) ∧
    ∀ register first second, r.check bank = .error (.fieldOverlap register first second) →
      register = bank ++ "." ++ r.name ∧ (r.fields.map (·.name)).Nodup ∧
        ∃ f ∈ r.fields, ∃ g ∈ r.fields, f.name = first ∧ g.name = second ∧ first ≠ second ∧
          f.Meets g := by
  refine ⟨?accepts, ?overlaps⟩
  case accepts =>
    rw [check_eq_ok_iff]
    constructor
    · intro h
      have hpos (f : Field) (hf : f ∈ r.fields) : 0 < f.width.toNat := (h.fields f hf).width_pos
      refine ⟨h.name, h.width_pos, h.width_le, (reset_le_mask_iff h.width_le).1 h.reset_le,
        fun f hf => (h.fields f hf).name, h.fieldNames,
        fun f hf => ⟨hpos f hf, (h.fields f hf).endBit_le⟩, ?_⟩
      exact (Field.overlap?_sorted_eq_none_iff hpos).1 h.fieldsApart
    · rintro ⟨hname, hpos, hle, hreset, hfieldNames, hnames, hrange, hapart⟩
      refine
        { name := hname
          width_pos := hpos
          width_le := hle
          reset_le := (reset_le_mask_iff hle).2 hreset
          fields := fun f hf => ⟨hfieldNames f hf, ?width, (hrange f hf).2⟩
          fieldNames := hnames
          fieldsApart := ?apart }
      case width =>
        have hwidth := (hrange f hf).1
        intro hzero
        simp [hzero] at hwidth
      case apart =>
        exact (Field.overlap?_sorted_eq_none_iff fun f hf => (hrange f hf).1).2 hapart
  case overlaps =>
    intro register first second h
    obtain ⟨hregister, hfits, hnames, f, g, hpair, rfl, rfl⟩ := check_eq_fieldOverlap h
    obtain ⟨hf, hg, hne, hmeets⟩ :=
      Field.meets_of_overlap? (fun f hf => (hfits f hf).width_pos) hnames hpair
    exact ⟨hregister, hnames, f, hf, g, hg, rfl, rfl, hne, hmeets⟩

/-- The fields are not in the order of their bits, and the two that overlap are no neighbours. -/
theorem check_accepts_overlap :
    let r : Register :=
      ⟨"r", 16, .storage, [⟨"a", 0, 4, none⟩, ⟨"c", 9, 3, none⟩, ⟨"d", 3, 6, none⟩], 0, none⟩
    r.check "b" = .error (.fieldOverlap "b.r" "a" "d") ∧
      ∃ f ∈ r.fields, ∃ g ∈ r.fields, f.name = "a" ∧ g.name = "d" ∧ f.Meets g := by
  intro r
  have hsorted : Field.sorted r.fields
      = [⟨"a", 0, 4, none⟩, ⟨"d", 3, 6, none⟩, ⟨"c", 9, 3, none⟩] := by
    simp [r, Field.sorted, List.mergeSort]
  have h : r.check "b" = .error (.fieldOverlap "b.r" "a" "d") := by
    unfold check checkFields
    rw [hsorted]
    decide +kernel
  obtain ⟨-, -, f, hf, g, hg, hfirst, hsecond, -, hmeets⟩ := (check_accepts "b" r).2 _ _ _ h
  exact ⟨h, f, hf, g, hg, hfirst, hsecond, hmeets⟩

end Register

end CsrMap
