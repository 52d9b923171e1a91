import CsrMap.Proofs.Declaration.Calls
import CsrMap.Proofs.Word.Arithmetic
import Mathlib.Data.List.Forall2

/-!
Declarations within others.

`StartOf` tells that more was declared after some declarations. `Within` also allows for regions
and constants in between and for a region that is larger, so that it covers two systems of which
neither was made out of the other. What lies within well-formed declarations is well formed.
-/

namespace CsrMap

/-- A region of the same name that starts at the same address and is no larger. -/
structure Region.Within (r s : Region) : Prop where
  name : r.name = s.name
  origin : r.origin = s.origin
  size_le : r.size ≤ s.size
  size_ne : s.size ≠ 0 → r.size ≠ 0

/-- All that `d` declares is declared in `next`, where regions may be larger. -/
structure Declarations.Within (d next : Declarations) : Prop where
  banks : d.banks <+: next.banks
  interrupts : d.interrupts.entries <+: next.interrupts.entries
  regions : List.SublistForall₂ Region.Within d.regions next.regions
  constants : d.constants.Sublist next.constants

section Regions

variable {r r' s s' : Region} {regions larger : List Region}

lemma Region.Within.refl (r : Region) : r.Within r := ⟨rfl, rfl, UInt64.le_refl _, id⟩

instance : Std.Refl Region.Within := ⟨Region.Within.refl⟩

lemma Region.Within.covers (h : r.Within s) {a : UInt64} (ha : r.Covers a) : s.Covers a := by
  obtain ⟨hlow, hhigh⟩ := ha
  have hsize := UInt64.le_iff_toNat_le.1 h.size_le
  rw [h.origin] at hlow hhigh
  exact ⟨hlow, by omega⟩

/-- Smaller regions stay apart. -/
lemma Region.Within.not_meets (hr : r.Within r') (hs : s.Within s')
    (h : ¬ r'.meets s'.origin s'.size) : ¬ r.meets s.origin s.size := by
  have hrsize := UInt64.le_iff_toNat_le.1 hr.size_le
  have hssize := UInt64.le_iff_toNat_le.1 hs.size_le
  rw [Region.meets_iff] at h ⊢
  rw [hr.origin, hs.origin]
  omega

lemma exists_within_of_mem (h : List.SublistForall₂ Region.Within regions larger)
    (hr : r ∈ regions) : ∃ s ∈ larger, r.Within s := by
  induction h with
  | nil => cases hr
  | cons hrs _ ih =>
    rcases List.mem_cons.1 hr with rfl | hr
    · exact ⟨_, by simp, hrs⟩
    · obtain ⟨s, hs, hwithin⟩ := ih hr
      exact ⟨s, by simp [hs], hwithin⟩
  | cons_right _ ih =>
    obtain ⟨s, hs, hwithin⟩ := ih hr
    exact ⟨s, by simp [hs], hwithin⟩

lemma map_name_sublist (h : List.SublistForall₂ Region.Within regions larger) :
    (regions.map (·.name)).Sublist (larger.map (·.name)) := by
  induction h with
  | nil => exact List.nil_sublist _
  | cons hrs _ ih =>
    rw [List.map_cons, List.map_cons, hrs.name]
    exact ih.cons_cons _
  | cons_right _ ih => exact ih.cons _

lemma pairwise_apart_of_within (h : List.SublistForall₂ Region.Within regions larger)
    (hlarger : larger.Pairwise fun r s => ¬ r.meets s.origin s.size) :
    regions.Pairwise fun r s => ¬ r.meets s.origin s.size := by
  induction h with
  | nil => exact .nil
  | cons hrs htail ih =>
    obtain ⟨hhead, hrest⟩ := List.pairwise_cons.1 hlarger
    refine List.pairwise_cons.2 ⟨fun s hs => ?_, ih hrest⟩
    obtain ⟨s', hs', hwithin⟩ := exists_within_of_mem htail hs
    exact hrs.not_meets hwithin (hhead s' hs')
  | cons_right _ ih => exact ih (List.pairwise_cons.1 hlarger).2

end Regions

namespace Declarations

variable {d next last : Declarations}

lemma StartOf.within (h : d.StartOf next) : d.Within next where
  banks := h.banks
  interrupts := h.interrupts
  regions := h.regions.sublist.sublistForall₂
  constants := h.constants.sublist

lemma Within.wellFormed (h : d.Within next) (hnext : next.WellFormed) : d.WellFormed where
  interrupts i hi := hnext.interrupts i (h.interrupts.subset hi)
  regions r hr := by
    obtain ⟨s, hs, hwithin⟩ := exists_within_of_mem h.regions hr
    rw [hwithin.name]
    exact hnext.regions s hs
  constants c hc := hnext.constants c (h.constants.subset hc)
  banks b hb := hnext.banks b (h.banks.subset hb)
  bankNames := hnext.bankNames.sublist (h.banks.sublist.map _)
  peripherals i hi := hnext.peripherals i (h.interrupts.subset hi)
  interruptNames := hnext.interruptNames.sublist (h.interrupts.sublist.map _)
  bits k i hi := by
    obtain ⟨hk, rfl⟩ := List.getElem?_eq_some_iff.1 hi
    exact hnext.bits k _ (List.prefix_iff_getElem?.1 h.interrupts k hk)
  vector := h.interrupts.length_le.trans hnext.vector
  regionSizes r hr := by
    obtain ⟨s, hs, hwithin⟩ := exists_within_of_mem h.regions hr
    exact hwithin.size_ne (hnext.regionSizes s hs)
  regionNames := hnext.regionNames.sublist (map_name_sublist h.regions)
  regionsApart := pairwise_apart_of_within h.regions hnext.regionsApart
  constantNames := hnext.constantNames.sublist (h.constants.map _)

lemma StartOf.refl (d : Declarations) : d.StartOf d :=
  startOf_of_grows .refl

lemma StartOf.trans (h : d.StartOf next) (h' : next.StartOf last) : d.StartOf last where
  banks := h.banks.trans h'.banks
  interrupts := h.interrupts.trans h'.interrupts
  regions := h.regions.trans h'.regions
  constants := h.constants.trans h'.constants

end Declarations

end CsrMap
