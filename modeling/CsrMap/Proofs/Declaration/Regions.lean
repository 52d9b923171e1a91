import CsrMap.Proofs.Declaration.Calls
import CsrMap.Proofs.Word.Arithmetic

/-!
Memory regions that are declared are apart, but for the largest address.

Ends of regions are clamped to the largest address, so the check between two regions sees every
address that they share except that one. It refuses a region only for an address that is shared.
-/

namespace CsrMap

namespace Region

variable {r s : Region}

/-- The largest address. -/
def top : UInt64 := 0xffffffffffffffff

lemma toNat_top : top.toNat = 2 ^ 64 - 1 := rfl

lemma lt_top_iff {a : UInt64} : a < top ↔ a.toNat < 2 ^ 64 - 1 := UInt64.lt_iff_toNat_lt

/-- **The check sees every shared address** below the largest, and no others. -/
theorem meets_iff_exists {origin size : UInt64} (hr : r.size ≠ 0) (hs : size ≠ 0) :
    r.meets origin size ↔ ∃ a < top, r.Covers a ∧
      origin.toNat ≤ a.toNat ∧ a.toNat < origin.toNat + size.toNat := by
  rw [UInt64.ne_zero_iff] at hr hs
  rw [meets_iff]
  constructor
  · rintro ⟨hlow, hhigh⟩
    -- Where two ranges meet, the later of their origins lies in both.
    rcases Nat.le_total r.origin.toNat origin.toNat with hle | hle
    · refine ⟨origin, ?_, ⟨hle, by omega⟩, le_rfl, by omega⟩
      rw [lt_top_iff]
      omega
    · refine ⟨r.origin, ?_, ⟨le_rfl, by omega⟩, hle, by omega⟩
      rw [lt_top_iff]
      omega
  · rintro ⟨a, htop, ⟨hrlow, hrhigh⟩, hlow, hhigh⟩
    rw [lt_top_iff] at htop
    omega

/-- Regions that the check lets through share the largest address at most. -/
lemma eq_top_of_not_meets (hr : r.size ≠ 0) (hs : s.size ≠ 0) (h : ¬ r.meets s.origin s.size)
    {a : UInt64} (hra : r.Covers a) (hsa : s.Covers a) : a = top := by
  by_contra hne
  have hlt : a < top := by
    have := a.toNat_lt
    have hne : a.toNat ≠ top.toNat := fun heq => hne (UInt64.toNat_inj.1 heq)
    rw [toNat_top] at hne
    rw [lt_top_iff]
    omega
  exact h ((meets_iff_exists hr hs).2 ⟨a, hlt, hra, hsa⟩)

/-- Regions in the order of their origins are apart where each ends before the later ones. -/
lemma pairwise_not_meets_iff {regions : List Region} (hsizes : ∀ r ∈ regions, r.size ≠ 0)
    (horder : (regions.map (·.origin)).Pairwise (· ≤ ·))
    (htop : ∀ origin ∈ regions.map (·.origin), origin < top) :
    (regions.Pairwise fun r s => ¬ r.meets s.origin s.size) ↔
      regions.Pairwise fun r s => r.origin.toNat + r.size.toNat ≤ s.origin.toNat := by
  have hpair {r s : Region} (hs : s ∈ regions) (hle : r.origin ≤ s.origin) :
      ¬ r.meets s.origin s.size ↔ r.origin.toNat + r.size.toNat ≤ s.origin.toNat := by
    have hsize := UInt64.ne_zero_iff.1 (hsizes s hs)
    have hlow := lt_top_iff.1 (htop _ (List.mem_map_of_mem hs))
    rw [UInt64.le_iff_toNat_le] at hle
    rw [meets_iff]
    omega
  rw [List.pairwise_map] at horder
  constructor
  · intro h
    exact (horder.and h).imp_of_mem fun _ hs ⟨hle, hapart⟩ => (hpair hs hle).1 hapart
  · intro h
    exact (horder.and h).imp_of_mem fun _ hs ⟨hle, hend⟩ => (hpair hs hle).2 hend

end Region

namespace Declarations

variable {d : Declarations} {region : Region} {first second : String}

/-- A region is refused as overlapping one that it meets. -/
lemma withRegion_eq_overlap
    (h : d.withRegion region = .error (.regionOverlap first second)) :
    region.size ≠ 0 ∧
      ∃ r ∈ d.regions, r.name = first ∧ r.meets region.origin region.size := by
  have hcheck {regions : List Region}
      (h : checkRegion region regions = .error (.regionOverlap first second)) :
      ∃ r ∈ regions, r.name = first ∧ r.meets region.origin region.size := by
    induction regions with
    | nil => cases h
    | cons r regions ih =>
      rw [checkRegion] at h
      split at h
      · cases h
      · split at h
        · rename_i hmeets
          cases h
          exact ⟨r, by simp, rfl, hmeets⟩
        · obtain ⟨s, hs, hfound⟩ := ih h
          exact ⟨s, by simp [hs], hfound⟩
  unfold withRegion checkName at h
  split at h
  · simp only [bind, Except.bind] at h
    split at h
    · cases h
    · rename_i hsize
      cases hregions : checkRegion region d.regions with
      | ok u =>
        rw [hregions] at h
        cases h
      | error cause =>
        rw [hregions] at h
        cases h
        exact ⟨hsize, hcheck hregions⟩
  · cases h

/-- **Regions share the largest address at most**, after any calls, and a region is refused for
an overlap only where it shares an address with an earlier one. -/
theorem after_regions_share_top_only (calls : List Call) :
    (after {} calls).regions.Pairwise (fun r s => ∀ a, r.Covers a → s.Covers a → a = Region.top) ∧
      ∀ (region : Region) (first second : String),
        (after {} calls).withRegion region = .error (.regionOverlap first second) →
          ∃ r ∈ (after {} calls).regions, r.name = first ∧ ∃ a, r.Covers a ∧ region.Covers a := by
  have hd := wellFormed_after calls
  refine ⟨hd.regionsApart.imp_of_mem fun hr hs hapart a hra hsa => ?_,
    fun region first second h => ?_⟩
  · exact Region.eq_top_of_not_meets (hd.regionSizes _ hr) (hd.regionSizes _ hs) hapart hra hsa
  · obtain ⟨hsize, r, hr, hname, hmeets⟩ := withRegion_eq_overlap h
    obtain ⟨a, -, hra, hlow, hhigh⟩ :=
      (Region.meets_iff_exists (hd.regionSizes r hr) hsize).1 hmeets
    exact ⟨r, hr, hname, a, hra, hlow, hhigh⟩

/-- Two regions of one byte at the largest address: the second is not refused, and both hold the
address. -/
theorem after_regions_at_top :
    (after {} [.region ⟨"a", Region.top, 1, .io⟩, .region ⟨"b", Region.top, 1, .io⟩]).regions
        = [⟨"a", Region.top, 1, .io⟩, ⟨"b", Region.top, 1, .io⟩] ∧
      Region.Covers ⟨"a", Region.top, 1, .io⟩ Region.top ∧
      Region.Covers ⟨"b", Region.top, 1, .io⟩ Region.top := by
  decide +kernel

end Declarations

end CsrMap
