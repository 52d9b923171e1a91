import CsrMap.Proofs.Placement.Positions

/-!
Which bank holds an address.

Bisection counts the entries that pass where all of them stand in front. The banks of a layout
that start at or before an address do, so the bank found is the one that covers the address, if
there is one.
-/

namespace CsrMap

section Bisection

variable {α : Type} {test : α → Bool} {n : ℕ}

lemma bisectFrom_eq {xs : Array α} {lo hi : ℕ}
    (h : ∀ (i : ℕ) (x : α), xs[i]? = some x → (test x = true ↔ i < n)) (hlo : lo ≤ n) (hhi : n ≤ hi)
    (hsize : hi ≤ xs.size) : bisectFrom xs test lo hi = n := by
  fun_induction bisectFrom xs test lo hi with
  | case1 lo hi hlt mid hnone =>
    rw [Array.getElem?_eq_none_iff] at hnone
    omega
  | case2 lo hi hlt mid x hx hpass ih =>
    have := (h mid x hx).1 hpass
    exact ih this hhi hsize
  | case3 lo hi hlt mid x hx hfail ih =>
    have := mt (h mid x hx).2 hfail
    exact ih hlo (by omega) (by omega)
  | case4 lo hi hge => omega

/-- Bisection counts the entries that pass, where these are the first `n`. -/
theorem bisect_eq {xs : List α} (h : ∀ (i : ℕ) (x : α), xs[i]? = some x → (test x = true ↔ i < n))
    (hn : n ≤ xs.length) : bisect xs test = n :=
  bisectFrom_eq (fun i x hx => h i x (by simpa using hx)) (Nat.zero_le n) hn (by simp)

lemma bisectFrom_le {xs : Array α} {lo hi : ℕ} (h : lo ≤ hi) : bisectFrom xs test lo hi ≤ hi := by
  fun_induction bisectFrom xs test lo hi with
  | case1 => exact h
  | case2 lo hi hlt mid x hx hpass ih => exact ih (by omega)
  | case3 lo hi hlt mid x hx hfail ih => exact (ih (by omega)).trans (by omega)
  | case4 => exact h

/-- Bisection counts no more entries than there are. -/
lemma bisect_le_length (xs : List α) (test : α → Bool) : bisect xs test ≤ xs.length :=
  bisectFrom_le (Nat.zero_le _)

/-- Entries before one that passes pass: then the entries that pass are the first ones. -/
lemma exists_prefix (xs : List α) (test : α → Bool)
    (hmono : ∀ (i j : ℕ) (x y : α), xs[i]? = some x → xs[j]? = some y → i ≤ j →
      test y → test x) :
    ∃ n ≤ xs.length, ∀ (i : ℕ) (x : α), xs[i]? = some x → (test x = true ↔ i < n) := by
  refine ⟨xs.findIdx fun x => !test x, List.findIdx_le_length, fun i x hx => ?_⟩
  obtain ⟨hi, rfl⟩ := List.getElem?_eq_some_iff.1 hx
  constructor
  · intro hpass
    by_contra hge
    have hlt : xs.findIdx (fun x => !test x) < xs.length := (Nat.le_of_not_lt hge).trans_lt hi
    have hfail := List.findIdx_getElem (w := hlt)
    have := hmono _ i _ _ (List.getElem?_eq_getElem hlt) hx (Nat.le_of_not_lt hge) hpass
    simp [this] at hfail
  · intro hlt
    simpa using List.not_of_lt_findIdx hlt

end Bisection

lemma PlacedBank.contains_eq {b : PlacedBank} (h : b.base.toNat + b.size.toNat < 2 ^ 64)
    (address : UInt64) : b.contains address = some (decide (b.Covers address)) := by
  have hend : b.endAddress = some (b.base.toNat + b.size.toNat).toUInt64 := by
    rw [PlacedBank.endAddress, UInt64.add?_eq_some_iff]
    exact UInt64.toNat_ofNat_of_lt' h
  have hlt : address < (b.base.toNat + b.size.toNat).toUInt64 ↔
      address.toNat < b.base.toNat + b.size.toNat := by
    rw [UInt64.lt_iff_toNat_lt, show (b.base.toNat + b.size.toNat).toUInt64.toNat
      = b.base.toNat + b.size.toNat from UInt64.toNat_ofNat_of_lt' h]
  rw [PlacedBank.contains, hend]
  simp only [PlacedBank.Covers, Option.bind_eq_bind, Option.bind_some, hlt]
  split
  · rename_i hle
    simp [UInt64.le_iff_toNat_le.1 hle]
  · rename_i hle
    rw [UInt64.le_iff_toNat_le] at hle
    simp [hle]

namespace BusGeometry

variable {bus : BusGeometry} {banks : List Bank} {b : Bank} {placed : PlacedBank} {i : ℕ}
  {address : UInt64}

lemma StandsAt.end_lt (h : bus.StandsAt banks i placed b) :
    placed.base.toNat + placed.size.toNat < 2 ^ 64 := by
  rw [h.base, h.size]
  exact h.fits.end_lt

lemma holderIndex_of_covers (hfit : bus.Fits banks) (h : bus.StandsAt banks i placed b)
    (hplaced : (bus.layout banks).banks[i]? = some placed) (hc : placed.Covers address) :
    (bus.layout banks).holderIndex address = some (some i) := by
  have hcount : bisect (bus.layout banks).banks (·.base ≤ address) = i + 1 := by
    refine bisect_eq (fun j other hj => ?_) (List.getElem?_eq_some_iff.1 hplaced).1
    obtain ⟨c, hother⟩ := hfit.standsAt hj
    rw [decide_eq_true_eq, UInt64.le_iff_toNat_le]
    constructor
    · intro hle
      by_contra hge
      have := h.le_of_lt hother (show i < j by omega)
      have := hc.2
      omega
    · intro hlt
      have hmono := bus.total_take_mono banks (show j ≤ i by omega)
      have hbase := h.base
      have hbase' := hother.base
      have := hc.1
      omega
  simp only [AddressMap.holderIndex, hcount, hplaced]
  rw [PlacedBank.contains_eq h.end_lt, decide_eq_true hc]
  rfl

lemma holderIndex_of_not_covers (hfit : bus.Fits banks)
    (hnot : ∀ placed ∈ (bus.layout banks).banks, ¬ placed.Covers address) :
    (bus.layout banks).holderIndex address = some none := by
  obtain ⟨n, hn, hpass⟩ := exists_prefix (bus.layout banks).banks
    (fun placed => decide (placed.base ≤ address)) fun i j x y hx hy hij hpass => by
      obtain ⟨b, hb⟩ := hfit.standsAt hx
      obtain ⟨c, hc⟩ := hfit.standsAt hy
      have hmono := bus.total_take_mono banks hij
      have hbase := hb.base
      have hbase' := hc.base
      rw [decide_eq_true_eq, UInt64.le_iff_toNat_le] at hpass ⊢
      omega
  have hcount := bisect_eq hpass hn
  cases n with
  | zero => simp only [AddressMap.holderIndex, hcount]; rfl
  | succ k =>
    have hk := List.getElem?_eq_getElem (l := (bus.layout banks).banks) (i := k) (by omega)
    obtain ⟨b, hb⟩ := hfit.standsAt hk
    have hcontains := PlacedBank.contains_eq hb.end_lt address
    rw [decide_eq_false (hnot _ (List.mem_of_getElem? hk))] at hcontains
    simp only [AddressMap.holderIndex, hcount, hk, hcontains]
    rfl

end BusGeometry

end CsrMap
