import CsrMap.Proofs.Placement.Lookup
import CsrMap.Proofs.Placement.Partition

/-!
The search for a bank by address against a scan of all banks.

The search looks at one bank only, the last that does not start behind the address. In a placement
the banks stand in the order of their addresses and none reaches into the next one, so the bank
looked at is the one that covers the address, and where it does not cover it no bank does.
-/

namespace CsrMap

open BusGeometry

/-- How the banks of a map answer for an address: the search gives what a scan of the banks gives,
at most one bank covers the address, and it is found exactly where there is one. -/
structure AddressMap.ScansAt (m : AddressMap) (address : UInt64) : Prop where
  holder_eq : m.holder address = some (m.scan? address)
  holderIndex_eq :
    m.holderIndex address = some (m.banks.findIdx? fun b => decide (b.Covers address))
  unique : ∀ (i j : ℕ) (b c : PlacedBank), m.banks[i]? = some b → m.banks[j]? = some c →
    b.Covers address → c.Covers address → i = j
  found_iff : ∀ b, m.holder address = some (some b) ↔ b ∈ m.banks ∧ b.Covers address
  missing_iff : m.holder address = some none ↔ ∀ b ∈ m.banks, ¬ b.Covers address
  /-- No bank holds an address below all banks; without banks that is every address. -/
  below : (∀ b ∈ m.banks.head?, address < b.base) → m.holder address = some none
  /-- Where one bank ends and the next one starts, the next one is found. -/
  boundary : ∀ (i : ℕ) (b c : PlacedBank), m.banks[i]? = some b → m.banks[i + 1]? = some c →
    (address.toNat = b.base.toNat + b.size.toNat ↔ address = c.base) ∧
      (address = c.base → m.holder address = some (some c))
  /-- No bank holds the address where the last one ends, nor one behind it. -/
  behind : (∀ b ∈ m.banks.getLast?, b.base.toNat + b.size.toNat ≤ address.toNat) →
    m.holder address = some none

namespace BusGeometry

variable {bus : BusGeometry} {banks : List Bank} {b c : Bank} {placed other : PlacedBank} {i j : ℕ}
  {address : UInt64}

/-- No two banks cover one address. -/
lemma StandsAt.eq_of_covers (hi : bus.StandsAt banks i placed b)
    (hj : bus.StandsAt banks j other c) (hplaced : placed.Covers address)
    (hother : other.Covers address) : i = j := by
  unfold PlacedBank.Covers at hplaced hother
  rcases Nat.lt_trichotomy i j with hlt | heq | hlt
  · have := hi.le_of_lt hj hlt
    omega
  · exact heq
  · have := hj.le_of_lt hi hlt
    omega

/-- A bank of a layout has bytes: those of its first register. -/
lemma StandsAt.size_pos (hbus : bus.Sound) (hfit : bus.Fits banks)
    (hi : bus.StandsAt banks i placed b) : 0 < placed.size.toNat := by
  have hwf := hfit.wellFormed b (List.mem_of_getElem? hi.bank)
  obtain ⟨r, registers, hregisters⟩ := List.exists_cons_of_ne_nil hwf.registers_ne
  have hspan := span_pos hbus (hwf.registers r (by simp [hregisters]))
  have hneed := hi.fits.need_le
  rw [hregisters, need_cons] at hneed
  have hsize := hi.size
  omega

/-- The search in a layout stops at the first bank that covers the address. -/
lemma Fits.holderIndex_eq (hfit : bus.Fits banks) (address : UInt64) :
    (bus.layout banks).holderIndex address
      = some ((bus.layout banks).banks.findIdx? fun b => decide (b.Covers address)) := by
  cases hscan : (bus.layout banks).banks.findIdx? fun b => decide (b.Covers address) with
  | none =>
    rw [List.findIdx?_eq_none_iff] at hscan
    exact holderIndex_of_not_covers hfit fun placed hmem => of_decide_eq_false (hscan placed hmem)
  | some i =>
    obtain ⟨hlt, hcovers, -⟩ := List.findIdx?_eq_some_iff_getElem.1 hscan
    have hplaced := List.getElem?_eq_getElem hlt
    obtain ⟨b, hb⟩ := hfit.standsAt hplaced
    exact holderIndex_of_covers hfit hb hplaced (of_decide_eq_true hcovers)

end BusGeometry

namespace AddressMap

variable {m : AddressMap} {bus : BusGeometry} {banks : List Bank} {address : UInt64}

/-- A search that stops where a scan stops gives the bank that the scan gives. -/
lemma holder_eq_scan (h : m.holderIndex address
    = some (m.banks.findIdx? fun b => decide (b.Covers address))) :
    m.holder address = some (m.scan? address) := by
  rw [holder, h, scan?, List.find?_eq_bind_findIdx?_getElem?]
  rfl

lemma scan?_eq_none_iff : m.scan? address = none ↔ ∀ b ∈ m.banks, ¬ b.Covers address := by
  rw [scan?, List.find?_eq_none]
  simp only [decide_eq_true_eq]

/-- A scan gives the bank that covers the address, where there is at most one. -/
lemma scan?_eq_some_iff (hunique : ∀ (i j : ℕ) (b c : PlacedBank), m.banks[i]? = some b →
    m.banks[j]? = some c → b.Covers address → c.Covers address → i = j) {b : PlacedBank} :
    m.scan? address = some b ↔ b ∈ m.banks ∧ b.Covers address := by
  have hcovers {c : PlacedBank} (hc : m.scan? address = some c) : c.Covers address :=
    of_decide_eq_true (List.find?_some hc :)
  constructor
  · intro hb
    exact ⟨List.mem_of_find?_eq_some hb, hcovers hb⟩
  · rintro ⟨hb, hin⟩
    cases hscan : m.scan? address with
    | none => exact absurd hin (scan?_eq_none_iff.1 hscan b hb)
    | some c =>
      obtain ⟨i, hi⟩ := List.mem_iff_getElem?.1 hb
      obtain ⟨j, hj⟩ := List.mem_iff_getElem?.1 (List.mem_of_find?_eq_some hscan)
      obtain rfl := hunique i j b c hi hj hin (hcovers hscan)
      rw [← hi, hj]

lemma scansAt_layout (hbus : bus.Sound) (hfit : bus.Fits banks) (address : UInt64) :
    (bus.layout banks).ScansAt address := by
  have hpartitions := partitions_layout hbus hfit
  have hholder := holder_eq_scan (hfit.holderIndex_eq address)
  have hunique (i j : ℕ) (b c : PlacedBank) (hi : (bus.layout banks).banks[i]? = some b)
      (hj : (bus.layout banks).banks[j]? = some c) (hb : b.Covers address)
      (hc : c.Covers address) : i = j := by
    obtain ⟨_, hstands⟩ := hfit.standsAt hi
    obtain ⟨_, hstands'⟩ := hfit.standsAt hj
    exact hstands.eq_of_covers hstands' hb hc
  have hmissing : (bus.layout banks).holder address = some none ↔
      ∀ b ∈ (bus.layout banks).banks, ¬ b.Covers address := by
    rw [hholder, Option.some.injEq, scan?_eq_none_iff]
  have hfound (b : PlacedBank) : (bus.layout banks).holder address = some (some b) ↔
      b ∈ (bus.layout banks).banks ∧ b.Covers address := by
    rw [hholder, Option.some.injEq, scan?_eq_some_iff hunique]
  refine
    { holder_eq := hholder
      holderIndex_eq := hfit.holderIndex_eq address
      unique := hunique
      found_iff := hfound
      missing_iff := hmissing
      below := fun hbelow => hmissing.2 fun b hb hcovers => ?below
      boundary := fun i b c hi hj => ?boundary
      behind := fun hbehind => hmissing.2 fun b hb hcovers => ?behind }
  case below =>
    -- The first bank starts at the base of the bus, and no bank starts below it.
    have hhead := List.head?_eq_some_head (List.ne_nil_of_mem hb)
    have hlt := hbelow _ hhead
    rw [hpartitions.first _ hhead, UInt64.lt_iff_toNat_lt] at hlt
    have hle := UInt64.le_iff_toNat_le.1 (hpartitions.rounded b hb).2.1
    have hin := hcovers.1
    omega
  case boundary =>
    obtain ⟨_, hb⟩ := hfit.standsAt hi
    obtain ⟨_, hc⟩ := hfit.standsAt hj
    have hnext : b.base.toNat + b.size.toNat = c.base.toNat := hb.behind.trans hc.base.symm
    rw [hnext]
    refine ⟨UInt64.toNat_inj, ?_⟩
    rintro rfl
    have hpos := hc.size_pos hbus hfit
    exact (hfound c).2 ⟨List.mem_of_getElem? hj, Nat.le_refl _, by omega⟩
  case behind =>
    -- The last bank ends where the map does, and no bank ends behind it.
    have hlast := List.getLast?_eq_some_getLast (List.ne_nil_of_mem hb)
    have hle : bus.base.toNat + (bus.total banks).toUInt64.toNat ≤ address.toNat :=
      (hpartitions.last _ hlast).symm.trans_le (hbehind _ hlast)
    rw [toNat_total hfit] at hle
    obtain ⟨i, _, hstands⟩ := hfit.exists_standsAt hb
    have hend := bus.total_take_le banks (i + 1)
    have hbehind := hstands.behind
    have hin := hcovers.2
    omega

/-- **The search finds what a scan finds**, for every address and in every map that a placement
gives. -/
theorem ofBanks_scansAt (h : ofBanks banks bus = .ok m) (address : UInt64) : m.ScansAt address := by
  obtain ⟨⟨hsound, -, hfit⟩, rfl⟩ := ofBanks_eq_ok_iff.1 h
  exact scansAt_layout hsound hfit address

/-- The placement of two banks of one word each. -/
def twoWords : AddressMap where
  base := 0x1000
  size := 8
  banks :=
    [⟨"a", 0x1000, 4, [⟨"r", .storage, 8, 0x1000, [⟨0x1000, 0, 8⟩]⟩]⟩,
      ⟨"b", 0x1004, 4, [⟨"s", .status, 8, 0x1004, [⟨0x1004, 0, 8⟩]⟩]⟩]

/-- Where the first of two banks ends, the second one is found. -/
theorem ofBanks_scansAt_boundary :
    ofBanks [⟨"a", [⟨"r", 8, .storage, [], 0, none⟩]⟩, ⟨"b", [⟨"s", 8, .status, [], 0, none⟩]⟩]
        { base := 0x1000 } = .ok twoWords ∧
      twoWords.ScansAt 0x1004 ∧ (twoWords.holder 0x1004).map (·.map (·.name)) = some (some "b") := by
  have h : ofBanks [⟨"a", [⟨"r", 8, .storage, [], 0, none⟩]⟩,
      ⟨"b", [⟨"s", 8, .status, [], 0, none⟩]⟩] { base := 0x1000 } = .ok twoWords := by
    decide +kernel
  have hscans := ofBanks_scansAt h 0x1004
  refine ⟨h, hscans, ?_⟩
  rw [hscans.holder_eq]
  decide

end AddressMap

end CsrMap
