import CsrMap.Proofs.Placement.Outcome
import CsrMap.Proofs.Placement.Positions
import CsrMap.Proofs.Placement.Words
import Mathlib.Data.Finset.Basic
import Mathlib.Order.Interval.Finset.Nat

/-!
An address map is a partition of its range among the banks and their words.

Banks follow one another without a gap, and the words of all registers hold slots of their own
inside the banks of their registers. Both are read off the layout.
-/

namespace CsrMap

open BusGeometry

/-- The bytes of the slot of a word. -/
def Slice.bytes (slotSize : ℕ) (s : Slice) : Finset ℕ :=
  Finset.Ico s.address.toNat (s.address.toNat + slotSize)

namespace PlacedBank

/-- The bytes in the range of a bank. -/
def bytes (b : PlacedBank) : Finset ℕ := Finset.Ico b.base.toNat (b.base.toNat + b.size.toNat)

/-- The placed bank has the name of `b` and its registers in order, each with all its words. -/
structure IsPlaceOf (bus : BusGeometry) (placed : PlacedBank) (b : Bank) : Prop where
  name : placed.name = b.name
  registers : List.Forall₂ (fun (p : PlacedRegister) (r : Register) => p.name = r.name ∧
    p.access = r.access ∧ p.width = r.width ∧ p.size = bus.wordCount r.width)
    placed.registers b.registers

end PlacedBank

/-- The map is a partition of its range: the banks in order and end to end, rounded as the bus
asks, and the words of all registers apart from each other, each in its own bank only. -/
structure AddressMap.Partitions (m : AddressMap) (bus : BusGeometry) (banks : List Bank) :
    Prop where
  inOrder : List.Forall₂ (PlacedBank.IsPlaceOf bus) m.banks banks
  base : m.base = bus.base
  first : ∀ b ∈ m.banks.head?, b.base = bus.base
  next : m.banks.IsChain fun a b => b.base.toNat = a.base.toNat + a.size.toNat
  last : ∀ b ∈ m.banks.getLast?, b.base.toNat + b.size.toNat = m.base.toNat + m.size.toNat
  size_eq : m.size.toNat = (m.banks.map (·.size.toNat)).sum
  end_le : m.base.toNat + m.size.toNat ≤ 2 ^ 64 - 1
  rounded : ∀ b ∈ m.banks, bus.roundingUnit.toNat ∣ b.size.toNat ∧ bus.base ≤ b.base ∧
    bus.roundingUnit.toNat ∣ b.base.toNat - bus.base.toNat
  paged : ∀ page, bus.rounding = .paged page → ∀ b ∈ m.banks, b.size = page
  wordsApart : m.words.Pairwise fun s t =>
    Disjoint (s.bytes bus.slotSize.toNat) (t.bytes bus.slotSize.toNat)
  wordsAligned : ∀ s ∈ m.words, bus.slotSize.toNat ∣ s.address.toNat
  wordsInside : ∀ (i : ℕ) (b : PlacedBank), m.banks[i]? = some b → ∀ s ∈ b.words,
    s.bytes bus.slotSize.toNat ⊆ b.bytes ∧
      ∀ (j : ℕ) (c : PlacedBank), m.banks[j]? = some c → j ≠ i →
        Disjoint (s.bytes bus.slotSize.toNat) c.bytes

lemma SlotsWithin.pairwise_disjoint {slotSize lo hi : ℕ} {words : List Slice}
    (h : SlotsWithin slotSize lo hi words) :
    words.Pairwise fun s t => Disjoint (s.bytes slotSize) (t.bytes slotSize) := by
  refine h.ascending.imp fun {s t} hle => ?_
  rw [Finset.disjoint_left]
  intro x hs ht
  rw [Slice.bytes, Finset.mem_Ico] at hs ht
  omega

namespace BusGeometry

variable {bus : BusGeometry} {banks front back : List Bank} {b : Bank} {placed : PlacedBank}
  {start i j : ℕ}

lemma isPlaceOf_bankAt (bus : BusGeometry) (start : ℕ) (b : Bank) :
    (bus.bankAt start b).IsPlaceOf bus b := by
  refine ⟨rfl, ?_⟩
  rw [bankAt]
  generalize b.registers = registers
  induction registers generalizing start with
  | nil => exact .nil
  | cons r registers ih => exact .cons ⟨rfl, rfl, rfl, length_tiles _ _ _⟩ (ih _)

lemma isPlaceOf_banksFrom (bus : BusGeometry) (start : ℕ) (banks : List Bank) :
    List.Forall₂ (PlacedBank.IsPlaceOf bus) (bus.banksFrom start banks) banks := by
  induction banks generalizing start with
  | nil => exact .nil
  | cons b banks ih => exact .cons (isPlaceOf_bankAt bus start b) (ih _)

lemma sum_size_banksFrom (hend : start + bus.total banks < 2 ^ 64) :
    ((bus.banksFrom start banks).map (·.size.toNat)).sum = bus.total banks := by
  induction banks generalizing start with
  | nil => rfl
  | cons b banks ih =>
    rw [total_cons] at hend ⊢
    have hsize : (bus.bankAt start b).size.toNat = bus.extent b :=
      UInt64.toNat_ofNat_of_lt' (by simp only [UInt64.size]; omega)
    rw [banksFrom, List.map_cons, List.sum_cons, hsize, ih (by omega)]

lemma StandsAt.slotsWithin (h : bus.Sound) (hi : bus.StandsAt banks i placed b) :
    SlotsWithin bus.slotSize.toNat placed.base.toNat (placed.base.toNat + placed.size.toNat)
      placed.words := by
  rw [hi.size, hi.base]
  have hwords := slotsWithin_bankAt h (Nat.dvd_add h.base (slotSize_dvd_total h _)) hi.fits
  rwa [← hi.place] at hwords

lemma disjoint_bytes {c : Bank} {other : PlacedBank} (hi : bus.StandsAt banks i placed b)
    (hj : bus.StandsAt banks j other c) (hij : j ≠ i) : Disjoint placed.bytes other.bytes := by
  rw [Finset.disjoint_left]
  intro x hx hx'
  rw [PlacedBank.bytes, Finset.mem_Ico] at hx hx'
  rcases Nat.lt_or_gt_of_ne hij with hlt | hlt
  · have := hj.le_of_lt hi hlt
    omega
  · have := hi.le_of_lt hj hlt
    omega

end BusGeometry

namespace AddressMap

variable {bus : BusGeometry} {banks : List Bank}

lemma partitions_layout (h : bus.Sound) (hfit : bus.Fits banks) :
    (bus.layout banks).Partitions bus banks := by
  have htotal := toNat_total hfit
  have hend := hfit.end_lt
  have hwords : SlotsWithin bus.slotSize.toNat bus.base.toNat (bus.base.toNat + bus.total banks)
      (bus.layout banks).words :=
    slotsWithin_banksFrom h h.base banks hfit.need_le hend
  refine
    { inOrder := isPlaceOf_banksFrom bus _ banks
      base := rfl
      first := fun placed hp => ?first
      next := ?next
      last := fun placed hp => ?last
      size_eq := ?size
      end_le := ?top
      rounded := fun placed hp => ?rounded
      paged := fun page hpage placed hp => ?paged
      wordsApart := hwords.pairwise_disjoint
      wordsAligned := hwords.aligned
      wordsInside := fun i placed hi s hs => ⟨?own, fun j other hj hij => ?others⟩ }
  case first =>
    rw [List.head?_eq_getElem?] at hp
    obtain ⟨b, hb⟩ := hfit.standsAt hp
    have hbase := hb.base
    rw [List.take_zero, total_nil, Nat.add_zero] at hbase
    exact UInt64.toNat_inj.1 hbase
  case next =>
    rw [List.isChain_iff_getElem]
    intro i hi
    obtain ⟨b, hb⟩ := hfit.standsAt (List.getElem?_eq_getElem (Nat.lt_of_succ_lt hi))
    obtain ⟨c, hc⟩ := hfit.standsAt (List.getElem?_eq_getElem hi)
    rw [hc.base, hb.behind]
  case last =>
    rw [List.getLast?_eq_getElem?] at hp
    obtain ⟨b, hb⟩ := hfit.standsAt hp
    have hlen : (bus.layout banks).banks.length = banks.length := length_banksFrom bus _ banks
    have hlt := (List.getElem?_eq_some_iff.1 hb.bank).1
    rw [hlen] at hb hlt
    rw [hb.behind, Nat.sub_add_cancel (by omega), List.take_length]
    exact congrArg (bus.base.toNat + ·) htotal.symm
  case size => exact htotal.trans (sum_size_banksFrom hend).symm
  case top =>
    have : (bus.layout banks).base.toNat + (bus.layout banks).size.toNat
      = bus.base.toNat + bus.total banks := congrArg (bus.base.toNat + ·) htotal
    omega
  case rounded =>
    obtain ⟨i, b, hb⟩ := hfit.exists_standsAt hp
    rw [UInt64.le_iff_toNat_le, hb.size, hb.base, Nat.add_sub_cancel_left]
    exact ⟨bus.roundingUnit_dvd_extent b, Nat.le_add_right _ _,
      bus.roundingUnit_dvd_total (banks.take i)⟩
  case paged =>
    obtain ⟨i, b, hb⟩ := hfit.exists_standsAt hp
    rw [← UInt64.toNat_inj, hb.size, extent_of_paged hpage]
  case own =>
    obtain ⟨b, hb⟩ := hfit.standsAt hi
    have hin := hb.slotsWithin h
    exact Finset.Ico_subset_Ico (hin.lower s hs) (hin.upper s hs)
  case others =>
    obtain ⟨b, hb⟩ := hfit.standsAt hi
    obtain ⟨c, hc⟩ := hfit.standsAt hj
    have hin := hb.slotsWithin h
    exact Finset.disjoint_of_subset_left
      (Finset.Ico_subset_Ico (hin.lower s hs) (hin.upper s hs)) (disjoint_bytes hb hc hij)

/-- **A placement is a partition** of the range of its map. -/
theorem ofBanks_partitions {m : AddressMap} (h : ofBanks banks bus = .ok m) :
    m.Partitions bus banks := by
  obtain ⟨⟨hsound, -, hfit⟩, rfl⟩ := ofBanks_eq_ok_iff.1 h
  exact partitions_layout hsound hfit

/-- Two pages of 256 bytes; the first bank has a register of two words. -/
theorem ofBanks_partitions_two_pages :
    ofBanks [⟨"a", [⟨"r", 40, .storage, [], 0, none⟩]⟩, ⟨"b", [⟨"s", 8, .status, [], 0, none⟩]⟩]
        { base := 0x1000, rounding := .paged 256 }
      = .ok ⟨0x1000, 512,
        [⟨"a", 0x1000, 256, [⟨"r", .storage, 40, 0x1000, [⟨0x1000, 32, 8⟩, ⟨0x1004, 0, 32⟩]⟩]⟩,
          ⟨"b", 0x1100, 256, [⟨"s", .status, 8, 0x1100, [⟨0x1100, 0, 8⟩]⟩]⟩]⟩ ∧
    (AddressMap.mk 0x1000 512
        [⟨"a", 0x1000, 256, [⟨"r", .storage, 40, 0x1000, [⟨0x1000, 32, 8⟩, ⟨0x1004, 0, 32⟩]⟩]⟩,
          ⟨"b", 0x1100, 256, [⟨"s", .status, 8, 0x1100, [⟨0x1100, 0, 8⟩]⟩]⟩]).Partitions
      { base := 0x1000, rounding := .paged 256 }
      [⟨"a", [⟨"r", 40, .storage, [], 0, none⟩]⟩, ⟨"b", [⟨"s", 8, .status, [], 0, none⟩]⟩] :=
  ⟨by decide +kernel, ofBanks_partitions (by decide +kernel)⟩

end AddressMap

end CsrMap
