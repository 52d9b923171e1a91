import CsrMap.Proofs.Placement.Layout

/-!
The bank and the register at a position of a layout.

`StandsAt` tells where a bank lies and `Hosts` where a register lies in its bank. A register of a
later position starts behind the end of an earlier one, so an address belongs to one register.
-/

namespace CsrMap.BusGeometry

variable {bus : BusGeometry} {banks : List Bank} {b c : Bank} {placed other : PlacedBank}
  {r s : Register} {start next i j k i' j' : ℕ}

lemma getElem?_registersFrom (bus : BusGeometry) (start : ℕ) (registers : List Register) (i : ℕ) :
    (bus.registersFrom start registers)[i]?
      = registers[i]?.map (bus.registerAt (start + bus.need (registers.take i))) := by
  induction registers generalizing start i with
  | nil => rfl
  | cons r registers ih =>
    cases i with
    | zero => rfl
    | succ i =>
      rw [registersFrom, List.getElem?_cons_succ, List.getElem?_cons_succ, ih,
        List.take_succ_cons, need_cons, Nat.add_assoc]

lemma getElem?_banksFrom (bus : BusGeometry) (start : ℕ) (banks : List Bank) (i : ℕ) :
    (bus.banksFrom start banks)[i]?
      = banks[i]?.map (bus.bankAt (start + bus.total (banks.take i))) := by
  induction banks generalizing start i with
  | nil => rfl
  | cons b banks ih =>
    cases i with
    | zero => rfl
    | succ i =>
      rw [banksFrom, List.getElem?_cons_succ, List.getElem?_cons_succ, ih,
        List.take_succ_cons, total_cons, Nat.add_assoc]

@[simp] lemma length_registersFrom (bus : BusGeometry) (start : ℕ) (registers : List Register) :
    (bus.registersFrom start registers).length = registers.length := by
  induction registers generalizing start with
  | nil => rfl
  | cons r registers ih => rw [registersFrom, List.length_cons, ih, List.length_cons]

@[simp] lemma length_banksFrom (bus : BusGeometry) (start : ℕ) (banks : List Bank) :
    (bus.banksFrom start banks).length = banks.length := by
  induction banks generalizing start with
  | nil => rfl
  | cons b banks ih => rw [banksFrom, List.length_cons, ih, List.length_cons]

/-! ### Banks -/

lemma total_take_mono (bus : BusGeometry) (banks : List Bank) (h : i ≤ j) :
    bus.total (banks.take i) ≤ bus.total (banks.take j) := by
  rw [← List.take_append_drop i (banks.take j), List.take_take, Nat.min_eq_left h, total_append]
  exact Nat.le_add_right _ _

lemma total_take_succ (bus : BusGeometry) (h : banks[i]? = some b) :
    bus.total (banks.take (i + 1)) = bus.total (banks.take i) + bus.extent b := by
  obtain ⟨hlt, rfl⟩ := List.getElem?_eq_some_iff.1 h
  rw [List.take_succ_eq_append_getElem hlt, total_append, total_cons, total_nil, Nat.add_zero]

lemma total_take_le (bus : BusGeometry) (banks : List Bank) (i : ℕ) :
    bus.total (banks.take i) ≤ bus.total banks := by
  have hsplit := congrArg bus.total (List.take_append_drop i banks)
  rw [total_append] at hsplit
  omega

/-- Where the bank at position `i` of a layout stands. -/
structure StandsAt (bus : BusGeometry) (banks : List Bank) (i : ℕ) (placed : PlacedBank)
    (b : Bank) : Prop where
  bank : banks[i]? = some b
  place : placed = bus.bankAt (bus.base.toNat + bus.total (banks.take i)) b
  fits : bus.FitsAt (bus.base.toNat + bus.total (banks.take i)) b
  base : placed.base.toNat = bus.base.toNat + bus.total (banks.take i)
  size : placed.size.toNat = bus.extent b
  behind : placed.base.toNat + placed.size.toNat
    = bus.base.toNat + bus.total (banks.take (i + 1))

lemma Fits.standsAt (h : bus.Fits banks) (hi : (bus.layout banks).banks[i]? = some placed) :
    ∃ b, bus.StandsAt banks i placed b := by
  rw [layout, getElem?_banksFrom, Option.map_eq_some_iff] at hi
  obtain ⟨b, hb, rfl⟩ := hi
  have hsucc := bus.total_take_succ hb
  have hle := bus.total_take_le banks (i + 1)
  have hend := h.end_lt
  have hbase : (bus.bankAt (bus.base.toNat + bus.total (banks.take i)) b).base.toNat
      = bus.base.toNat + bus.total (banks.take i) :=
    UInt64.toNat_ofNat_of_lt' (by simp only [UInt64.size]; omega)
  have hsize : (bus.bankAt (bus.base.toNat + bus.total (banks.take i)) b).size.toNat
      = bus.extent b :=
    UInt64.toNat_ofNat_of_lt' (by simp only [UInt64.size]; omega)
  refine ⟨b, hb, rfl, ⟨h.need_le b (List.mem_of_getElem? hb), by omega⟩, hbase, hsize, ?_⟩
  rw [hbase, hsize]
  omega

lemma Fits.exists_standsAt (h : bus.Fits banks) (hp : placed ∈ (bus.layout banks).banks) :
    ∃ i b, bus.StandsAt banks i placed b := by
  obtain ⟨i, hi⟩ := List.mem_iff_getElem?.1 hp
  exact ⟨i, h.standsAt hi⟩

/-- A later bank starts where an earlier one ends, or behind that. -/
lemma StandsAt.le_of_lt {c : Bank} {other : PlacedBank} (hi : bus.StandsAt banks i placed b)
    (hj : bus.StandsAt banks j other c) (hij : i < j) :
    placed.base.toNat + placed.size.toNat ≤ other.base.toNat := by
  rw [hi.behind, hj.base]
  exact Nat.add_le_add_left (bus.total_take_mono banks hij) _

/-! ### Registers -/

lemma need_take_mono (bus : BusGeometry) (registers : List Register) (h : i ≤ j) :
    bus.need (registers.take i) ≤ bus.need (registers.take j) := by
  have hsplit := congrArg bus.need (List.take_append_drop i (registers.take j))
  rw [List.take_take, Nat.min_eq_left h, need_append] at hsplit
  omega

lemma need_take_succ (bus : BusGeometry) {registers : List Register} (h : registers[j]? = some r) :
    bus.need (registers.take (j + 1)) = bus.need (registers.take j) + bus.span r := by
  obtain ⟨hlt, rfl⟩ := List.getElem?_eq_some_iff.1 h
  rw [List.take_succ_eq_append_getElem hlt, need_append, need_cons, need_nil, Nat.add_zero]

lemma need_take_le (bus : BusGeometry) (registers : List Register) (j : ℕ) :
    bus.need (registers.take j) ≤ bus.need registers := by
  have hsplit := congrArg bus.need (List.take_append_drop j registers)
  rw [need_append] at hsplit
  omega

/-- Register number `j` of bank number `i` is `r` of `b`, and its first word lies at `start`. -/
structure Hosts (bus : BusGeometry) (banks : List Bank) (i j : ℕ) (b : Bank) (r : Register)
    (start : ℕ) : Prop where
  bank : banks[i]? = some b
  register : b.registers[j]? = some r
  start_eq : start = bus.base.toNat + bus.total (banks.take i) + bus.need (b.registers.take j)

namespace Hosts

lemma mem_bank (h : bus.Hosts banks i j b r start) : b ∈ banks := List.mem_of_getElem? h.bank

lemma mem_register (h : bus.Hosts banks i j b r start) : r ∈ b.registers :=
  List.mem_of_getElem? h.register

lemma wellFormed (h : bus.Hosts banks i j b r start) (hfit : bus.Fits banks) : r.WellFormed :=
  (hfit.wellFormed b h.mem_bank).registers r h.mem_register

/-- The register ends where its bank ends, or before. -/
lemma end_le (h : bus.Hosts banks i j b r start) (hfit : bus.Fits banks) :
    start + bus.span r ≤ bus.base.toNat + bus.total (banks.take (i + 1)) := by
  have hneed := hfit.need_le b h.mem_bank
  have hsucc := bus.need_take_succ h.register
  have hle := bus.need_take_le b.registers (j + 1)
  have htotal := bus.total_take_succ h.bank
  have hstart := h.start_eq
  omega

lemma end_lt (h : bus.Hosts banks i j b r start) (hfit : bus.Fits banks) :
    start + bus.span r < 2 ^ 64 := by
  have hle := h.end_le hfit
  have htop := bus.total_take_le banks (i + 1)
  have hend := hfit.end_lt
  omega

lemma slotSize_dvd (h : bus.Hosts banks i j b r start) (hbus : bus.Sound) :
    bus.slotSize.toNat ∣ start := by
  rw [h.start_eq]
  exact Nat.dvd_add (Nat.dvd_add hbus.base (slotSize_dvd_total hbus _)) (bus.slotSize_dvd_need _)

/-- A register of a later position starts behind the end of an earlier one. -/
lemma le_of_lt (h : bus.Hosts banks i j b r start) (h' : bus.Hosts banks i' j' c s next)
    (hfit : bus.Fits banks) (hlt : i < i' ∨ i = i' ∧ j < j') : start + bus.span r ≤ next := by
  rcases hlt with hi | ⟨rfl, hj⟩
  · have hle := h.end_le hfit
    have hmono := bus.total_take_mono banks (show i + 1 ≤ i' from hi)
    have hnext := h'.start_eq
    omega
  · obtain rfl : b = c := Option.some.inj (h.bank.symm.trans h'.bank)
    have hsucc := bus.need_take_succ h.register
    have hmono := bus.need_take_mono b.registers (show j + 1 ≤ j' from hj)
    have hstart := h.start_eq
    have hnext := h'.start_eq
    omega

/-- An address belongs to one register. -/
lemma position_eq (h : bus.Hosts banks i j b r start) (h' : bus.Hosts banks i' j' c s next)
    (hfit : bus.Fits banks) {a : ℕ} (ha : start ≤ a ∧ a < start + bus.span r)
    (ha' : next ≤ a ∧ a < next + bus.span s) : i = i' ∧ j = j' := by
  by_contra hne
  have hcases : (i < i' ∨ i = i' ∧ j < j') ∨ (i' < i ∨ i' = i ∧ j' < j) := by omega
  rcases hcases with hlt | hlt
  · have := h.le_of_lt h' hfit hlt
    omega
  · have := h'.le_of_lt h hfit hlt
    omega

end Hosts

end CsrMap.BusGeometry
