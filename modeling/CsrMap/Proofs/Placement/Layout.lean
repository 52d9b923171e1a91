import CsrMap.Proofs.Bus.Tiling
import CsrMap.Proofs.Declaration.WellFormed

/-!
The layout of banks in unbounded numbers: registers and banks laid end to end.

A bank needs the slots of its registers and takes its extent, which is the need rounded as the
bus asks. `layout` is the map that results; `Fits` says that no sum passes the top of the address
space and no bank overflows its page.
-/

namespace CsrMap

namespace BusGeometry

/-- The least multiple of `unit` that is not below `n`. -/
def roundUp (n unit : ℕ) : ℕ := (n + unit - 1) / unit * unit

/-- The bytes of address space that a register takes. -/
def span (bus : BusGeometry) (r : Register) : ℕ := bus.wordCount r.width * bus.slotSize.toNat

/-- The bytes that registers take end to end. -/
def need (bus : BusGeometry) (registers : List Register) : ℕ := (registers.map bus.span).sum

/-- The bytes that a bank takes. -/
def extent (bus : BusGeometry) (b : Bank) : ℕ :=
  match bus.rounding with
  | .paged page => page.toNat
  | .slot | .boundary _ => roundUp (bus.need b.registers) bus.roundingUnit.toNat

/-- The bytes that banks take end to end. -/
def total (bus : BusGeometry) (banks : List Bank) : ℕ := (banks.map bus.extent).sum

/-- A register whose first word lies at `start`. -/
def registerAt (bus : BusGeometry) (start : ℕ) (r : Register) : PlacedRegister :=
  ⟨r.name, r.access, r.width, start.toUInt64, bus.tiles r.width start⟩

def registersFrom (bus : BusGeometry) : ℕ → List Register → List PlacedRegister
  | _, [] => []
  | start, r :: registers =>
    bus.registerAt start r :: bus.registersFrom (start + bus.span r) registers

def bankAt (bus : BusGeometry) (start : ℕ) (b : Bank) : PlacedBank :=
  ⟨b.name, start.toUInt64, (bus.extent b).toUInt64, bus.registersFrom start b.registers⟩

def banksFrom (bus : BusGeometry) : ℕ → List Bank → List PlacedBank
  | _, [] => []
  | start, b :: banks => bus.bankAt start b :: bus.banksFrom (start + bus.extent b) banks

/-- The address map of banks laid end to end from the base of the bus. -/
def layout (bus : BusGeometry) (banks : List Bank) : AddressMap :=
  ⟨bus.base, (bus.total banks).toUInt64, bus.banksFrom bus.base.toNat banks⟩

/-- A bank at `start` ends below the top, and its registers fit in its page. -/
structure FitsAt (bus : BusGeometry) (start : ℕ) (b : Bank) : Prop where
  need_le : bus.need b.registers ≤ bus.extent b
  end_lt : start + bus.extent b < 2 ^ 64

/-- Well-formed banks with names of their own that fit one after another. -/
structure Fits (bus : BusGeometry) (banks : List Bank) : Prop where
  wellFormed : ∀ b ∈ banks, b.WellFormed
  names : (banks.map (·.name)).Nodup
  need_le : ∀ b ∈ banks, bus.need b.registers ≤ bus.extent b
  end_lt : bus.base.toNat + bus.total banks < 2 ^ 64

variable {bus : BusGeometry} {r : Register} {b : Bank} {start n unit : ℕ}

lemma le_roundUp (hunit : 0 < unit) : n ≤ roundUp n unit := by
  have hd := Nat.div_add_mod (n + unit - 1) unit
  have hm := Nat.mod_lt (n + unit - 1) hunit
  rw [roundUp, Nat.mul_comm]
  omega

lemma roundUp_of_mod_eq_zero (hunit : 0 < unit) (h : n % unit = 0) : roundUp n unit = n := by
  have hd := Nat.div_add_mod n unit
  rw [roundUp, ceilDiv_of_mod_eq_zero hunit h, Nat.mul_comm]
  omega

lemma roundUp_of_mod_ne_zero (hunit : 0 < unit) (h : n % unit ≠ 0) :
    roundUp n unit = n + (unit - n % unit) := by
  have hd := Nat.div_add_mod n unit
  have hm := Nat.mod_lt n hunit
  rw [roundUp, ceilDiv_of_mod_ne_zero hunit h, Nat.succ_mul, Nat.mul_comm]
  omega

lemma dvd_roundUp (n unit : ℕ) : unit ∣ roundUp n unit := Nat.dvd_mul_left _ _

/-! ### Sums over registers and banks -/

@[simp] lemma need_nil : bus.need [] = 0 := rfl

@[simp] lemma need_cons (r : Register) (registers : List Register) :
    bus.need (r :: registers) = bus.span r + bus.need registers := by
  simp [need]

@[simp] lemma need_append (front back : List Register) :
    bus.need (front ++ back) = bus.need front + bus.need back := by
  simp [need]

@[simp] lemma total_nil : bus.total [] = 0 := rfl

@[simp] lemma total_cons (b : Bank) (banks : List Bank) :
    bus.total (b :: banks) = bus.extent b + bus.total banks := by
  simp [total]

@[simp] lemma total_append (front back : List Bank) :
    bus.total (front ++ back) = bus.total front + bus.total back := by
  simp [total]

lemma span_pos (h : bus.Sound) (hr : r.WellFormed) : 0 < bus.span r :=
  Nat.mul_pos (wordCount_pos h.dataWidth_pos hr.width_pos) h.slotSize_pos

lemma slotSize_dvd_span (bus : BusGeometry) (r : Register) : bus.slotSize.toNat ∣ bus.span r :=
  Nat.dvd_mul_left _ _

lemma slotSize_dvd_need (bus : BusGeometry) (registers : List Register) :
    bus.slotSize.toNat ∣ bus.need registers := by
  induction registers with
  | nil => simp
  | cons r registers ih =>
    rw [need_cons]
    exact Nat.dvd_add (bus.slotSize_dvd_span r) ih

/-- A register takes at most eight words. -/
lemma wordCount_le_eight (h : bus.Sound) (hr : r.WellFormed) : bus.wordCount r.width ≤ 8 := by
  by_contra hlt
  have h8 := (lt_wordCount_iff h.dataWidth_pos).1 (Nat.lt_of_not_le hlt)
  have hw := hr.width_le
  have hd := h.dataWidth_mem
  simp only [List.mem_cons, List.not_mem_nil, or_false] at hd
  omega

lemma span_lt (h : bus.Sound) (hslot : bus.slotSize.toNat < 2 ^ 61) (hr : r.WellFormed) :
    bus.span r < 2 ^ 64 := by
  have := Nat.mul_le_mul_right bus.slotSize.toNat (wordCount_le_eight h hr)
  rw [span]
  omega

lemma roundingUnit_dvd_extent (bus : BusGeometry) (b : Bank) :
    bus.roundingUnit.toNat ∣ bus.extent b := by
  unfold extent
  split
  · rename_i page hr
    rw [show bus.roundingUnit = page by simp [roundingUnit, hr]]
  · exact dvd_roundUp _ _
  · exact dvd_roundUp _ _

lemma roundingUnit_dvd_total (bus : BusGeometry) (banks : List Bank) :
    bus.roundingUnit.toNat ∣ bus.total banks := by
  induction banks with
  | nil => simp
  | cons b banks ih =>
    rw [total_cons]
    exact Nat.dvd_add (bus.roundingUnit_dvd_extent b) ih

lemma slotSize_dvd_total (h : bus.Sound) (banks : List Bank) :
    bus.slotSize.toNat ∣ bus.total banks :=
  h.slotSize_dvd.trans (bus.roundingUnit_dvd_total banks)

lemma extent_of_paged {page : UInt64} (h : bus.rounding = .paged page) (b : Bank) :
    bus.extent b = page.toNat := by
  simp [extent, h]

lemma extent_of_not_paged (h : ∀ page, bus.rounding ≠ .paged page) (b : Bank) :
    bus.extent b = roundUp (bus.need b.registers) bus.roundingUnit.toNat := by
  unfold extent
  split
  · rename_i page hr
    exact absurd hr (h page)
  · rfl
  · rfl

/-! ### Banks that fit -/

namespace Fits

variable {banks front back : List Bank}

lemma nil (bus : BusGeometry) : bus.Fits [] where
  wellFormed := nofun
  names := by simp
  need_le := nofun
  end_lt := by
    have := bus.base.toNat_lt
    simpa using this

lemma left (h : bus.Fits (front ++ back)) : bus.Fits front where
  wellFormed b hb := h.wellFormed b (by simp [hb])
  names := by
    have := h.names
    rw [List.map_append] at this
    exact (List.nodup_append.1 this).1
  need_le b hb := h.need_le b (by simp [hb])
  end_lt := by
    have := h.end_lt
    rw [total_append] at this
    omega

lemma snoc_iff : bus.Fits (banks ++ [b]) ↔
    bus.Fits banks ∧ (b.WellFormed ∧ b.name ∉ banks.map (·.name)) ∧
      bus.FitsAt (bus.base.toNat + bus.total banks) b := by
  constructor
  · intro h
    have hnames := h.names
    have hend := h.end_lt
    rw [List.map_append, List.map_singleton, List.nodup_append] at hnames
    rw [total_append, total_cons, total_nil] at hend
    exact ⟨h.left, ⟨h.wellFormed b (by simp), fun hmem => hnames.2.2 _ hmem _ (by simp) rfl⟩,
      h.need_le b (by simp), by omega⟩
  · rintro ⟨h, ⟨hwf, hnew⟩, hneed, hend⟩
    refine ⟨?_, ?_, ?_, by rw [total_append, total_cons, total_nil]; omega⟩
    · intro c hc
      rcases List.mem_append.1 hc with hc | hc
      · exact h.wellFormed c hc
      · rw [List.mem_singleton.1 hc]
        exact hwf
    · rw [List.map_append, List.map_singleton, List.nodup_append]
      refine ⟨h.names, by simp, fun x hx y hy => ?_⟩
      rintro rfl
      exact hnew (by rwa [List.mem_singleton.1 hy] at hx)
    · intro c hc
      rcases List.mem_append.1 hc with hc | hc
      · exact h.need_le c hc
      · rw [List.mem_singleton.1 hc]
        exact hneed

end Fits

end BusGeometry

end CsrMap
