import CsrMap.Proofs.Declaration.Reachable
import Mathlib.Data.List.Nodup
import Mathlib.Data.Set.Defs

/-!
Interrupts and the vectors that raise them.

Requests for interrupts are granted or refused one after another, and a refused one leaves no gap:
the granted ones have the bits from zero on. So a vector stands for exactly one set of interrupts,
whatever stands in the bits that no interrupt has, and decoding finds that set.
-/

namespace CsrMap

/-- Tests that all have an answer keep the entries that pass, in front of those kept before. -/
lemma filterAuxM_eq_some {α : Type} {f : α → Option Bool} {g : α → Bool} {xs : List α}
    (h : ∀ x ∈ xs, f x = some (g x)) (kept : List α) :
    xs.filterAuxM f kept = some ((xs.filter g).reverse ++ kept) := by
  induction xs generalizing kept with
  | nil => rfl
  | cons x xs ih =>
    have hx := h x (by simp)
    rw [List.filterAuxM, hx, Option.bind_eq_bind, Option.bind_some,
      ih fun y hy => h y (by simp [hy])]
    cases hg : g x <;> simp [hg]

/-- Tests that all have an answer keep the entries that pass. -/
lemma filterM_eq_some {α : Type} {f : α → Option Bool} {g : α → Bool} {xs : List α}
    (h : ∀ x ∈ xs, f x = some (g x)) : xs.filterM f = some (xs.filter g) := by
  rw [List.filterM, filterAuxM_eq_some h]
  simp

namespace InterruptTable

variable {t : InterruptTable} {i j : Interrupt} {vector : UInt64}

/-- The interrupts have names of their own and the bits of the vector from zero on. -/
structure Dense (t : InterruptTable) : Prop where
  size_le : t.size ≤ 32
  names : (t.entries.map (·.name)).Nodup
  bits : t.entries.map (·.bit.toNat) = List.range t.size
  check : t.checkDense = .ok ()

/-- Vectors are decoded to the sets of interrupts that they stand for, each interrupt once and in
the order of the table. Bits that no interrupt has do not count. -/
def Decodes (t : InterruptTable) : Prop :=
  ∀ (S : Set Interrupt) (vector : UInt64), (∀ i ∈ S, i ∈ t.entries) →
    (∀ k < t.size, vector.bit k = true ↔ ∃ i ∈ S, i.bit.toNat = k) →
    ∃ found, t.raised vector = some found ∧ found.Sublist t.entries ∧ found.Nodup ∧
      ∀ i, i ∈ found ↔ i ∈ S

lemma checkDenseFrom_eq_ok {entries : List Interrupt} {position : ℕ}
    (h : ∀ (k : ℕ) (i : Interrupt), entries[k]? = some i → i.bit.toNat = position + k) :
    checkDenseFrom position entries = .ok () := by
  induction entries generalizing position with
  | nil => rfl
  | cons i entries ih =>
    have hi : i.bit.toNat = position := h 0 i rfl
    have hbit : i.bit = position.toUInt32 := by
      rw [← hi]
      exact (UInt32.ofNat_toNat (x := i.bit)).symm
    rw [checkDenseFrom, if_pos hbit]
    refine ih fun k j hj => ?_
    have := h (k + 1) j hj
    omega

/-- The interrupts that a vector raises are those whose bits are set in it. -/
lemma raised_eq_some (h : ∀ i ∈ t.entries, i.bit.toNat < 64) (vector : UInt64) :
    t.raised vector = some (t.entries.filter fun i => vector.bit i.bit.toNat) := by
  refine filterM_eq_some fun i hi => ?_
  have hlt : i.bit < 64 := UInt32.lt_iff_toNat_lt.2 (h i hi)
  have hbit := UInt64.and_one_shiftLeft_ne_zero_iff (a := vector) hlt
  simp only [UInt64.shiftLeft?_eq_some hlt, Option.bind_eq_bind, Option.bind_some, hbit]
  simp

namespace Dense

lemma nodup_bits (h : t.Dense) : (t.entries.map (·.bit.toNat)).Nodup := by
  rw [h.bits]
  exact List.nodup_range

lemma bit_lt (h : t.Dense) (hi : i ∈ t.entries) : i.bit.toNat < t.size := by
  have hmem := List.mem_map_of_mem (f := fun i : Interrupt => i.bit.toNat) hi
  rw [h.bits] at hmem
  exact List.mem_range.1 hmem

/-- An interrupt is known from its bit. -/
lemma eq_of_bit_eq (h : t.Dense) (hi : i ∈ t.entries) (hj : j ∈ t.entries)
    (hbit : i.bit.toNat = j.bit.toNat) : i = j :=
  List.inj_on_of_nodup_map h.nodup_bits hi hj hbit

/-- **A dense table decodes every vector.** -/
theorem decodes (h : t.Dense) : t.Decodes := by
  intro S vector hS hvector
  have hlt (i : Interrupt) (hi : i ∈ t.entries) : i.bit.toNat < 64 := by
    have hbit := h.bit_lt hi
    have hsize := h.size_le
    omega
  refine ⟨_, raised_eq_some hlt vector, List.filter_sublist, ?_, ?_⟩
  · exact (List.Nodup.of_map _ h.names).filter _
  intro i
  rw [List.mem_filter]
  constructor
  · rintro ⟨hi, hset⟩
    obtain ⟨j, hj, hbit⟩ := (hvector _ (h.bit_lt hi)).1 hset
    rwa [← h.eq_of_bit_eq (hS j hj) hi hbit]
  · intro hi
    exact ⟨hS i hi, (hvector _ (h.bit_lt (hS i hi))).2 ⟨i, hi, rfl⟩⟩

end Dense

end InterruptTable

namespace Declarations

variable {d : Declarations}

/-! ### Well-formed declarations -/

lemma WellFormed.checkDense (hd : d.WellFormed) : d.interrupts.checkDense = .ok () :=
  InterruptTable.checkDenseFrom_eq_ok fun k i hi => by rw [hd.bits k i hi, Nat.zero_add]

/-- **Well-formed declarations have a dense table of interrupts.** -/
theorem WellFormed.dense (hd : d.WellFormed) : d.interrupts.Dense where
  size_le := hd.vector
  names := hd.interruptNames
  bits := by
    apply List.ext_getElem
    · simp [InterruptTable.size]
    intro k hk hk'
    rw [List.length_map] at hk
    rw [List.getElem_map, List.getElem_range]
    exact hd.bits k _ (List.getElem?_eq_getElem hk)
  check := hd.checkDense

/-- The bits of interrupts that operations declare lie in the vector. -/
lemma WellFormed.bit_lt (hd : d.WellFormed) {i : Interrupt} (hi : i ∈ d.interrupts.entries) :
    i.bit.toNat < 64 := by
  have hbit := hd.dense.bit_lt hi
  have hsize := hd.dense.size_le
  omega

/-! ### Requests one after another -/

/-- An interrupt that is asked for, with the bank that is to raise it. -/
structure InterruptRequest where
  name : String
  peripheral : String

/-- Requests one after another: the answers, and the declarations that they leave. -/
def request (d : Declarations) :
    List InterruptRequest → List (Outcome ConfigError UInt32) × Declarations
  | [] => ([], d)
  | r :: requests =>
    let (answer, next) := (Declaring.interrupt r.name r.peripheral).run d
    let (answers, last) := next.request requests
    (answer :: answers, last)

/-- The interrupts that were asked for and given a bit. -/
def granted (requests : List InterruptRequest) (answers : List (Outcome ConfigError UInt32)) :
    List Interrupt :=
  (requests.zip answers).filterMap fun (r, answer) =>
    answer.toOption.map fun bit => ⟨r.name, r.peripheral, bit⟩

/-- A request is given the next bit, or it changes nothing. -/
lemma run_interrupt_cases (d : Declarations) (name peripheral : String) :
    (∃ next bit, (Declaring.interrupt name peripheral).run d = (.ok bit, next) ∧ d.Adds next ∧
        next.interrupts.entries = d.interrupts.entries ++ [⟨name, peripheral, bit⟩]) ∨
      ∃ cause, (Declaring.interrupt name peripheral).run d = (refuse cause, d) := by
  change (∃ next bit, Declaring.ofOperation (·.withInterrupt name peripheral) d = _ ∧ _) ∨
    ∃ cause, Declaring.ofOperation (·.withInterrupt name peripheral) d = _
  cases h : d.withInterrupt name peripheral with
  | ok given =>
    obtain ⟨next, bit⟩ := given
    have hnext := (withInterrupt_eq_ok_iff.1 h).2.2
    exact .inl ⟨next, bit, Declaring.ofOperation_ok h, (withInterrupt_eq_ok h).1, by rw [hnext]⟩
  | error cause => exact .inr ⟨cause, Declaring.ofOperation_error h⟩

/-- **Requests keep declarations well formed**, and add the granted interrupts in their order. -/
theorem request_grants (hd : d.WellFormed) (requests : List InterruptRequest) :
    (d.request requests).2.WellFormed ∧
      (d.request requests).2.interrupts.entries
        = d.interrupts.entries ++ granted requests (d.request requests).1 := by
  induction requests generalizing d with
  | nil => exact ⟨hd, by simp [request, granted]⟩
  | cons r requests ih =>
    rcases run_interrupt_cases d r.name r.peripheral with
      ⟨next, bit, hrun, hadds, hentries⟩ | ⟨cause, hrun⟩
    · obtain ⟨hlast, hmore⟩ := ih (hd.adds hadds)
      simp only [request, hrun]
      refine ⟨hlast, ?_⟩
      rw [hmore, hentries, List.append_assoc]
      rfl
    · obtain ⟨hlast, hmore⟩ := ih hd
      simp only [request, hrun]
      exact ⟨hlast, hmore⟩

/-- **Interrupts number and decode**: after any requests, granted or refused, the table holds the
granted interrupts in their order, at most 32, with names of their own and the bits from zero on;
and each vector is decoded to exactly the set of interrupts that it stands for. -/
theorem request_numbers_and_decodes (requests : List InterruptRequest) :
    (request {} requests).2.interrupts.entries = granted requests (request {} requests).1 ∧
      (request {} requests).2.interrupts.Dense ∧ (request {} requests).2.interrupts.Decodes := by
  obtain ⟨hd, hentries⟩ := request_grants wellFormed_empty requests
  exact ⟨hentries, hd.dense, hd.dense.decodes⟩

/-- A name that is taken leaves no gap, and bits above the last interrupt raise nothing. -/
theorem request_numbers_and_decodes_taken :
    let d := (request {} [⟨"rx", "dma"⟩, ⟨"rx", "pins"⟩, ⟨"tx", "dma"⟩]).2
    d.interrupts.entries = [⟨"rx", "dma", 0⟩, ⟨"tx", "dma", 1⟩] ∧
      ∃ found, d.interrupts.raised 0xfffffffffffffffe = some found ∧
        ∀ i, i ∈ found ↔ i = ⟨"tx", "dma", 1⟩ := by
  intro d
  have hentries : d.interrupts.entries = [⟨"rx", "dma", 0⟩, ⟨"tx", "dma", 1⟩] := by
    decide +kernel
  have hsize : d.interrupts.size = 2 := congrArg List.length hentries
  have hset : ∀ i ∈ {i | i = (⟨"tx", "dma", 1⟩ : Interrupt)}, i ∈ d.interrupts.entries := by
    rintro i rfl
    rw [hentries]
    simp
  have hvector : ∀ k < d.interrupts.size, UInt64.bit 0xfffffffffffffffe k = true ↔
      ∃ i ∈ {i | i = (⟨"tx", "dma", 1⟩ : Interrupt)}, i.bit.toNat = k := by
    intro k hk
    simp only [Set.mem_ofPred_eq, exists_eq_left]
    have hcases : k = 0 ∨ k = 1 := by omega
    rcases hcases with rfl | rfl <;> decide +kernel
  obtain ⟨-, -, hdecodes⟩ := request_numbers_and_decodes
    [⟨"rx", "dma"⟩, ⟨"rx", "pins"⟩, ⟨"tx", "dma"⟩]
  obtain ⟨found, hraised, -, -, hfound⟩ := hdecodes _ _ hset hvector
  exact ⟨hentries, found, hraised, hfound⟩

end Declarations

end CsrMap
