import CsrMap.Peripheral.EventRegisters
import CsrMap.Proofs.Declaration.Fields
import CsrMap.Proofs.Header.Symbols

/-!
The registers for events, for any list of sources.

Each register has one field of one bit for each source, in order. So it can be declared exactly
where its width is one that a register can have and the sources have names of their own, and then
bit `i` belongs to source `i` in all three registers.
-/

namespace CsrMap

/-- The register has one bit for each source: bit `i` belongs to source `i` and to no other one. -/
structure Register.BitPerSource (r : Register) (sources : List String) : Prop where
  width : r.width.toNat = sources.length
  names : r.fields.map (·.name) = sources
  owner : ∀ f ∈ r.fields, ∀ bit, f.Covers bit ↔ sources[bit]? = some f.name
  covered : ∀ bit, bit < r.width.toNat ↔ ∃ f ∈ r.fields, f.Covers bit
  apart : r.fields.Pairwise fun f g => ¬ f.Meets g

namespace Peripheral.EventRegisters

variable {e : EventRegisters} {name role start : String} {access : Access} {i bit : ℕ}

/-- Between one and 64 sources that have valid names, each its own. -/
structure Declarable (sources : List String) : Prop where
  pos : 1 ≤ sources.length
  le : sources.length ≤ 64
  names : ∀ s ∈ sources, isName s
  distinct : sources.Nodup

/-! ### Fields -/

lemma getElem?_fields (e : EventRegisters) (i : ℕ) :
    e.fields[i]? = e.sources[i]?.map fun s => ⟨s, i.toUInt32, 1, none⟩ := by
  simp [fields, List.getElem?_zipIdx, Function.comp_def]

@[simp] lemma map_name_fields (e : EventRegisters) : e.fields.map (·.name) = e.sources := by
  refine List.ext_getElem? fun i => ?_
  rw [List.getElem?_map, getElem?_fields, Option.map_map]
  exact Option.map_id'

lemma getElem?_fields_eq_some {f : Field} (h : e.fields[i]? = some f) :
    e.sources[i]? = some f.name ∧ f.offset = i.toUInt32 ∧ f.width = 1 := by
  rw [getElem?_fields, Option.map_eq_some_iff] at h
  obtain ⟨s, hs, rfl⟩ := h
  exact ⟨hs, rfl, rfl⟩

/-- Where the positions of sources are in range, a field is the bit at its position. -/
lemma covers_iff_of_getElem? (hle : e.sources.length ≤ 64) {f : Field}
    (h : e.fields[i]? = some f) : f.Covers bit ↔ bit = i := by
  obtain ⟨hs, hoffset, hwidth⟩ := getElem?_fields_eq_some h
  have hi := (List.getElem?_eq_some_iff.1 hs).1
  have hsmall : i.toUInt32.toNat = i := UInt32.toNat_ofNat_of_lt' (by simp only [UInt32.size]; omega)
  unfold Field.Covers Field.endBit
  rw [hoffset, hwidth, hsmall, UInt32.toNat_one]
  omega

/-- A number of sources that can be declared is the width of the registers. -/
lemma toNat_width (hle : e.sources.length ≤ 64) : e.width.toNat = e.sources.length :=
  UInt32.toNat_ofNat_of_lt' (by simp only [UInt32.size]; omega)

/-- A register is as wide as there are sources wherever its fields fit in it. -/
lemma length_le_width (hfits : ∀ f ∈ e.fields, f.FitsIn e.width) :
    e.sources.length ≤ e.width.toNat := by
  by_contra hlt
  -- The first source that is too many would own the bit behind the last one.
  have hsource := List.getElem?_eq_getElem (Nat.lt_of_not_le hlt)
  have hfield := e.getElem?_fields e.width.toNat
  rw [hsource, Option.map_some] at hfield
  have hend := (hfits _ (List.mem_of_getElem? hfield)).endBit_le
  have hoffset : e.width.toNat.toUInt32.toNat = e.width.toNat :=
    UInt32.toNat_ofNat_of_lt' e.width.toNat_lt
  unfold Field.endBit at hend
  rw [hoffset, UInt32.toNat_one] at hend
  omega

lemma pairwise_not_meets (hle : e.sources.length ≤ 64) :
    e.fields.Pairwise fun f g => ¬ f.Meets g := by
  rw [List.pairwise_iff_getElem]
  rintro i j hi hj hlt ⟨bit, hf, hg⟩
  rw [covers_iff_of_getElem? hle (List.getElem?_eq_getElem hi)] at hf
  rw [covers_iff_of_getElem? hle (List.getElem?_eq_getElem hj)] at hg
  omega

/-! ### One register -/

/-- **A register for events is well formed** exactly where the sources can be declared, whatever
valid name it goes by. -/
lemma wellFormed_named_iff (hname : isName name) :
    ({ e.register role access with name := name } : Register).WellFormed
      ↔ Declarable e.sources := by
  constructor
  · intro h
    have hle : e.sources.length ≤ e.width.toNat := length_le_width h.fields
    have hpos : 0 < e.width.toNat := h.width_pos
    have hwidth : e.width.toNat ≤ 64 := h.width_le
    have heq := toNat_width (hle.trans hwidth)
    refine ⟨by omega, by omega, fun s hs => ?_, ?_⟩
    · rw [← e.map_name_fields] at hs
      obtain ⟨f, hf, rfl⟩ := List.mem_map.1 hs
      exact (h.fields f hf).name
    · rw [← e.map_name_fields]
      exact h.fieldNames
  · intro h
    have hwidth := toNat_width h.le
    have hfits (f : Field) (hf : f ∈ e.fields) : f.FitsIn e.width := by
      obtain ⟨i, hi⟩ := List.mem_iff_getElem?.1 hf
      obtain ⟨hs, hoffset, hone⟩ := getElem?_fields_eq_some hi
      have hlt := (List.getElem?_eq_some_iff.1 hs).1
      have hcovers := (covers_iff_of_getElem? h.le hi).2 rfl
      refine ⟨h.names _ (List.mem_of_getElem? hs), by simp [hone], ?_⟩
      unfold Field.Covers Field.endBit at *
      rw [hone, UInt32.toNat_one] at hcovers ⊢
      omega
    refine
      { name := hname
        width_pos := hwidth ▸ h.pos
        width_le := hwidth ▸ h.le
        reset_le := UInt64.zero_le
        fields := hfits
        fieldNames := e.map_name_fields.symm ▸ h.distinct
        fieldsApart := ?apart }
    exact (Field.overlap?_sorted_eq_none_iff fun f hf => (hfits f hf).width_pos).2
      (pairwise_not_meets h.le)

/-- In each register, bit `i` belongs to source `i`. -/
lemma bitPerSource_register (h : Declarable e.sources) (role : String) (access : Access) :
    (e.register role access).BitPerSource e.sources := by
  have hwidth := toNat_width h.le
  have howner (f : Field) (hf : f ∈ e.fields) (bit : ℕ) :
      f.Covers bit ↔ e.sources[bit]? = some f.name := by
    obtain ⟨i, hi⟩ := List.mem_iff_getElem?.1 hf
    obtain ⟨hs, -, -⟩ := getElem?_fields_eq_some hi
    rw [covers_iff_of_getElem? h.le hi]
    constructor
    · rintro rfl
      exact hs
    · intro hbit
      exact (List.getElem?_inj (List.getElem?_eq_some_iff.1 hbit).1 h.distinct).1
        (hbit.trans hs.symm)
  refine
    { width := hwidth
      names := e.map_name_fields
      owner := howner
      covered := fun bit => ?covered
      apart := pairwise_not_meets h.le }
  change bit < e.width.toNat ↔ ∃ f ∈ e.fields, f.Covers bit
  rw [hwidth]
  constructor
  · intro hlt
    have hfield := e.getElem?_fields bit
    rw [List.getElem?_eq_getElem hlt, Option.map_some] at hfield
    exact ⟨_, List.mem_of_getElem? hfield, (covers_iff_of_getElem? h.le hfield).2 rfl⟩
  · rintro ⟨f, hf, hcovers⟩
    exact (List.getElem?_eq_some_iff.1 ((howner f hf bit).1 hcovers)).1

/-! ### The three registers of a bank -/

/-- The names of the registers. -/
def registerNames : List String := ["ev_status", "ev_pending", "ev_enable"]

/-- The registers with a start before each name. -/
def renamed (e : EventRegisters) (start : String) : List Register :=
  e.registers.map fun r => { r with name := start ++ r.name }

lemma renamed_empty (e : EventRegisters) : e.renamed "" = e.registers := by
  simp [renamed, registers]

lemma renamed_core (e : EventRegisters) (core : String) :
    e.renamed (core ++ "_") = e.registersOf core := rfl

lemma map_name_renamed (e : EventRegisters) (start : String) :
    (e.renamed start).map (·.name) = registerNames.map (start ++ ·) := rfl

/-- A bank takes the registers exactly where the sources can be declared. -/
lemma exists_withBank_iff {d : Declarations} {bank : String} (hbank : isName bank)
    (hnew : ¬ d.hasBank bank) (hstart : ∀ s ∈ registerNames, isName (start ++ s)) :
    (∃ added, d.withBank bank (e.renamed start) = .ok added) ↔ Declarable e.sources := by
  have hfree : bank ∉ d.banks.map (·.name) := mt Declarations.hasBank_iff.2 hnew
  have hnames : ((e.renamed start).map (·.name)).Nodup := by
    rw [map_name_renamed]
    refine List.Nodup.map (fun s t heq => (String.append_right_inj _).1 heq) ?_
    decide
  have hwf : (∀ r ∈ e.renamed start, r.WellFormed) ↔ Declarable e.sources := by
    have hevery (role : String) (access : Access) (hrole : "ev_" ++ role ∈ registerNames) :
        ({ e.register role access with name := start ++ ("ev_" ++ role) } : Register).WellFormed
          ↔ Declarable e.sources :=
      wellFormed_named_iff (hstart _ hrole)
    simp only [renamed, registers, List.map_cons, List.map_nil, List.forall_mem_cons]
    constructor
    · intro h
      exact (hevery "status" .status (by decide)).1 h.1
    · intro h
      exact ⟨(hevery "status" .status (by decide)).2 h, (hevery "pending" .storage (by decide)).2 h,
        (hevery "enable" .storage (by decide)).2 h, nofun⟩
  constructor
  · rintro ⟨⟨next, index⟩, h⟩
    exact hwf.1 (Declarations.withBank_eq_ok_iff.1 h).1.1.registers
  · intro h
    exact ⟨_, Declarations.withBank_eq_ok_iff.2
      ⟨⟨⟨hbank, List.cons_ne_nil _ _, hwf.2 h, hnames⟩, hfree⟩, rfl, rfl⟩⟩

lemma isName_registerNames : ∀ s ∈ registerNames, isName s := by
  decide

/-- The longer names are valid too. -/
lemma isName_core {core : String} (h : core = "" ∨ isName core) :
    ∀ s ∈ registerNames, isName (core ++ "_" ++ s) := by
  intro s hs
  have hlower := List.all_eq_true.2 (Header.isName_iff.1 (isName_registerNames s hs)).2
  have hcore : isName (core ++ "_") := by
    rcases h with rfl | h
    · decide
    · exact Header.isName_append h (by decide)
  exact Header.isName_append hcore hlower

/-- **Which sources make registers for events.** A new bank takes the three registers exactly where
there are between one and 64 sources with valid names of their own. Then each register is as wide as
there are sources, and bit `i` of all three belongs to source `i` alone. Under longer names the same
sources are taken, and nothing but the names of the registers is different. -/
theorem withBank_events (d : Declarations) {bank : String} (hbank : isName bank)
    (hnew : ¬ d.hasBank bank) (sources : List String) :
    ((∃ added, d.withBank bank (registers ⟨sources⟩) = .ok added) ↔
      (1 ≤ sources.length ∧ sources.length ≤ 64) ∧ (∀ s ∈ sources, isName s) ∧ sources.Nodup) ∧
    (∀ added, d.withBank bank (registers ⟨sources⟩) = .ok added →
      added = ({ d with banks := d.banks ++ [⟨bank, registers ⟨sources⟩⟩] }, d.banks.length) ∧
      (registers ⟨sources⟩).map (·.name) = ["ev_status", "ev_pending", "ev_enable"] ∧
      ∀ r ∈ registers ⟨sources⟩, r.BitPerSource sources) ∧
    ∀ core, core = "" ∨ isName core →
      ((∃ added, d.withBank bank (registersOf ⟨sources⟩ core) = .ok added) ↔
        (1 ≤ sources.length ∧ sources.length ≤ 64) ∧ (∀ s ∈ sources, isName s) ∧ sources.Nodup) ∧
      List.Forall₂ (fun long short : Register => long.name = core ++ "_" ++ short.name ∧
        { long with name := short.name } = short) (registersOf ⟨sources⟩ core)
          (registers ⟨sources⟩) := by
  have hdeclarable : Declarable sources ↔
      (1 ≤ sources.length ∧ sources.length ≤ 64) ∧ (∀ s ∈ sources, isName s) ∧ sources.Nodup :=
    ⟨fun h => ⟨⟨h.pos, h.le⟩, h.names, h.distinct⟩,
      fun ⟨⟨hpos, hle⟩, hnames, hdistinct⟩ => ⟨hpos, hle, hnames, hdistinct⟩⟩
  have hplain : (∃ added, d.withBank bank (registers ⟨sources⟩) = .ok added) ↔
      Declarable sources := by
    rw [← renamed_empty]
    refine exists_withBank_iff hbank hnew fun s hs => ?_
    rw [String.empty_append]
    exact isName_registerNames s hs
  refine ⟨hplain.trans hdeclarable, fun added hadded => ?_, fun core hcore => ⟨?_, ?_⟩⟩
  · obtain ⟨next, index⟩ := added
    obtain ⟨-, rfl, rfl⟩ := Declarations.withBank_eq_ok_iff.1 hadded
    have h := hplain.1 ⟨_, hadded⟩
    refine ⟨rfl, rfl, ?_⟩
    simp only [registers, List.forall_mem_cons]
    exact ⟨bitPerSource_register h _ _, bitPerSource_register h _ _, bitPerSource_register h _ _,
      nofun⟩
  · rw [← renamed_core]
    exact (exists_withBank_iff hbank hnew (isName_core hcore)).trans hdeclarable
  · rw [registersOf, List.forall₂_map_left_iff, List.forall₂_same]
    exact fun r _ => ⟨rfl, rfl⟩

/-- Two sources are taken, also with an underscore before the names of the registers; one source
twice is not. -/
theorem withBank_events_twice :
    (∃ added, Declarations.withBank {} "uart" (registers ⟨["tx", "rx"]⟩) = .ok added) ∧
    (∀ r ∈ registers ⟨["tx", "rx"]⟩, r.BitPerSource ["tx", "rx"]) ∧
    (∃ added, Declarations.withBank {} "uart" (registersOf ⟨["tx", "rx"]⟩ "") = .ok added) ∧
    ¬ ∃ added, Declarations.withBank {} "uart" (registers ⟨["tx", "tx"]⟩) = .ok added := by
  have hbank : isName "uart" := by decide
  have hnew : ¬ Declarations.hasBank {} "uart" := by decide
  obtain ⟨haccepts, hregisters, hlonger⟩ := withBank_events {} hbank hnew ["tx", "rx"]
  obtain ⟨added, hadded⟩ := haccepts.2 (by decide)
  refine ⟨⟨added, hadded⟩, (hregisters added hadded).2.2, (hlonger "" (.inl rfl)).1.2 (by decide), ?_⟩
  intro htwice
  have hdistinct := ((withBank_events {} hbank hnew ["tx", "tx"]).1.1 htwice).2.2
  exact absurd hdistinct (by decide)

end Peripheral.EventRegisters

end CsrMap
