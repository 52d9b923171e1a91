import CsrMap.Placement
import CsrMap.Proofs.Word.Bits

/-!
What the checks of registers and banks ask.

A check accepts exactly what is well formed, whatever bank it is made for and whatever messages
it could give. Names that were seen before are the only thing that it takes from outside.
-/

namespace CsrMap

/-- A step without a value, before the rest. -/
lemma step_eq_ok_iff {ε α : Type} {x : Except ε Unit} {f : Unit → Except ε α} {a : α} :
    (x >>= f) = .ok a ↔ x = .ok () ∧ f () = .ok a := by
  cases x <;> simp [bind, Except.bind]

/-- A step that refuses where `p` holds, before the rest. -/
lemma guard_eq_ok_iff {ε α : Type} {p : Prop} [Decidable p] {cause : ε} {rest : Except ε α}
    {a : α} : (if p then throw cause >>= fun (_ : Unit) => rest else rest) = .ok a ↔
      ¬ p ∧ rest = .ok a := by
  split <;> simp_all [throw, throwThe, MonadExceptOf.throw, bind, Except.bind]

lemma step_eq_error_iff {ε α : Type} {x : Except ε Unit} {f : Unit → Except ε α} {e : ε} :
    (x >>= f) = .error e ↔ x = .error e ∨ x = .ok () ∧ f () = .error e := by
  cases x <;> simp [bind, Except.bind]

lemma guard_eq_error_iff {ε α : Type} {p : Prop} [Decidable p] {cause e : ε} {rest : Except ε α} :
    (if p then throw cause >>= fun (_ : Unit) => rest else rest) = .error e ↔
      p ∧ cause = e ∨ ¬ p ∧ rest = .error e := by
  split <;> simp_all [throw, throwThe, MonadExceptOf.throw, bind, Except.bind]

namespace Field

variable {register : String} {width : UInt32} {earlier : List String} {fields : List Field}

/-- The field has a name and lies inside a register of `width` bits. -/
structure FitsIn (width : UInt32) (f : Field) : Prop where
  name : isName f.name
  width_ne : f.width ≠ 0
  endBit_le : f.endBit ≤ width.toNat

lemma checkEach_eq_ok_iff :
    checkEach register width earlier fields = .ok () ↔
      (∀ f ∈ fields, f.FitsIn width) ∧ (fields.map (·.name)).Nodup ∧
        ∀ f ∈ fields, f.name ∉ earlier := by
  induction fields generalizing earlier with
  | nil => simp [checkEach]
  | cons f fields ih =>
    rw [List.forall_mem_cons, List.forall_mem_cons]
    simp only [checkEach, step_eq_ok_iff, checkName_eq_ok_iff, guard_eq_ok_iff, ih,
      List.contains_iff_mem, not_or, Nat.not_lt, List.map_cons, List.nodup_cons, List.mem_map,
      List.mem_cons, not_exists, not_and]
    constructor
    · rintro ⟨hname, hnew, ⟨hwidth, hend⟩, hfit, hnodup, hlater⟩
      exact ⟨⟨⟨hname, hwidth, hend⟩, hfit⟩, ⟨fun g hg => (hlater g hg).1, hnodup⟩, hnew,
        fun g hg => (hlater g hg).2⟩
    · rintro ⟨⟨⟨hname, hwidth, hend⟩, hfit⟩, ⟨hdiff, hnodup⟩, hnew, hlater⟩
      exact ⟨hname, hnew, ⟨hwidth, hend⟩, hfit, hnodup,
        fun g hg => ⟨hdiff g hg, hlater g hg⟩⟩

/-- Fields one after another without a bit in common stay in their order. -/
lemma sorted_eq_self (h : fields.Pairwise fun f g => f.endBit ≤ g.offset.toNat) :
    sorted fields = fields := by
  refine List.mergeSort_of_pairwise (h.imp fun {f g} hle => ?_)
  rw [decide_eq_true_eq, UInt32.le_iff_toNat_le]
  exact (Nat.le_add_right _ _).trans hle

lemma overlap?_eq_none (h : fields.Pairwise fun f g => f.endBit ≤ g.offset.toNat) :
    overlap? fields = none := by
  induction fields with
  | nil => rfl
  | cons f fields ih =>
    rw [List.pairwise_cons] at h
    cases fields with
    | nil => rfl
    | cons g fields =>
      rw [overlap?, if_neg (Nat.not_lt.2 (h.1 g (by simp)))]
      exact ih h.2

end Field

namespace Register

variable {bank : String} {earlier : List String} {r : Register} {registers : List Register}

/-- The register can be part of a map. -/
structure WellFormed (r : Register) : Prop where
  name : isName r.name
  width_pos : 0 < r.width.toNat
  width_le : r.width.toNat ≤ 64
  reset_le : r.reset ≤ r.mask
  fields : ∀ f ∈ r.fields, f.FitsIn r.width
  fieldNames : (r.fields.map (·.name)).Nodup
  fieldsApart : Field.overlap? (Field.sorted r.fields) = none

lemma and_not_mask_eq_zero_iff : r.reset &&& ~~~r.mask = 0 ↔ r.reset ≤ r.mask := by
  rw [mask, le_lowBits_iff]
  constructor
  · intro h i hi
    rcases Nat.lt_or_ge i 64 with h64 | h64
    · have := congrArg (·.bit i) h
      simpa [UInt64.bit_not _ h64, bit_lowBits, Nat.not_lt.2 hi] using this
    · exact UInt64.bit_of_le h64
  · intro h
    refine UInt64.eq_of_bit_eq fun i h64 => ?_
    rw [UInt64.bit_and, UInt64.bit_not _ h64, bit_lowBits, UInt64.bit_zero]
    rcases Nat.lt_or_ge i r.width.toNat with hi | hi
    · simp [hi, h64]
    · simp [h i hi]

lemma checkFields_eq_ok_iff :
    r.checkFields bank = .ok () ↔
      (∀ f ∈ r.fields, f.FitsIn r.width) ∧ (r.fields.map (·.name)).Nodup ∧
        Field.overlap? (Field.sorted r.fields) = none := by
  simp only [checkFields, step_eq_ok_iff, Field.checkEach_eq_ok_iff, List.not_mem_nil,
    not_false_eq_true, implies_true, and_true]
  cases Field.overlap? (Field.sorted r.fields) with
  | none => simp [pure, Except.pure]
  | some pair => simp [throw, throwThe, MonadExceptOf.throw]

lemma check_eq_ok_iff : r.check bank = .ok () ↔ r.WellFormed := by
  have hmax : maxWidth < r.width ↔ ¬ r.width.toNat ≤ 64 := by
    rw [UInt32.lt_iff_toNat_lt, Nat.not_le]
    rfl
  have hzero : r.width = 0 ↔ ¬ 0 < r.width.toNat := by
    rw [← UInt32.toNat_inj, Nat.not_lt, Nat.le_zero]
    rfl
  simp only [check, step_eq_ok_iff, checkName_eq_ok_iff, guard_eq_ok_iff, hmax, hzero, not_not,
    ne_eq, and_not_mask_eq_zero_iff, checkFields_eq_ok_iff]
  constructor
  · rintro ⟨hname, hpos, hle, hreset, hfields, hnames, hapart⟩
    exact ⟨hname, hpos, hle, hreset, hfields, hnames, hapart⟩
  · rintro ⟨hname, hpos, hle, hreset, hfields, hnames, hapart⟩
    exact ⟨hname, hpos, hle, hreset, hfields, hnames, hapart⟩

lemma checkEach_eq_ok_iff :
    checkEach bank earlier registers = .ok () ↔
      (∀ r ∈ registers, r.WellFormed) ∧ (registers.map (·.name)).Nodup ∧
        ∀ r ∈ registers, r.name ∉ earlier := by
  induction registers generalizing earlier with
  | nil => simp [checkEach]
  | cons r registers ih =>
    rw [List.forall_mem_cons, List.forall_mem_cons]
    simp only [checkEach, step_eq_ok_iff, check_eq_ok_iff, guard_eq_ok_iff, ih,
      List.contains_iff_mem, List.map_cons, List.nodup_cons, List.mem_map,
      List.mem_cons, not_exists, not_and, not_or]
    constructor
    · rintro ⟨hr, hnew, hwf, hnodup, hlater⟩
      exact ⟨⟨hr, hwf⟩, ⟨fun s hs he => (hlater s hs).1 he, hnodup⟩, hnew,
        fun s hs => (hlater s hs).2⟩
    · rintro ⟨⟨hr, hwf⟩, ⟨hdiff, hnodup⟩, hnew, hlater⟩
      exact ⟨hr, hnew, hwf, hnodup, fun s hs => ⟨hdiff s hs, hlater s hs⟩⟩

end Register

namespace Bank

variable {b : Bank} {earlier : List String}

/-- The bank can be part of a map. -/
structure WellFormed (b : Bank) : Prop where
  name : isName b.name
  registers_ne : b.registers ≠ []
  registers : ∀ r ∈ b.registers, r.WellFormed
  registerNames : (b.registers.map (·.name)).Nodup

end Bank

lemma checkBank_eq_ok_iff {b : Bank} {earlier : List String} :
    checkBank earlier b = .ok () ↔ b.WellFormed ∧ b.name ∉ earlier := by
  simp only [checkBank, guard_eq_ok_iff, step_eq_ok_iff, checkName_eq_ok_iff,
    Register.checkEach_eq_ok_iff, List.contains_iff_mem, List.isEmpty_iff, List.not_mem_nil,
    not_false_eq_true, implies_true, and_true]
  constructor
  · rintro ⟨hnew, hne, hname, hwf, hnodup⟩
    exact ⟨⟨hname, hne, hwf, hnodup⟩, hnew⟩
  · rintro ⟨⟨hname, hne, hwf, hnodup⟩, hnew⟩
    exact ⟨hnew, hne, hname, hwf, hnodup⟩

end CsrMap
