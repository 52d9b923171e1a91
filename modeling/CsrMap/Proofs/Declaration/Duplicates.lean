import CsrMap.Proofs.Declaration.Making

/-!
Refusals for a name that is taken.

An operation refuses a declaration as a duplicate only for a name that it repeats, among those of
its kind or inside of it. A row of declarations without repeated names may be refused, but never as
that.
-/

namespace CsrMap

/-- The cause of the refusal is a name, or a symbol, that is taken. -/
def ConfigError.IsDuplicate : ConfigError → Prop
  | duplicateBank _ | duplicateRegister _ _ | duplicateField _ _ | duplicateInterrupt _
  | duplicateRegion _ | duplicateConstant _ | symbolCollision _ _ _ => True
  | _ => False

variable {cause : ConfigError} {bank : String}

lemma not_isDuplicate_of_checkName {s : String} (h : checkName s = .error cause) :
    ¬ cause.IsDuplicate := by
  unfold checkName at h
  split at h
  · cases h
  · cases h
    exact id

lemma not_isDuplicate_of_checkConstantName {s : String} (h : checkConstantName s = .error cause) :
    ¬ cause.IsDuplicate := by
  unfold checkConstantName at h
  split at h
  · cases h
  · cases h
    exact id

/-! ### Registers and their fields -/

namespace Field

lemma not_isDuplicate_of_checkEach {register : String} {width : UInt32} {earlier : List String}
    {fields : List Field} (hnames : (fields.map (·.name)).Nodup)
    (hnew : ∀ f ∈ fields, f.name ∉ earlier)
    (h : checkEach register width earlier fields = .error cause) : ¬ cause.IsDuplicate := by
  induction fields generalizing earlier with
  | nil => cases h
  | cons f fields ih =>
    rw [List.map_cons, List.nodup_cons] at hnames
    rw [List.forall_mem_cons] at hnew
    simp only [checkEach, step_eq_error_iff, guard_eq_error_iff, List.contains_iff_mem] at h
    rcases h with hname | ⟨-, ⟨htaken, -⟩ | ⟨-, ⟨-, rfl⟩ | ⟨-, hrest⟩⟩⟩
    · exact not_isDuplicate_of_checkName hname
    · exact absurd htaken hnew.1
    · exact id
    · refine ih hnames.2 (fun g hg => ?_) hrest
      rw [List.mem_cons, not_or]
      exact ⟨fun heq => hnames.1 (heq ▸ List.mem_map_of_mem hg), hnew.2 g hg⟩

end Field

namespace Register

variable {r : Register} {registers : List Register}

lemma not_isDuplicate_of_check (hfields : (r.fields.map (·.name)).Nodup)
    (h : r.check bank = .error cause) : ¬ cause.IsDuplicate := by
  simp only [check, checkFields, step_eq_error_iff, guard_eq_error_iff] at h
  rcases h with hname | ⟨-, ⟨-, rfl⟩ | ⟨-, ⟨-, rfl⟩ | ⟨-, ⟨-, rfl⟩ | ⟨-, hcheck | ⟨-, hpair⟩⟩⟩⟩⟩
  · exact not_isDuplicate_of_checkName hname
  · exact id
  · exact id
  · exact id
  · exact Field.not_isDuplicate_of_checkEach hfields (by simp) hcheck
  · split at hpair
    · cases hpair
      exact id
    · cases hpair

lemma not_isDuplicate_of_checkEach {earlier : List String}
    (hfields : ∀ r ∈ registers, (r.fields.map (·.name)).Nodup)
    (hnames : (registers.map (·.name)).Nodup) (hnew : ∀ r ∈ registers, r.name ∉ earlier)
    (h : checkEach bank earlier registers = .error cause) : ¬ cause.IsDuplicate := by
  induction registers generalizing earlier with
  | nil => cases h
  | cons r registers ih =>
    rw [List.map_cons, List.nodup_cons] at hnames
    rw [List.forall_mem_cons] at hfields hnew
    simp only [checkEach, step_eq_error_iff, guard_eq_error_iff, List.contains_iff_mem] at h
    rcases h with hcheck | ⟨-, ⟨htaken, -⟩ | ⟨-, hrest⟩⟩
    · exact not_isDuplicate_of_check hfields.1 hcheck
    · exact absurd htaken hnew.1
    · refine ih hfields.2 hnames.2 (fun s hs => ?_) hrest
      rw [List.mem_cons, not_or]
      exact ⟨fun heq => hnames.1 (heq ▸ List.mem_map_of_mem hs), hnew.2 s hs⟩

end Register

/-! ### Operations -/

namespace Declarations

/-- No name is repeated, neither among declarations of one kind nor in a bank or a register. -/
structure NamesApart (d : Declarations) : Prop where
  banks : (d.banks.map (·.name)).Nodup
  registers : ∀ b ∈ d.banks, (b.registers.map (·.name)).Nodup
  fields : ∀ b ∈ d.banks, ∀ r ∈ b.registers, (r.fields.map (·.name)).Nodup
  interrupts : (d.interrupts.entries.map (·.name)).Nodup
  regions : (d.regions.map (·.name)).Nodup
  constants : (d.constants.map (·.name)).Nodup

variable {d next : Declarations} {x : Declaration}

/-- What lies within declarations without repeated names has none. -/
lemma Within.namesApart (h : d.Within next) (hnext : next.NamesApart) : d.NamesApart where
  banks := hnext.banks.sublist (h.banks.sublist.map _)
  registers b hb := hnext.registers b (h.banks.subset hb)
  fields b hb := hnext.fields b (h.banks.subset hb)
  interrupts := hnext.interrupts.sublist (h.interrupts.sublist.map _)
  regions := hnext.regions.sublist (map_name_sublist h.regions)
  constants := hnext.constants.sublist (h.constants.map _)

lemma not_isDuplicate_of_checkRegion {region : Region} {regions : List Region}
    (hnew : region.name ∉ regions.map (·.name))
    (h : checkRegion region regions = .error cause) : ¬ cause.IsDuplicate := by
  induction regions with
  | nil => cases h
  | cons s regions ih =>
    rw [List.map_cons, List.mem_cons, not_or] at hnew
    rw [checkRegion, if_neg (Ne.symm hnew.1)] at h
    split at h
    · cases h
      exact id
    · exact ih hnew.2 h

lemma map_eq_error_iff {α β : Type} {f : α → β} {y : Except ConfigError α} :
    f <$> y = .error cause ↔ y = .error cause := by
  cases y <;> simp [Functor.map, Except.map]

lemma not_isDuplicate_of_withBank {b : Bank} (hnew : b.name ∉ d.banks.map (·.name))
    (hregisters : (b.registers.map (·.name)).Nodup)
    (hfields : ∀ r ∈ b.registers, (r.fields.map (·.name)).Nodup)
    (h : d.withBank b.name b.registers = .error cause) : ¬ cause.IsDuplicate := by
  simp only [withBank, step_eq_error_iff, guard_eq_error_iff, hasBank_iff, hnew, false_and,
    false_or, not_false_eq_true, true_and] at h
  rcases h with hname | ⟨-, ⟨-, rfl⟩ | ⟨-, hcheck | ⟨-, hmade⟩⟩⟩
  · exact not_isDuplicate_of_checkName hname
  · exact id
  · exact Register.not_isDuplicate_of_checkEach hfields hregisters (by simp) hcheck
  · cases hmade

lemma not_isDuplicate_of_withInterrupt {name peripheral : String}
    (hnew : name ∉ d.interrupts.entries.map (·.name))
    (h : d.withInterrupt name peripheral = .error cause) : ¬ cause.IsDuplicate := by
  have hfound : (d.interrupts.bit? name).isSome = true ↔
      name ∈ d.interrupts.entries.map (·.name) := by simp [InterruptTable.bit?]
  have hadd : d.interrupts.add name peripheral = .error cause := by
    unfold withInterrupt at h
    cases hadd : d.interrupts.add name peripheral with
    | error found =>
      rw [hadd] at h
      cases h
      rfl
    | ok made =>
      rw [hadd] at h
      cases h
  simp only [InterruptTable.add, step_eq_error_iff, guard_eq_error_iff, hfound, hnew, false_and,
    false_or, not_false_eq_true, true_and] at hadd
  rcases hadd with hname | ⟨-, hname | ⟨-, ⟨-, rfl⟩ | ⟨-, hmade⟩⟩⟩
  · exact not_isDuplicate_of_checkName hname
  · exact not_isDuplicate_of_checkName hname
  · exact id
  · cases hmade

/-- **No operation refuses as a duplicate** a declaration that repeats no name. -/
lemma not_isDuplicate_of_operate (hnames : (d.including x).NamesApart)
    (h : d.operate x = .error cause) : ¬ cause.IsDuplicate := by
  cases x with
  | bank b =>
    have hb : b ∈ (d.including (.bank b)).banks := List.mem_concat_self
    exact not_isDuplicate_of_withBank (not_mem_of_nodup_map_snoc hnames.banks)
      (hnames.registers b hb) (hnames.fields b hb) (map_eq_error_iff.1 h)
  | interrupt name peripheral =>
    exact not_isDuplicate_of_withInterrupt (not_mem_of_nodup_map_snoc hnames.interrupts)
      (map_eq_error_iff.1 h)
  | region r =>
    simp only [operate, withRegion, step_eq_error_iff, guard_eq_error_iff] at h
    rcases h with hname | ⟨-, ⟨-, rfl⟩ | ⟨-, hcheck | ⟨-, hmade⟩⟩⟩
    · exact not_isDuplicate_of_checkName hname
    · exact id
    · exact not_isDuplicate_of_checkRegion (not_mem_of_nodup_map_snoc hnames.regions) hcheck
    · cases hmade
  | constant c =>
    have hnew := not_mem_of_nodup_map_snoc hnames.constants
    have hany : d.constants.any (·.name == c.name) = true ↔
        c.name ∈ d.constants.map (·.name) := by simp
    simp only [operate, withConstant, step_eq_error_iff, guard_eq_error_iff, hany, hnew, false_and,
      false_or, not_false_eq_true, true_and] at h
    rcases h with hname | ⟨-, hmade⟩
    · exact not_isDuplicate_of_checkConstantName hname
    · cases hmade

end Declarations

/-- **No row of declarations is refused as a duplicate** where none repeats a name. -/
theorem Declaring.Performs.not_isDuplicate {row : Declaring Unit} {xs : List Declaration}
    (h : row.Performs xs) (hnames : (Declarations.includingAll {} xs).NamesApart)
    (hrefused : row.all = refuse cause) : ¬ cause.IsDuplicate := by
  obtain ⟨front, x, back, rfl, -, hrefuses⟩ := h.all_eq_refuse hrefused
  rw [Declarations.includingAll_append, Declarations.includingAll_cons] at hnames
  have hstart := (Declarations.startOf_includingAll _ back).within.namesApart hnames
  exact Declarations.not_isDuplicate_of_operate hstart hrefuses

end CsrMap
