import CsrMap.Proofs.Header.Subjects

/-!
Declarations whose symbols are apart on every bus.

The symbols are apart where the flattened names are. How many words a register takes depends on
the bus, but the names of words end with a digit, so registers whose names do not are never named
like a word. The names of different banks are apart already where no bank starts the name of
another one.
-/

namespace CsrMap

open Text

/-! ### Names that are apart -/

namespace Bank

/-- The names of the registers and of their fields in a bank. -/
def localNames (b : Bank) : List String :=
  b.registers.flatMap fun r => r.name :: r.fields.map fun f => r.name ++ "_" ++ f.name

/-- The flattened names of a bank and of what is in it. -/
def flatNames (b : Bank) : List String := b.name :: b.localNames.map (b.name ++ "_" ++ ·)

lemma nodup_registerNames {b : Bank} (h : b.localNames.Nodup) :
    (b.registers.map (·.name)).Nodup := by
  have hsublist : (b.registers.map (·.name)).Sublist b.localNames := by
    rw [localNames, List.map_eq_flatMap]
    exact List.Sublist.flatMap_right _ fun r _ => (List.nil_sublist _).cons_cons _
  exact hsublist.nodup h

lemma nodup_fieldNames {b : Bank} (h : b.localNames.Nodup) {r : Register}
    (hr : r ∈ b.registers) : (r.fields.map (·.name)).Nodup := by
  have hlocal := (List.nodup_flatMap.1 h).1 r hr
  rw [List.nodup_cons] at hlocal
  refine List.Nodup.of_map (r.name ++ "_" ++ ·) ?_
  rw [List.map_map]
  exact hlocal.2

/-- Neither name, with an underscore after it, starts the other one. -/
def StartApart (s t : String) : Prop :=
  ¬ (s ++ "_").toList <+: (t ++ "_").toList ∧ ¬ (t ++ "_").toList <+: (s ++ "_").toList

instance (s t : String) : Decidable (StartApart s t) := by
  unfold StartApart
  infer_instance

lemma prefix_of_mem_flatNames {b : Bank} {s : String} (hs : s ∈ b.flatNames) :
    (b.name ++ "_").toList <+: (s ++ "_").toList := by
  rcases List.mem_cons.1 hs with rfl | hs
  · exact List.prefix_refl _
  · obtain ⟨t, -, rfl⟩ := List.mem_map.1 hs
    exact ⟨t.toList ++ "_".toList, by simp [String.toList_append]⟩

/-- Flattened names are apart where they are in each bank and where the names of the banks start
differently. -/
theorem nodup_flatNames {banks : List Bank} (hlocal : ∀ b ∈ banks, b.localNames.Nodup)
    (hnames : (banks.map (·.name)).Pairwise StartApart) : (banks.flatMap flatNames).Nodup := by
  rw [List.nodup_flatMap]
  constructor
  · intro b hb
    rw [flatNames, List.nodup_cons]
    refine ⟨fun hmem => ?_, (hlocal b hb).map fun s t heq => (String.append_right_inj _).1 heq⟩
    obtain ⟨s, -, heq⟩ := List.mem_map.1 hmem
    have hlen := congrArg String.length heq
    have hbar : "_".length = 1 := rfl
    rw [String.length_append, String.length_append] at hlen
    omega
  · refine (List.pairwise_map.1 hnames).imp fun hapart s hs ht => ?_
    rcases List.prefix_or_prefix_of_prefix (prefix_of_mem_flatNames hs)
      (prefix_of_mem_flatNames ht) with hstarts | hstarts
    · exact hapart.1 hstarts
    · exact hapart.2 hstarts

end Bank

namespace Declarations

open Header

variable {d : Declarations} {x : Subject}

/-- The flattened names are apart from each other and from the ones of the bus. Registers are not
named like words, nor regions like what comes from the bus, nor constants like any of these. -/
structure Apart (d : Declarations) : Prop where
  flatNames : (["data", "slot"] ++ d.banks.flatMap Bank.flatNames).Nodup
  digits : ∀ b ∈ d.banks, ∀ r ∈ b.registers, ¬ EndsWithDigit r.name
  regions : ∀ r ∈ d.regions, ¬ "csr".toList <+: r.name.toList
  constants : ∀ k ∈ d.constants, ¬ "CSR_".toList <+: k.name.toList ∧
    (∀ r ∈ d.regions, k.name ∉ (regionSubject r).numbers) ∧
    ∀ i ∈ d.interrupts.entries, k.name ∉ (interruptSubject i).numbers

lemma map_name_bankSubjects (b : Bank) :
    (bankSubjects b).map (·.name) = b.flatNames.map ("csr_" ++ ·) := by
  simp [bankSubjects, registerSubjects, fieldSubject, Bank.flatNames, Bank.localNames,
    List.map_flatMap, Function.comp_def, String.append_assoc]

lemma map_name_bankAccessorSubjects (b : Bank) :
    (bankAccessorSubjects b).map (·.name) = b.localNames.map (b.name ++ "_" ++ ·) := by
  simp [bankAccessorSubjects, Header.accessorSubjects, Bank.localNames, List.map_flatMap,
    Function.comp_def, String.append_assoc]

lemma map_name_subjects (d : Declarations) : d.subjects.map (·.name)
    = "csr" :: (["data", "slot"] ++ d.banks.flatMap Bank.flatNames).map ("csr_" ++ ·)
      ++ d.regions.map (·.name) := by
  have hbanks : (d.banks.flatMap bankSubjects).map (·.name)
      = (d.banks.flatMap Bank.flatNames).map ("csr_" ++ ·) := by
    rw [List.map_flatMap, List.map_flatMap]
    exact List.flatMap_congr fun b _ => map_name_bankSubjects b
  have hregions : (d.regions.map regionSubject).map (·.name) = d.regions.map (·.name) :=
    List.map_map
  rw [subjects, List.map_append, List.map_append, hbanks, hregions]
  rfl

/-- The names of all that the numbers are about are apart, without words. -/
lemma Apart.nodup_names (h : d.Apart) (hregions : (d.regions.map (·.name)).Nodup) :
    (d.subjects.map (·.name)).Nodup := by
  have hcsr (s : String) : "csr".toList <+: ("csr_" ++ s).toList := by
    rw [String.toList_append]
    exact (show "csr".toList <+: "csr_".toList by decide).trans (List.prefix_append _ _)
  rw [map_name_subjects, List.cons_append, List.nodup_cons, List.nodup_append']
  refine ⟨?_, h.flatNames.map fun s t heq => (String.append_right_inj _).1 heq, hregions, ?_⟩
  · rw [List.mem_append, not_or]
    constructor
    · intro hmem
      obtain ⟨s, -, heq⟩ := List.mem_map.1 hmem
      have hlen := congrArg String.length heq
      rw [String.length_append] at hlen
      have : "csr_".length = 4 := rfl
      have : "csr".length = 3 := rfl
      omega
    · intro hmem
      obtain ⟨r, hr, heq⟩ := List.mem_map.1 hmem
      exact h.regions r hr (heq ▸ List.prefix_refl _)
  · intro s hs hregion
    obtain ⟨t, -, rfl⟩ := List.mem_map.1 hs
    obtain ⟨r, hr, heq⟩ := List.mem_map.1 hregion
    exact h.regions r hr (heq ▸ hcsr t)

/-- No two banks have one name where the flattened names are apart. -/
lemma Apart.bankNames (h : d.Apart) : (d.banks.map (·.name)).Nodup := by
  have hsublist : (d.banks.map (·.name)).Sublist (d.banks.flatMap Bank.flatNames) := by
    rw [List.map_eq_flatMap]
    exact List.Sublist.flatMap_right _ fun b _ => (List.nil_sublist _).cons_cons _
  exact (hsublist.trans (List.sublist_append_right _ _)).nodup h.flatNames

/-- The names in a bank are apart where the flattened names are. -/
lemma Apart.localNames (h : d.Apart) {b : Bank} (hb : b ∈ d.banks) : b.localNames.Nodup := by
  have hflat := (List.nodup_flatMap.1 (List.nodup_append'.1 h.flatNames).2.1).1 b hb
  exact (List.nodup_cons.1 hflat).2.of_map _

/-- What a number is about, without words of registers. -/
inductive IsSubject (d : Declarations) : Subject → Prop
  | bus {x : Subject} (hx : x ∈ busSubjects) : d.IsSubject x
  | bank {b : Bank} (hb : b ∈ d.banks) : d.IsSubject ⟨"csr_" ++ b.name, ["_BASE", "_SIZE"]⟩
  | register {b : Bank} {r : Register} (hb : b ∈ d.banks) (hr : r ∈ b.registers) :
    d.IsSubject ⟨"csr_" ++ b.name ++ "_" ++ r.name, ["_ADDR", "_SIZE"]⟩
  | field {b : Bank} {r : Register} {f : Field} (hb : b ∈ d.banks) (hr : r ∈ b.registers)
    (hf : f ∈ r.fields) : d.IsSubject (fieldSubject ("csr_" ++ b.name ++ "_" ++ r.name) f)
  | region {r : Region} (hr : r ∈ d.regions) : d.IsSubject (regionSubject r)

lemma isSubject_of_mem (hx : x ∈ d.subjects) : d.IsSubject x := by
  rw [subjects, List.mem_append, List.mem_append] at hx
  rcases hx with (hx | hx) | hx
  · exact .bus hx
  · obtain ⟨b, hb, hx⟩ := List.mem_flatMap.1 hx
    rcases List.mem_cons.1 hx with rfl | hx
    · exact .bank hb
    · obtain ⟨r, hr, hx⟩ := List.mem_flatMap.1 hx
      rcases List.mem_cons.1 hx with rfl | hx
      · exact .register hb hr
      · obtain ⟨f, hf, rfl⟩ := List.mem_map.1 hx
        exact .field hb hr hf
  · obtain ⟨r, hr, rfl⟩ := List.mem_map.1 hx
    exact .region hr

/-- What is called after the registers has symbols that are. -/
lemma starts_csr {t : String} (h : x.name = "csr_" ++ t) :
    ∀ s ∈ x.numbers, "CSR_".toList <+: s.toList := by
  intro s hs
  obtain ⟨e, -, rfl⟩ := List.mem_map.1 hs
  have hcsr : upper "csr_" = "CSR_" := by decide
  rw [h, upper_append, hcsr, String.toList_append, String.toList_append, List.append_assoc]
  exact List.prefix_append _ _

namespace IsSubject

lemma isName (h : d.IsSubject x) (hd : d.WellFormed) : isName x.name := by
  have hcsr {s : String} (hs : CsrMap.isName s) : CsrMap.isName ("csr_" ++ s) :=
    isName_append (by decide) (List.all_eq_true.2 (isName_iff.1 hs).2)
  cases h with
  | bus hx =>
    have hall : ∀ x ∈ busSubjects, CsrMap.isName x.name := by decide
    exact hall x hx
  | bank hb => exact hcsr (hd.banks _ hb).name
  | register hb hr => exact isName_register (hd.banks _ hb).name ((hd.banks _ hb).registers _ hr)
  | field hb hr hf =>
    have hr := (hd.banks _ hb).registers _ hr
    have hname := isName_append (isName_register (hd.banks _ hb).name hr) (t := "_") (by decide)
    exact isName_append hname (List.all_eq_true.2 (isName_iff.1 (hr.fields _ hf).name).2)
  | region hr => exact hd.regions _ hr

lemma endings (h : d.IsSubject x) : x.endings.Nodup ∧
    ∀ e ∈ x.endings, e ∈ Subject.numberEndings ∧ e ≠ "_INTERRUPT" := by
  have hall : ∀ es ∈ [["_BASE", "_SIZE"], ["_ADDR", "_SIZE"], ["_OFFSET", "_SIZE"]],
    es.Nodup ∧ ∀ e ∈ es, e ∈ Subject.numberEndings ∧ e ≠ "_INTERRUPT" := by decide
  cases h with
  | bus hx =>
    have hbus : ∀ x ∈ busSubjects, x.endings.Nodup ∧
      ∀ e ∈ x.endings, e ∈ Subject.numberEndings ∧ e ≠ "_INTERRUPT" := by decide
    exact hbus x hx
  | bank => exact hall _ (by simp)
  | register => exact hall _ (by simp)
  | field => exact hall _ (by simp [fieldSubject])
  | region => exact hall _ (by simp [regionSubject])

/-- Only registers have what a word has. -/
lemma not_endsWithDigit (h : d.IsSubject x) (hd : d.WellFormed) (happart : d.Apart) {e : String}
    (he : e ∈ x.endings) (hword : e ∈ ["_ADDR", "_SHIFT", "_MASK"]) :
    ¬ EndsWithDigit x.name := by
  have hall : ∀ es ∈ [["_BASE", "_SIZE"], ["_OFFSET", "_SIZE"]], ∀ e ∈ es,
    e ∉ ["_ADDR", "_SHIFT", "_MASK"] := by decide
  cases h with
  | bus hx =>
    have hbus : ∀ x ∈ busSubjects, ∀ e ∈ x.endings, e ∉ ["_ADDR", "_SHIFT", "_MASK"] := by decide
    exact absurd hword (hbus x hx e he)
  | bank => exact absurd hword (hall _ (by simp) e he)
  | @register b r hb hr =>
    have hname := (isName_iff.1 ((hd.banks b hb).registers r hr).name).1.nonempty
    exact fun hdigit => happart.digits b hb r hr ((endsWithDigit_append hname).1 hdigit)
  | field => exact absurd hword (hall _ (by simp [fieldSubject]) e he)
  | region => exact absurd hword (hall _ (by simp [regionSubject]) e he)

/-- What is not from a region comes from the bus. -/
lemma numbers (h : d.IsSubject x) : (∃ r ∈ d.regions, x = regionSubject r) ∨
    ∀ s ∈ x.numbers, "CSR_".toList <+: s.toList := by
  cases h with
  | bus hx =>
    have hbus : ∀ x ∈ busSubjects, ∀ s ∈ x.numbers, "CSR_".toList <+: s.toList := by decide
    exact .inr (hbus x hx)
  | bank => exact .inr (starts_csr rfl)
  | register => exact .inr (starts_csr (by simp only [String.append_assoc]; rfl))
  | field => exact .inr (starts_csr (by simp only [fieldSubject, String.append_assoc]; rfl))
  | region hr => exact .inl ⟨_, hr, rfl⟩

end IsSubject

end Declarations

/-! ### Words -/

namespace Soc

open Header

variable {soc : Soc} {x : Subject}

lemma exists_of_mem_words (hx : x ∈ soc.words) : ∃ b ∈ soc.banks, ∃ r ∈ b.registers, ∃ i,
    x = ⟨"csr_" ++ b.name ++ "_" ++ r.name ++ "_w" ++ Numeral.decimal i,
      ["_ADDR", "_SHIFT", "_MASK"]⟩ := by
  obtain ⟨⟨b, placed⟩, hb, hx⟩ := List.mem_flatMap.1 hx
  obtain ⟨⟨r, p⟩, hr, hx⟩ := List.mem_flatMap.1 hx
  refine ⟨b, (List.of_mem_zip hb).1, r, (List.of_mem_zip hr).1, ?_⟩
  unfold wordSubjects at hx
  split at hx
  · obtain ⟨i, -, rfl⟩ := List.mem_map.1 hx
    exact ⟨i, rfl⟩
  · cases hx

/-- The registers of a system by their flattened names. -/
def flatRegisters (soc : Soc) : List (String × PlacedRegister) :=
  soc.placedBanks.flatMap fun x => (x.1.registers.zip x.2.registers).map fun y =>
    ("csr_" ++ x.1.name ++ "_" ++ y.1.name, y.2)

lemma words_eq (soc : Soc) :
    soc.words = soc.flatRegisters.flatMap fun y => wordSubjects y.1 y.2 := by
  rw [words, flatRegisters, List.flatMap_assoc]
  exact List.flatMap_congr fun x _ => by rw [bankWords, List.flatMap_map]

lemma flatRegisters_sublist (hmap : soc.map = soc.bus.layout soc.banks) :
    (soc.flatRegisters.map Prod.fst).Sublist (soc.declarations.subjects.map (·.name)) := by
  have hlen : soc.banks.length ≤ soc.map.banks.length := by
    rw [hmap, BusGeometry.layout, BusGeometry.length_banksFrom]
  have hregisters : soc.flatRegisters.map Prod.fst
      = soc.banks.flatMap fun b => b.registers.map fun r => "csr_" ++ b.name ++ "_" ++ r.name := by
    rw [flatRegisters, List.map_flatMap]
    conv_rhs => rw [← List.map_fst_zip hlen, List.flatMap_map]
    refine List.flatMap_congr fun x hx => ?_
    rw [placedBanks, hmap] at hx
    conv_rhs => rw [← List.map_fst_zip (length_registers_of_mem_zip hx)]
    rw [List.map_map, List.map_map]
    rfl
  have hbank (b : Bank) : (b.registers.map fun r => "csr_" ++ b.name ++ "_" ++ r.name).Sublist
      ((bankSubjects b).map (·.name)) := by
    rw [bankSubjects, List.map_cons, List.map_flatMap, List.map_eq_flatMap]
    refine (List.Sublist.flatMap_right _ fun r _ => ?_).cons _
    exact (List.nil_sublist _).cons_cons _
  rw [hregisters, Declarations.subjects, List.map_append, List.map_append, List.map_flatMap]
  exact ((List.Sublist.flatMap_right _ fun b _ => hbank b).trans
    (List.sublist_append_right _ _)).trans (List.sublist_append_left _ _)

/-- The names of words are apart where the names of registers are. -/
lemma nodup_map_name_words (h : (soc.flatRegisters.map Prod.fst).Nodup) :
    (soc.words.map (·.name)).Nodup := by
  have hmem {name s : String} {placed : PlacedRegister}
      (hs : s ∈ (wordSubjects name placed).map (·.name)) :
      ∃ i, s = name ++ "_w" ++ Numeral.decimal i := by
    unfold wordSubjects at hs
    split at hs
    · rw [List.map_map] at hs
      obtain ⟨i, -, rfl⟩ := List.mem_map.1 hs
      exact ⟨i, rfl⟩
    · cases hs
  rw [words_eq, List.map_flatMap, List.nodup_flatMap]
  constructor
  · intro y _
    unfold wordSubjects
    split
    · rw [List.map_map]
      exact List.nodup_range.map fun i j heq => (eq_of_word_eq heq).2
    · exact List.nodup_nil
  · refine (List.pairwise_map.1 h).imp fun hne s hs ht => hne ?_
    obtain ⟨i, rfl⟩ := hmem hs
    obtain ⟨j, heq⟩ := hmem ht
    exact (eq_of_word_eq heq).1

end Soc

namespace Declarations

open Header

variable {d : Declarations}

/-- What is about no word ends otherwise, or its name does. -/
lemma Apart.disjoint_words (h : d.Apart) (hd : d.WellFormed) (soc : Soc) :
    (d.subjects.flatMap Subject.labels).Disjoint (soc.words.flatMap Subject.labels) := by
  intro l hl hword
  obtain ⟨x, hx, hl⟩ := List.mem_flatMap.1 hl
  obtain ⟨y, hy, hword⟩ := List.mem_flatMap.1 hword
  obtain ⟨b, -, r, -, i, rfl⟩ := Soc.exists_of_mem_words hy
  obtain ⟨hname, hending⟩ := Subject.mem_labels.1 hl
  obtain ⟨hwordName, hwordEnding⟩ := Subject.mem_labels.1 hword
  refine (isSubject_of_mem hx).not_endsWithDigit hd h hending hwordEnding ?_
  rw [← hname, hwordName]
  exact endsWithDigit_append_decimal _ i

variable {soc : Soc}

/-- All that the numbers of a system are about. -/
lemma numberSubject_cases (hsoc : soc.declarations = d)
    (hx : x ∈ d.subjects ++ soc.words ++ d.interrupts.entries.map interruptSubject) :
    d.IsSubject x ∨ (∃ b ∈ d.banks, ∃ r ∈ b.registers, ∃ i,
      x = ⟨"csr_" ++ b.name ++ "_" ++ r.name ++ "_w" ++ Numeral.decimal i,
        ["_ADDR", "_SHIFT", "_MASK"]⟩) ∨
      ∃ i ∈ d.interrupts.entries, x = interruptSubject i := by
  rw [List.mem_append, List.mem_append] at hx
  rcases hx with (hx | hx) | hx
  · exact .inl (isSubject_of_mem hx)
  · subst hsoc
    exact .inr (.inl (Soc.exists_of_mem_words hx))
  · obtain ⟨i, hi, rfl⟩ := List.mem_map.1 hx
    exact .inr (.inr ⟨i, hi, rfl⟩)

/-- All that the numbers of a system are about has a name and what numbers end with. -/
lemma numberSubject_valid (hd : d.WellFormed) (hsoc : soc.declarations = d)
    (hx : x ∈ d.subjects ++ soc.words ++ d.interrupts.entries.map interruptSubject) :
    isName x.name ∧ ∀ e ∈ x.endings, e ∈ Subject.numberEndings := by
  rcases numberSubject_cases hsoc hx with hx | ⟨b, hb, r, hr, i, rfl⟩ | ⟨i, hi, rfl⟩
  · exact ⟨hx.isName hd, fun e he => (hx.endings.2 e he).1⟩
  · have hname := isName_register (hd.banks b hb).name ((hd.banks b hb).registers r hr)
    refine ⟨isName_append (isName_append hname (by decide)) ?_, ?_⟩
    · rw [Numeral.toList_decimal, List.all_eq_true]
      intro c hc
      simp [isLowerWordChar, Nat.isDigit_of_mem_toDigits (by decide) (by decide) hc]
    · exact (by decide : ∀ e ∈ ["_ADDR", "_SHIFT", "_MASK"], e ∈ Subject.numberEndings)
  · exact ⟨hd.interrupts i hi, (by decide : ∀ e ∈ ["_INTERRUPT"], e ∈ Subject.numberEndings)⟩

/-- The names of the numbers with their endings are apart. -/
lemma Apart.nodup_labels (h : d.Apart) (hd : d.WellFormed) (hsoc : soc.declarations = d)
    (hmap : soc.map = soc.bus.layout soc.banks) :
    ((d.subjects ++ soc.words ++ d.interrupts.entries.map interruptSubject).flatMap
      Subject.labels).Nodup := by
  have hnames := h.nodup_names hd.regionNames
  have hwordNames : (soc.words.map (·.name)).Nodup :=
    Soc.nodup_map_name_words ((Soc.flatRegisters_sublist hmap).nodup (hsoc ▸ hnames))
  have hwordEndings (x : Subject) (hx : x ∈ soc.words) :
      x.endings = ["_ADDR", "_SHIFT", "_MASK"] := by
    obtain ⟨b, -, r, -, i, rfl⟩ := Soc.exists_of_mem_words hx
    rfl
  have hinterrupts :
      ((d.interrupts.entries.map interruptSubject).flatMap Subject.labels).Nodup := by
    refine Subject.nodup_labels ?_ fun x hx => ?_
    · rw [List.map_map]
      exact hd.interruptNames
    · obtain ⟨i, -, rfl⟩ := List.mem_map.1 hx
      exact List.nodup_singleton _
  have hother (x : Subject) (hx : x ∈ d.subjects ++ soc.words) : "_INTERRUPT" ∉ x.endings := by
    rcases List.mem_append.1 hx with hx | hx
    · exact fun he => ((isSubject_of_mem hx).endings.2 _ he).2 rfl
    · rw [hwordEndings x hx]
      decide
  rw [List.flatMap_append, List.flatMap_append, List.nodup_append', List.nodup_append',
    ← List.flatMap_append]
  refine ⟨⟨Subject.nodup_labels hnames fun x hx => (isSubject_of_mem hx).endings.1,
    Subject.nodup_labels hwordNames fun x hx => ?_, h.disjoint_words hd soc⟩, hinterrupts,
    fun l hl hinterrupt => ?_⟩
  · rw [hwordEndings x hx]
    decide
  · obtain ⟨x, hx, hl⟩ := List.mem_flatMap.1 hl
    obtain ⟨y, hy, hinterrupt⟩ := List.mem_flatMap.1 hinterrupt
    obtain ⟨i, -, rfl⟩ := List.mem_map.1 hy
    refine hother x hx ?_
    rw [← List.mem_singleton.1 (Subject.mem_labels.1 hinterrupt).2]
    exact (Subject.mem_labels.1 hl).2

lemma accessorSubject_endings (hx : x ∈ d.accessorSubjects) :
    x.endings.Nodup ∧ ∀ e ∈ x.endings, e ∈ Subject.accessorEndings := by
  have hall (access : Access) : ∀ es ∈ [
      if access.writable then ["_read", "_write"] else ["_read"],
      if access.writable then ["_extract", "_read", "_replace", "_write"]
        else ["_extract", "_read"]], es.Nodup ∧ ∀ e ∈ es, e ∈ Subject.accessorEndings := by
    cases access <;> decide
  obtain ⟨b, -, hx⟩ := List.mem_flatMap.1 hx
  obtain ⟨r, -, hx⟩ := List.mem_flatMap.1 hx
  rcases List.mem_cons.1 hx with rfl | hx
  · exact hall r.access _ (by simp)
  · obtain ⟨f, -, rfl⟩ := List.mem_map.1 hx
    exact hall r.access _ (by simp)

/-- The names of accessors are apart. -/
lemma Apart.nodup_accessors (h : d.Apart) :
    (d.accessorSubjects.flatMap Subject.accessors).Nodup := by
  have hnames : (d.accessorSubjects.map (·.name)).Sublist (d.banks.flatMap Bank.flatNames) := by
    rw [accessorSubjects, List.map_flatMap]
    refine List.Sublist.flatMap_right _ fun b _ => ?_
    rw [map_name_bankAccessorSubjects]
    exact List.sublist_cons_self _ _
  refine Subject.nodup_accessors (Subject.nodup_labels ?_ fun x hx => ?_) fun x hx => ?_
  · exact (hnames.trans (List.sublist_append_right _ _)).nodup h.flatNames
  · exact (accessorSubject_endings hx).1
  · exact (accessorSubject_endings hx).2

lemma not_isConstantName_of_accessor {s : String}
    (hs : s ∈ d.accessorSubjects.flatMap Subject.accessors) : ¬ isConstantName s := by
  have hlower : ∀ e ∈ Subject.accessorEndings, ¬ IsUpperWord e := by decide
  obtain ⟨x, hx, hs⟩ := List.mem_flatMap.1 hs
  obtain ⟨e, he, rfl⟩ := List.mem_map.1 hs
  intro hconstant
  exact hlower e ((accessorSubject_endings hx).2 e he)
    (isUpperWord_append.1 (isConstantName_iff.1 hconstant).2).2

/-- A constant has no name that a number has. -/
lemma Apart.constant_not_mem (h : d.Apart) (hsoc : soc.declarations = d) {k : Constant}
    (hk : k ∈ d.constants) : k.name ∉ (d.subjects ++ soc.words
      ++ d.interrupts.entries.map interruptSubject).flatMap Subject.numbers := by
  obtain ⟨hcsr, hregions, hinterrupts⟩ := h.constants k hk
  intro hmem
  obtain ⟨x, hx, hmem⟩ := List.mem_flatMap.1 hmem
  rcases numberSubject_cases hsoc hx with hx | ⟨b, -, r, -, i, rfl⟩ | ⟨i, hi, rfl⟩
  · rcases hx.numbers with ⟨r, hr, rfl⟩ | hstarts
    · exact hregions r hr hmem
    · exact hcsr (hstarts _ hmem)
  · exact hcsr (starts_csr (by simp only [String.append_assoc]; rfl) _ hmem)
  · exact hinterrupts i hi hmem

/-- The symbols of numbers are in upper case. -/
lemma isConstantName_of_number (hd : d.WellFormed) (hsoc : soc.declarations = d) {s : String}
    (hs : s ∈ (d.subjects ++ soc.words ++ d.interrupts.entries.map interruptSubject).flatMap
      Subject.numbers) : isConstantName s := by
  have hupper : ∀ e ∈ Subject.numberEndings, IsUpperWord e := by decide
  obtain ⟨x, hx, hs⟩ := List.mem_flatMap.1 hs
  obtain ⟨e, he, rfl⟩ := List.mem_map.1 hs
  obtain ⟨hname, hendings⟩ := numberSubject_valid hd hsoc hx
  exact isConstantName_append (isConstantName_upper (isName_iff.1 hname).1)
    (hupper e (hendings e he))

/-- **Where names are apart, symbols are apart on every bus.** -/
theorem Apart.nodup_symbols (h : d.Apart) (hd : d.WellFormed) (hsoc : soc.declarations = d)
    (hmap : soc.map = soc.bus.layout soc.banks) : (soc.symbols.map (·.symbol)).Nodup := by
  have hbanks : ∀ b ∈ soc.banks, b.WellFormed := by
    rw [← hsoc] at hd
    exact hd.banks
  have hperm := Soc.symbols_perm hbanks (hsoc ▸ hd.toNamed) hmap
  have hconstants : soc.constants = d.constants := congrArg (·.constants) hsoc
  have hinterrupts : soc.interrupts = d.interrupts := congrArg (·.interrupts) hsoc
  rw [hsoc, hconstants, hinterrupts] at hperm
  rw [hperm.nodup_iff, List.nodup_append', List.nodup_append']
  refine ⟨?_, ⟨h.nodup_accessors, hd.constantNames, fun s haccessor hconstant => ?_⟩,
    fun s hnumber hother => ?_⟩
  · exact Subject.nodup_numbers (h.nodup_labels hd hsoc hmap)
      (fun x hx => (numberSubject_valid hd hsoc hx).1) fun x hx =>
        (numberSubject_valid hd hsoc hx).2
  · obtain ⟨k, hk, rfl⟩ := List.mem_map.1 hconstant
    exact not_isConstantName_of_accessor haccessor (hd.constants k hk)
  · rcases List.mem_append.1 hother with haccessor | hconstant
    · exact not_isConstantName_of_accessor haccessor (isConstantName_of_number hd hsoc hnumber)
    · obtain ⟨k, hk, rfl⟩ := List.mem_map.1 hconstant
      exact h.constant_not_mem hsoc hk hnumber

end Declarations

end CsrMap
