import CsrMap.Proofs.Declaration.Reachable
import CsrMap.Proofs.Header.Lines
import CsrMap.Proofs.Soc.Finished
import Mathlib.Data.List.Flatten

/-!
The symbols of a system.

A symbol is flattened out of names, with an ending that says what it stands for, or is the name of
an accessor or of a constant. Symbols are in upper case apart from the accessors, and only a
constant can have the name of the guard that a header has where no other is asked for.
-/

namespace CsrMap

open Text

namespace Header

variable {s t : String} {c : Char}

/-! ### Names and words -/

lemma isWordChar_of_isLowerWordChar (h : isLowerWordChar c) : isWordChar c := by
  simp only [isLowerWordChar, Bool.or_eq_true, beq_iff_eq] at h
  rw [isWordChar_iff]
  tauto

lemma isWordChar_of_isUpperWordChar (h : isUpperWordChar c) : isWordChar c := by
  simp only [isUpperWordChar, Bool.or_eq_true, beq_iff_eq] at h
  rw [isWordChar_iff]
  tauto

lemma isUpperWordChar_iff : isUpperWordChar c ↔
    ('A' ≤ c ∧ c ≤ 'Z') ∨ ('0' ≤ c ∧ c ≤ '9') ∨ c = '_' := by
  have hupper : c.isUpper ↔ 'A' ≤ c ∧ c ≤ 'Z' := decide_eq_true_iff
  have hdigit : c.isDigit ↔ '0' ≤ c ∧ c ≤ '9' :=
    Bool.and_eq_true_iff.trans (and_congr decide_eq_true_iff decide_eq_true_iff)
  rw [isUpperWordChar, Bool.or_eq_true, Bool.or_eq_true, hupper, hdigit, beq_iff_eq, or_assoc]

/-- Characters of words are ASCII. -/
lemma toNat_lt_of_isWordChar (h : isWordChar c) : c.toNat < 128 := by
  have hupper (h : c.isUpper) : c.toNat ≤ 90 := (of_decide_eq_true h).2
  have hlower (h : c.isLower) : c.toNat ≤ 122 := of_decide_eq_true (Bool.and_eq_true_iff.1 h).2
  have hdigit (h : c.isDigit) : c.toNat ≤ 57 := of_decide_eq_true (Bool.and_eq_true_iff.1 h).2
  rcases isWordChar_iff.1 h with h | h | h | rfl
  · exact (hupper h).trans_lt (by decide)
  · exact (hlower h).trans_lt (by decide)
  · exact (hdigit h).trans_lt (by decide)
  · decide

/-- In upper case, characters of words are characters of symbols, and only digits become digits. -/
lemma upperChar_of_isWordChar (h : isWordChar c) :
    upperChar c = [c.toUpper] ∧ isUpperWordChar c.toUpper ∧ (c.toUpper.isDigit → c.isDigit) := by
  have hlt := toNat_lt_of_isWordChar h
  have hall : ∀ n < 128, isWordChar (Char.ofNat n) → isUpperWordChar (Char.ofNat n).toUpper ∧
      ((Char.ofNat n).toUpper.isDigit → (Char.ofNat n).isDigit) := by
    decide +kernel
  have hword := hall c.toNat hlt
  rw [Char.ofNat_toNat] at hword
  exact ⟨by rw [upperChar, if_pos hlt], hword h⟩

namespace IsIdentifier

lemma iff_toList : IsIdentifier s ↔ ∃ c cs, s.toList = c :: cs ∧ ¬ c.isDigit ∧
    ∀ d ∈ c :: cs, isWordChar d := by
  constructor
  · rintro ⟨hne, hhead, hword⟩
    cases hs : s.toList with
    | nil => exact absurd (String.toList_eq_nil_iff.1 hs) hne
    | cons c cs =>
      rw [hs] at hhead
      exact ⟨c, cs, rfl, by simpa using hhead, hs ▸ hword⟩
  · rintro ⟨c, cs, hs, hdigit, hword⟩
    refine ⟨?_, by simpa [hs] using hdigit, fun d hd => hword d (hs ▸ hd)⟩
    rintro rfl
    cases hs

lemma append (hs : IsIdentifier s) (ht : IsWord t) : IsIdentifier (s ++ t) := by
  obtain ⟨c, cs, hcs, hdigit, hword⟩ := iff_toList.1 hs
  refine iff_toList.2 ⟨c, cs ++ t.toList, by rw [String.toList_append, hcs]; rfl, hdigit, ?_⟩
  rw [← List.cons_append, List.forall_mem_append]
  exact ⟨hword, ht⟩

end IsIdentifier

/-- A row of characters of one kind that does not start with a digit is an identifier. -/
lemma isIdentifier_and_forall_iff {p : Char → Bool} (hp : ∀ c, p c → isWordChar c) :
    (match s.toList with
      | [] => false
      | c :: cs => !c.isDigit && (c :: cs).all p : Bool) = true ↔
        IsIdentifier s ∧ ∀ c ∈ s.toList, p c := by
  rw [IsIdentifier.iff_toList]
  cases s.toList with
  | nil => simp
  | cons c cs =>
    simp only [Bool.and_eq_true, Bool.not_eq_true', List.all_eq_true]
    constructor
    · rintro ⟨hdigit, hall⟩
      exact ⟨⟨c, cs, rfl, by simpa using hdigit, fun d hd => hp d (hall d hd)⟩, hall⟩
    · rintro ⟨⟨_, _, heq, hdigit, -⟩, hall⟩
      cases heq
      exact ⟨by simpa using hdigit, hall⟩

lemma isName_iff : isName s ↔ IsIdentifier s ∧ ∀ c ∈ s.toList, isLowerWordChar c :=
  isIdentifier_and_forall_iff fun _ => isWordChar_of_isLowerWordChar

lemma isConstantName_iff :
    isConstantName s ↔ IsIdentifier s ∧ ∀ c ∈ s.toList, isUpperWordChar c :=
  isIdentifier_and_forall_iff fun _ => isWordChar_of_isUpperWordChar

lemma IsWord.of_isName (h : isName s) : IsWord s := (isName_iff.1 h).1.word

lemma IsWord.of_isConstantName (h : isConstantName s) : IsWord s := (isConstantName_iff.1 h).1.word

/-- The text has upper-case letters, digits and underscores only. -/
def IsUpperWord (s : String) : Prop := ∀ c ∈ s.toList, isUpperWordChar c

instance (s : String) : Decidable (IsUpperWord s) :=
  decidable_of_iff (s.toList.all isUpperWordChar = true) List.all_eq_true

lemma isUpperWord_append : IsUpperWord (s ++ t) ↔ IsUpperWord s ∧ IsUpperWord t := by
  rw [IsUpperWord, String.toList_append, List.forall_mem_append]
  rfl

lemma isConstantName_append (hs : isConstantName s) (ht : IsUpperWord t) :
    isConstantName (s ++ t) := by
  obtain ⟨hident, hupper⟩ := isConstantName_iff.1 hs
  exact isConstantName_iff.2 ⟨hident.append fun c hc => isWordChar_of_isUpperWordChar (ht c hc),
    isUpperWord_append.2 ⟨hupper, ht⟩⟩

/-- The upper case of a word, character by character. -/
lemma toList_upper (h : IsWord s) : (upper s).toList = s.toList.map Char.toUpper := by
  rw [upper, String.toList_ofList, List.map_eq_flatMap]
  exact List.flatMap_congr fun c hc => (upperChar_of_isWordChar (h c hc)).1

lemma isConstantName_upper (h : IsIdentifier s) : isConstantName (upper s) := by
  obtain ⟨c, cs, hs, hdigit, hword⟩ := IsIdentifier.iff_toList.1 h
  have hupper : (upper s).toList = (c :: cs).map Char.toUpper := by
    rw [toList_upper h.word, hs]
  have hall : IsUpperWord (upper s) := by
    intro d hd
    rw [hupper] at hd
    obtain ⟨e, he, rfl⟩ := List.mem_map.1 hd
    exact (upperChar_of_isWordChar (hword e he)).2.1
  refine isConstantName_iff.2 ⟨IsIdentifier.iff_toList.2 ⟨_, _, hupper, ?_, ?_⟩, hall⟩
  · exact fun hd => hdigit ((upperChar_of_isWordChar (hword c (by simp))).2.2 hd)
  · intro d hd
    exact isWordChar_of_isUpperWordChar (hall d (hupper ▸ hd))

lemma upper_append (s t : String) : upper (s ++ t) = upper s ++ upper t := by
  simp [upper]

/-! ### Symbols of names -/

lemma symbolOf_pair (hs : s ≠ "") (ht : t ≠ "") : symbolOf [s, t] = upper s ++ "_" ++ upper t := by
  simp [symbolOf, hs, ht, String.intercalate_cons_cons]

/-- The symbols of a register start with the names of its bank and of the register. -/
lemma symbolOf_register (hs : s ≠ "") (ht : t ≠ "") :
    symbolOf ["csr", s, t] = upper ("CSR_" ++ s ++ "_" ++ t) := by
  have hcsr : upper "csr" ++ "_" = upper "CSR_" := by decide
  have hbar : upper "_" = "_" := by decide
  rw [upper_append, upper_append, upper_append, ← hcsr, hbar]
  simp [symbolOf, hs, ht, String.intercalate_cons_cons, String.append_assoc]

lemma isConstantName_symbolOf_pair (hs : IsIdentifier s) (ht : IsIdentifier t) :
    isConstantName (symbolOf [s, t]) := by
  rw [symbolOf_pair hs.nonempty ht.nonempty]
  exact isConstantName_append (isConstantName_append (isConstantName_upper hs) (by decide))
    (isConstantName_iff.1 (isConstantName_upper ht)).2

lemma symbolOf_csr (hs : s ≠ "") (ht : t ≠ "") :
    symbolOf ["csr", s, t] = symbolOf ["csr_" ++ s, t] := by
  have hcsr : upper "csr" ++ "_" = upper "csr_" := by decide
  have hne : "csr_" ++ s ≠ "" := by simp
  rw [symbolOf_pair hne ht, upper_append, ← hcsr]
  simp [symbolOf, hs, ht, String.intercalate_cons_cons, String.append_assoc]

lemma isIdentifier_csr (hs : isName s) : IsIdentifier ("csr_" ++ s) := by
  have hcsr : IsIdentifier "csr_" := ⟨by decide, by decide, by decide⟩
  exact hcsr.append (IsWord.of_isName hs)

lemma isConstantName_symbolOf_csr (hs : isName s) (ht : isName t) :
    isConstantName (symbolOf ["csr", s, t]) := by
  have ht := (isName_iff.1 ht).1
  rw [symbolOf_csr (isName_iff.1 hs).1.nonempty ht.nonempty]
  exact isConstantName_symbolOf_pair (isIdentifier_csr hs) ht

/-! ### Endings -/

/-- What the symbols of a flattened name end with. -/
def endings : List String :=
  ["_ADDR", "_SIZE", "_SHIFT", "_MASK", "_OFFSET", "_BASE", "_INTERRUPT"]

/-- The symbol is in upper case, and is not the guard of a header that asks for no other. -/
structure IsFlattened (s : String) : Prop where
  constantName : isConstantName s
  ne_guard : s ≠ ({} : Options).guardSymbol

lemma isFlattened_append (hs : isConstantName s) (ht : t ∈ endings) : IsFlattened (s ++ t) := by
  have hupper : ∀ t ∈ endings, IsUpperWord t := by decide
  -- The guard ends as none of these symbols does.
  have hguard : ∀ t ∈ endings, ¬ t.toList <:+ ({} : Options).guardSymbol.toList := by decide
  refine ⟨isConstantName_append hs (hupper t ht), fun heq => hguard t ht ⟨s.toList, ?_⟩⟩
  rw [← String.toList_append, heq]

lemma isFlattened_symbolOf_pair (hs : IsIdentifier s) (ht : t ∈ ["base", "size", "interrupt"]) :
    IsFlattened (symbolOf [s, t]) := by
  have hall : ∀ t ∈ ["base", "size", "interrupt"], t ≠ "" ∧ "_" ++ upper t ∈ endings := by decide
  obtain ⟨hne, hending⟩ := hall t ht
  rw [symbolOf_pair hs.nonempty hne, String.append_assoc]
  exact isFlattened_append (isConstantName_upper hs) hending

lemma isFlattened_symbolOf_csr (hs : isName s) (ht : t ∈ ["base", "size"]) :
    IsFlattened (symbolOf ["csr", s, t]) := by
  have hall : ∀ t ∈ ["base", "size"], t ≠ "" ∧ t ∈ ["base", "size", "interrupt"] := by decide
  obtain ⟨hne, hmem⟩ := hall t ht
  rw [symbolOf_csr (isName_iff.1 hs).1.nonempty hne]
  exact isFlattened_symbolOf_pair (isIdentifier_csr hs) hmem

/-- An accessor is in lower case like the names that it is made of. -/
structure IsAccessorName (s : String) : Prop where
  name : isName s
  not_constantName : ¬ isConstantName s

lemma isName_append (hs : isName s) (ht : t.toList.all isLowerWordChar) : isName (s ++ t) := by
  rw [List.all_eq_true] at ht
  obtain ⟨hident, hlower⟩ := isName_iff.1 hs
  refine isName_iff.2 ⟨hident.append fun c hc => isWordChar_of_isLowerWordChar (ht c hc), ?_⟩
  rw [String.toList_append, List.forall_mem_append]
  exact ⟨hlower, ht⟩

lemma isAccessorName_append (hs : isName s) (ht : t ∈ ["_read", "_write", "_extract", "_replace"]) :
    IsAccessorName (s ++ t) := by
  have hlower : ∀ t ∈ ["_read", "_write", "_extract", "_replace"],
    t.toList.all isLowerWordChar ∧ ¬ IsUpperWord t := by decide
  refine ⟨isName_append hs (hlower t ht).1, fun hupper => (hlower t ht).2 ?_⟩
  exact (isUpperWord_append.1 (isConstantName_iff.1 hupper).2).2

/-! ### Symbols of declarations -/

variable {x : Owned}

lemma isFlattened_busSymbols (hx : x ∈ busSymbols) : IsFlattened x.symbol := by
  have hall : ∀ x ∈ busSymbols, isConstantName x.symbol ∧
    x.symbol ≠ ({} : Options).guardSymbol := by decide
  exact ⟨(hall x hx).1, (hall x hx).2⟩

lemma isFlattened_interruptSymbols {i : Interrupt} (h : isName i.name)
    (hx : x ∈ interruptSymbols i) : IsFlattened x.symbol := by
  rw [List.mem_singleton.1 hx]
  exact isFlattened_symbolOf_pair (isName_iff.1 h).1 (by simp)

lemma isFlattened_regionSymbols {region : Region} (h : isName region.name)
    (hx : x ∈ regionSymbols region) : IsFlattened x.symbol := by
  rcases List.mem_pair.1 hx with rfl | rfl
  all_goals exact isFlattened_symbolOf_pair (isName_iff.1 h).1 (by simp)

/-- The symbols of a register that stand for numbers. -/
def numberSymbols (bank : String) (r : Register) (placed : PlacedRegister) : List Owned :=
  let owner := bank ++ "." ++ r.name
  let stem := symbolOf ["csr", bank, r.name]
  [⟨owner, stem ++ "_ADDR"⟩, ⟨owner, stem ++ "_SIZE"⟩]
    ++ (if placed.spansWords then wordSymbols owner stem placed.size else [])
    ++ r.fields.flatMap (fieldSymbols owner stem)

/-- The accessors of a register and of its fields. -/
def accessorSymbols (bank : String) (r : Register) : List Owned :=
  let owner := bank ++ "." ++ r.name
  let function := bank ++ "_" ++ r.name
  registerAccessorNames owner function r.access
    ++ r.fields.flatMap (fieldAccessorNames owner function r.access)

variable {bank : String} {r : Register}

lemma registerSymbols_eq (bank : String) (r : Register) (placed : PlacedRegister) :
    registerSymbols bank r placed = numberSymbols bank r placed ++ accessorSymbols bank r :=
  List.append_assoc _ _ _

lemma isUpperWord_decimal (n : ℕ) : IsUpperWord (Numeral.decimal n) := by
  intro c hc
  rw [Numeral.toList_decimal] at hc
  have hdigit := Nat.isDigit_of_mem_toDigits (by decide) (by decide) hc
  simp [isUpperWordChar, hdigit]

lemma isFlattened_wordSymbols {owner stem : String} (hstem : isConstantName stem) {count : ℕ}
    (hx : x ∈ wordSymbols owner stem count) : IsFlattened x.symbol := by
  obtain ⟨index, -, hx⟩ := List.mem_flatMap.1 hx
  obtain ⟨part, hpart, rfl⟩ := List.mem_map.1 hx
  have hword : isConstantName (stem ++ "_W" ++ Numeral.decimal index) :=
    isConstantName_append (isConstantName_append hstem (by decide)) (isUpperWord_decimal index)
  have hending : ∀ part ∈ ["ADDR", "SHIFT", "MASK"], "_" ++ part ∈ endings := by decide
  have h := isFlattened_append hword (hending part hpart)
  rwa [← String.append_assoc] at h

lemma isFlattened_numberSymbols (hbank : isName bank) (hr : r.WellFormed)
    {placed : PlacedRegister} (hx : x ∈ numberSymbols bank r placed) : IsFlattened x.symbol := by
  have hstem := isConstantName_symbolOf_csr hbank hr.name
  simp only [numberSymbols, List.mem_append, List.mem_flatMap] at hx
  rcases hx with (hx | hx) | ⟨f, hf, hx⟩
  · rcases List.mem_pair.1 hx with rfl | rfl
    all_goals exact isFlattened_append hstem (by decide)
  · split at hx
    · exact isFlattened_wordSymbols hstem hx
    · simp at hx
  · have hfield := isConstantName_symbolOf_pair (isConstantName_iff.1 hstem).1
      (isName_iff.1 (hr.fields f hf).name).1
    rcases List.mem_pair.1 hx with rfl | rfl
    all_goals exact isFlattened_append hfield (by decide)

lemma isAccessorName_accessorSymbols (hbank : isName bank) (hr : r.WellFormed)
    (hx : x ∈ accessorSymbols bank r) : IsAccessorName x.symbol := by
  have hlower {s : String} (h : isName s) : s.toList.all isLowerWordChar :=
    List.all_eq_true.2 (isName_iff.1 h).2
  have hfunction : isName (bank ++ "_" ++ r.name) :=
    isName_append (isName_append hbank (by decide)) (hlower hr.name)
  rcases List.mem_append.1 hx with hx | hx
  · rcases List.mem_cons.1 hx with rfl | hx
    · exact isAccessorName_append hfunction (by simp)
    · split at hx
      · rw [List.mem_singleton.1 hx]
        exact isAccessorName_append hfunction (by simp)
      · simp at hx
  · obtain ⟨f, hf, hx⟩ := List.mem_flatMap.1 hx
    have hfield : isName (bank ++ "_" ++ r.name ++ "_" ++ f.name) :=
      isName_append (isName_append hfunction (by decide)) (hlower (hr.fields f hf).name)
    rcases List.mem_append.1 hx with hx | hx
    · rcases List.mem_pair.1 hx with rfl | rfl
      all_goals exact isAccessorName_append hfield (by simp)
    · split at hx
      · rcases List.mem_pair.1 hx with rfl | rfl
        all_goals exact isAccessorName_append hfield (by simp)
      · simp at hx

end Header

/-! ### Symbols of a system -/

namespace Soc

open Header

variable {soc : Soc} {x : Owned}

/-- The accessors of all registers. -/
def accessorSymbols (soc : Soc) : List Owned :=
  soc.banks.flatMap fun b => b.registers.flatMap (Header.accessorSymbols b.name)

lemma isAccessorName_of_mem (h : soc.Finished) (hx : x ∈ soc.accessorSymbols) :
    IsAccessorName x.symbol := by
  obtain ⟨b, hb, hx⟩ := List.mem_flatMap.1 hx
  obtain ⟨r, hr, hx⟩ := List.mem_flatMap.1 hx
  have hb := h.fits.wellFormed b hb
  exact isAccessorName_accessorSymbols hb.name (hb.registers r hr) hx

/-- **A symbol** is flattened out of names, or is an accessor or the name of a constant. -/
theorem symbol_cases (h : soc.Finished) (hnamed : soc.declarations.Named)
    (hx : x ∈ soc.symbols) : IsFlattened x.symbol ∨ x ∈ soc.accessorSymbols ∨
      ∃ c ∈ soc.constants, c.name = x.symbol := by
  simp only [symbols, List.mem_append] at hx
  rcases hx with (((hx | hx) | hx) | hx) | hx
  · exact .inl (isFlattened_busSymbols hx)
  · obtain ⟨⟨b, placed⟩, hmem, hx⟩ := List.mem_flatMap.1 hx
    have hmem := (List.of_mem_zip hmem).1
    have hb := h.fits.wellFormed b hmem
    rcases List.mem_append.1 hx with hx | hx
    · rcases List.mem_pair.1 hx with rfl | rfl
      all_goals exact .inl (isFlattened_symbolOf_csr hb.name (by simp))
    · obtain ⟨⟨r, p⟩, hr, hx⟩ := List.mem_flatMap.1 hx
      have hr := (List.of_mem_zip hr).1
      have hx : x ∈ registerSymbols b.name r p := hx
      rw [registerSymbols_eq] at hx
      rcases List.mem_append.1 hx with hx | hx
      · exact .inl (isFlattened_numberSymbols hb.name (hb.registers r hr) hx)
      · exact .inr (.inl (List.mem_flatMap.2 ⟨b, hmem, List.mem_flatMap.2 ⟨r, hr, hx⟩⟩))
  · obtain ⟨i, hi, hx⟩ := List.mem_flatMap.1 hx
    exact .inl (isFlattened_interruptSymbols (hnamed.interrupts i hi) hx)
  · obtain ⟨region, hregion, hx⟩ := List.mem_flatMap.1 hx
    exact .inl (isFlattened_regionSymbols (hnamed.regions region hregion) hx)
  · obtain ⟨c, hc, hx⟩ := List.mem_flatMap.1 hx
    rw [List.mem_singleton.1 hx]
    exact .inr (.inr ⟨c, hc, rfl⟩)

end Soc

end CsrMap
