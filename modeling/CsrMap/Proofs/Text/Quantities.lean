import CsrMap.Proofs.Text.Lines
import CsrMap.Proofs.Text.Numerals
import CsrMap.Quantity
import Mathlib.Data.List.Forall2
import Mathlib.Data.List.TakeWhile
import Mathlib.Data.Nat.Digits.Defs
import Mathlib.Tactic.Ring

/-!
Which strings spell a quantity, and which one.

The spellings are given by a grammar of their own: blanks, a mark, a sign, and digits with their
positional value. The steps of the reader, in their order, accept this grammar and nothing else.
-/

namespace CsrMap

namespace Numeral

variable {base start n d : ℕ} {c : Char} {cs : List Char}

/-! ### Digits -/

/-- A digit of value `d`, in either case. -/
def IsDigit (base : ℕ) (c : Char) (d : ℕ) : Prop :=
  d < base ∧ (c = d.digitChar ∨ c = d.digitChar.toUpper)

lemma digit?_toUpper (hd : d < base) (hbase : base ≤ 16) :
    digit? base d.digitChar.toUpper = some d := by
  have hall : ∀ base ≤ 16, ∀ d < base, digit? base d.digitChar.toUpper = some d := by decide
  exact hall base hbase d hd

/-- The code points of the digits. -/
lemma toNat_digitChar (hd : d < 16) :
    (d < 10 → d.digitChar.toNat = d + '0'.toNat) ∧
      (10 ≤ d → d.digitChar.toNat + 10 = d + 'a'.toNat) ∧
      (10 ≤ d → d.digitChar.toUpper.toNat + 10 = d + 'A'.toNat) := by
  have hall : ∀ d < 16, (d < 10 → d.digitChar.toNat = d + '0'.toNat) ∧
      (10 ≤ d → d.digitChar.toNat + 10 = d + 'a'.toNat) ∧
      (10 ≤ d → d.digitChar.toUpper.toNat + 10 = d + 'A'.toNat) := by decide
  exact hall d hd

lemma digit?_eq_some_iff (hbase : base ≤ 16) : digit? base c = some d ↔ IsDigit base c d := by
  refine ⟨fun h => ?_, ?_⟩
  · obtain ⟨hvalue, hd⟩ := Option.filter_eq_some_iff.1 h
    have hd : d < base := of_decide_eq_true hd
    obtain ⟨hdecimal, hlower, hupper⟩ := toNat_digitChar (hd.trans_le hbase)
    refine ⟨hd, ?_⟩
    split_ifs at hvalue with h0 ha hA
    all_goals obtain rfl := Option.some.inj hvalue
    · have h0 : '0'.toNat ≤ c.toNat ∧ c.toNat ≤ '9'.toNat := h0
      have hnine : '9'.toNat = '0'.toNat + 9 := rfl
      exact .inl (Char.toNat_inj.1 (by omega))
    · have ha : 'a'.toNat ≤ c.toNat ∧ c.toNat ≤ 'z'.toNat := ha
      exact .inl (Char.toNat_inj.1 (by omega))
    · have hA : 'A'.toNat ≤ c.toNat ∧ c.toNat ≤ 'Z'.toNat := hA
      exact .inr (Char.toNat_inj.1 (by omega))
  · rintro ⟨hd, rfl | rfl⟩
    · exact digit?_digitChar hd hbase
    · exact digit?_toUpper hd hbase

/-! ### Numerals -/

/-- Digits of the number `n`, the first of the highest value. -/
def Denotes (base : ℕ) (cs : List Char) (n : ℕ) : Prop :=
  ∃ ds ≠ [], List.Forall₂ (IsDigit base) cs ds ∧ n = Nat.ofDigits base ds.reverse

/-- Digits of the number `n` after an optional plus sign. -/
def DenotesSigned (base : ℕ) (cs : List Char) (n : ℕ) : Prop :=
  ∃ digits, (cs = digits ∨ cs = '+' :: digits) ∧ Denotes base digits n

lemma value?_eq_some_iff (hbase : base ≤ 16) : value? base start cs = some n ↔
    ∃ ds, List.Forall₂ (IsDigit base) cs ds ∧
      n = start * base ^ ds.length + Nat.ofDigits base ds.reverse := by
  induction cs generalizing start with
  | nil => simp [value?, List.forall₂_nil_left_iff, eq_comm]
  | cons c cs ih =>
    have hstep (d : ℕ) (ds : List ℕ) :
        start * base ^ (d :: ds).length + Nat.ofDigits base (d :: ds).reverse
          = (start * base + d) * base ^ ds.length + Nat.ofDigits base ds.reverse := by
      rw [List.reverse_cons, Nat.ofDigits_append, Nat.ofDigits_singleton, List.length_reverse,
        List.length_cons]
      ring
    simp only [value?, Option.bind_eq_bind, Option.bind_eq_some_iff, digit?_eq_some_iff hbase, ih]
    constructor
    · rintro ⟨d, hd, ds, hds, rfl⟩
      exact ⟨d :: ds, .cons hd hds, (hstep d ds).symm⟩
    · rintro ⟨_, hds, rfl⟩
      cases hds with
      | cons hd hds => exact ⟨_, hd, _, hds, hstep _ _⟩

lemma value?_eq_some_iff_denotes (hbase : base ≤ 16) (hcs : cs ≠ []) :
    value? base 0 cs = some n ↔ Denotes base cs n := by
  rw [value?_eq_some_iff hbase]
  constructor
  · rintro ⟨ds, hds, hn⟩
    refine ⟨ds, ?_, hds, by simpa using hn⟩
    rintro rfl
    exact hcs (List.forall₂_nil_right_iff.1 hds)
  · rintro ⟨ds, -, hds, hn⟩
    exact ⟨ds, hds, by simpa using hn⟩

lemma Denotes.ne_nil (h : Denotes base cs n) : cs ≠ [] := by
  obtain ⟨ds, hne, hds, -⟩ := h
  rintro rfl
  exact hne (List.forall₂_nil_left_iff.1 hds)

lemma Denotes.head (hbase : base ≤ 16) (h : Denotes base (c :: cs) n) :
    ∃ d, digit? base c = some d := by
  obtain ⟨_, -, hds, -⟩ := h
  cases hds with
  | cons hd _ => exact ⟨_, (digit?_eq_some_iff hbase).2 hd⟩

/-- **A numeral is read where it is one**, as its number. -/
theorem read?_eq_some_iff (hbase : base ≤ 16) :
    read? base cs = some n ↔ DenotesSigned base cs n := by
  fun_cases read? base cs with
  | case1 =>
    simp only [reduceCtorEq, DenotesSigned, false_iff]
    rintro ⟨digits, rfl | heq, h⟩
    · exact h.ne_nil rfl
    · cases heq
  | case2 =>
    simp only [reduceCtorEq, DenotesSigned, false_iff]
    rintro ⟨digits, rfl | heq, h⟩
    · obtain ⟨d, hd⟩ := h.head hbase
      simp [digit?] at hd
    · cases heq
      exact h.ne_nil rfl
  | case3 cs hne =>
    rw [value?_eq_some_iff_denotes hbase (by simpa using hne)]
    refine ⟨fun h => ⟨cs, .inr rfl, h⟩, ?_⟩
    rintro ⟨digits, rfl | heq, h⟩
    · obtain ⟨d, hd⟩ := h.head hbase
      simp [digit?] at hd
    · cases heq
      exact h
  | case4 cs hnil hplus hsigned =>
    rw [value?_eq_some_iff_denotes hbase (by simpa using hnil)]
    refine ⟨fun h => ⟨cs, .inl rfl, h⟩, ?_⟩
    rintro ⟨digits, rfl | rfl, h⟩
    · exact h
    · exact absurd rfl (hsigned digits)

lemma readWord?_eq_some_iff (hbase : base ≤ 16) {v : UInt64} :
    readWord? base cs = some v ↔ DenotesSigned base cs v.toNat := by
  have hword (n : ℕ) : (if n < UInt64.size then some n.toUInt64 else none) = some v
      ↔ n = v.toNat := by
    constructor
    · intro h
      split at h
      · rename_i hlt
        rw [← Option.some.inj h, Nat.toUInt64_eq, UInt64.toNat_ofNat_of_lt' hlt]
      · cases h
    · rintro rfl
      rw [if_pos v.toNat_lt, Nat.toUInt64_eq, UInt64.ofNat_toNat]
  simp only [readWord?, Option.bind_eq_bind, Option.bind_eq_some_iff, hword,
    read?_eq_some_iff hbase, exists_eq_right]

end Numeral

namespace Text

variable {cs core : List Char}

/-- What is left of `cs` without the white space at its ends. -/
def Trimmed (cs core : List Char) : Prop :=
  ∃ front back, cs = front ++ core ++ back ∧ (∀ c ∈ front ++ back, isBlank c) ∧
    (∀ c ∈ core.head?, ¬ isBlank c) ∧ ∀ c ∈ core.getLast?, ¬ isBlank c

lemma trimmed_dropBlanks (cs : List Char) : Trimmed cs (dropBlanks cs) := by
  set later := cs.dropWhile isBlank with hlater
  refine ⟨cs.takeWhile isBlank, (later.reverse.takeWhile isBlank).reverse, ?_, ?_, ?_, ?_⟩
  · rw [List.append_assoc, dropBlanks, dropBlanksEnd, ← List.reverse_append,
      List.takeWhile_append_dropWhile, List.reverse_reverse, List.takeWhile_append_dropWhile]
  · rw [List.forall_mem_append]
    exact ⟨fun c => List.mem_takeWhile_imp,
      fun c hc => List.mem_takeWhile_imp (List.mem_reverse.1 hc)⟩
  · intro c hc
    have hprefix : dropBlanks cs <+: later := by
      rw [dropBlanks, dropBlanksEnd, ← List.reverse_suffix, List.reverse_reverse]
      exact List.dropWhile_suffix _
    have hhead := List.head?_dropWhile_not isBlank cs
    obtain ⟨rest, hrest⟩ := hprefix
    rw [← hlater, ← hrest, List.head?_append, hc] at hhead
    simpa using hhead
  · intro c hc
    have hlast := List.head?_dropWhile_not isBlank later.reverse
    rw [dropBlanks, dropBlanksEnd, List.getLast?_reverse] at hc
    rw [hc] at hlast
    simpa using hlast

/-- Trimming is determined by what it has to leave. -/
lemma trimmed_iff : Trimmed cs core ↔ dropBlanks cs = core := by
  refine ⟨?_, fun h => h ▸ trimmed_dropBlanks cs⟩
  rintro ⟨front, back, rfl, hblank, hhead, hlast⟩
  rw [List.forall_mem_append] at hblank
  have hend : dropBlanksEnd (core ++ back) = core := by
    rw [dropBlanksEnd, List.reverse_append, (cut_append ?_ ?_).2, List.reverse_reverse]
    · exact fun c hc => hblank.2 c (List.mem_reverse.1 hc)
    · intro c hc
      rw [List.head?_reverse] at hc
      simpa using hlast c hc
  cases core with
  | nil =>
    have hall : (front ++ [] ++ back).dropWhile isBlank = [] := by
      rw [List.dropWhile_eq_nil_iff, List.append_nil, List.forall_mem_append]
      exact hblank
    rw [dropBlanks, hall]
    rfl
  | cons c core =>
    rw [dropBlanks, List.append_assoc, (cut_append hblank.1 ?_).2, hend]
    intro d hd
    simpa using hhead d hd

end Text

namespace Quantity

open Numeral Text

variable {cs core digits : List Char} {s : String} {n : ℕ} {v : UInt64} {mark : Char}

/-! ### Spellings -/

/-- The spellings of the number `n`, in decimal or after a mark in hexadecimal. -/
inductive Spells : List Char → ℕ → Prop
  | decimal {cs : List Char} {n : ℕ} (h : DenotesSigned 10 cs n) : Spells cs n
  | hex {cs : List Char} {n : ℕ} {mark : Char} (hmark : mark = 'x' ∨ mark = 'X')
    (h : DenotesSigned 16 cs n) : Spells ('0' :: mark :: cs) n

/-- A spelling of `n` is left of the string without white space at its ends and without
underscores. -/
def Tells (s : String) (n : ℕ) : Prop :=
  ∃ core, Trimmed s.toList core ∧ Spells (core.filter (· ≠ '_')) n

/-- No decimal spelling starts like one in hexadecimal. -/
lemma not_denotesSigned_mark (hmark : mark = 'x' ∨ mark = 'X') :
    ¬ DenotesSigned 10 ('0' :: mark :: cs) n := by
  rintro ⟨digits, rfl | heq, ds, -, hds, -⟩
  · cases hds with
    | cons _ hds =>
      cases hds with
      | cons hd _ =>
        rw [← digit?_eq_some_iff (by decide)] at hd
        rcases hmark with rfl | rfl
        all_goals cases hd
  · cases heq

/-- **A spelling is read as its number** where the number is a word; nothing else is read. -/
theorem numeral?_eq_some_iff : numeral? cs = some v ↔ Spells cs v.toNat := by
  have hhex (mark : Char) (hmark : mark = 'x' ∨ mark = 'X') (cs : List Char) :
      readWord? 16 cs = some v ↔ Spells ('0' :: mark :: cs) v.toNat := by
    rw [readWord?_eq_some_iff (by decide)]
    refine ⟨.hex hmark, fun h => ?_⟩
    cases h with
    | decimal h => exact absurd h (not_denotesSigned_mark hmark)
    | hex _ h => exact h
  fun_cases numeral? cs with
  | case1 cs => exact hhex 'x' (.inl rfl) cs
  | case2 cs => exact hhex 'X' (.inr rfl) cs
  | case3 cs hlower hupper =>
    rw [readWord?_eq_some_iff (by decide)]
    refine ⟨.decimal, fun h => ?_⟩
    cases h with
    | decimal h => exact h
    | hex hmark h =>
      rcases hmark with rfl | rfl
      · exact absurd rfl (hlower _)
      · exact absurd rfl (hupper _)

lemma not_isBlank_of_denotesSigned {base : ℕ} (hbase : base ≤ 16)
    (h : DenotesSigned base cs n) : ∀ c ∈ cs, isBlank c = false := by
  have hall : ∀ d < 16, isBlank d.digitChar = false ∧ isBlank d.digitChar.toUpper = false := by
    decide
  obtain ⟨digits, hcs, ds, -, hds, -⟩ := h
  have hdigits : ∀ c ∈ digits, isBlank c = false := by
    clear hcs
    induction hds with
    | nil => simp
    | cons hd _ ih =>
      refine List.forall_mem_cons.2 ⟨?_, ih⟩
      obtain ⟨hd, rfl | rfl⟩ := hd
      · exact (hall _ (hd.trans_le hbase)).1
      · exact (hall _ (hd.trans_le hbase)).2
  rcases hcs with rfl | rfl
  · exact hdigits
  · exact List.forall_mem_cons.2 ⟨by decide, hdigits⟩

lemma Spells.not_isBlank (h : Spells cs n) : ∀ c ∈ cs, isBlank c = false := by
  cases h with
  | decimal h => exact not_isBlank_of_denotesSigned (by decide) h
  | hex hmark h =>
    simp only [List.forall_mem_cons]
    refine ⟨by decide, ?_, not_isBlank_of_denotesSigned (by decide) h⟩
    rcases hmark with rfl | rfl
    all_goals decide

lemma tells_iff : Tells s n ↔ Spells (cleaned s) n := by
  simp only [Tells, trimmed_iff, exists_eq_left', cleaned]

lemma value_text_eq_ok_iff : value (.text s) = .ok v ↔ Tells s v.toNat := by
  rw [tells_iff, ← numeral?_eq_some_iff, value]
  cases numeral? (cleaned s) <;> simp

/-! ### Ways to write a word -/

/-- The ways to write `n` with leading zeros. -/
inductive Writes (n : ℕ) : List Char → Prop
  | decimal (zeros : ℕ) : Writes n (List.replicate zeros '0' ++ Nat.toDigits 10 n)
  | hex {mark : Char} {digits : List Char} (hmark : mark = 'x' ∨ mark = 'X') (zeros : ℕ)
    (hdigits : digits.map Char.toLower = Nat.toDigits 16 n) :
    Writes n ('0' :: mark :: (List.replicate zeros '0' ++ digits))

lemma digit?_toLower (c : Char) : digit? 16 c.toLower = digit? 16 c := by
  have hall : ∀ k < 128, digit? 16 (Char.ofNat k).toLower = digit? 16 (Char.ofNat k) := by
    decide +kernel
  by_cases hc : c.toNat < 128
  · have hdigit := hall c.toNat hc
    rwa [Char.ofNat_toNat] at hdigit
  · have hlower : c.toLower = c := by
      refine dif_neg ?_
      rintro ⟨-, hle⟩
      have hle : c.toNat ≤ 'Z'.toNat := hle
      have hz : 'Z'.toNat < 128 := by decide
      omega
    rw [hlower]

lemma value?_map_toLower (start : ℕ) (cs : List Char) :
    value? 16 start (cs.map Char.toLower) = value? 16 start cs := by
  induction cs generalizing start with
  | nil => rfl
  | cons c cs ih =>
    rw [List.map_cons, value?, value?, digit?_toLower]
    simp only [ih]

lemma Writes.spells (h : Writes n cs) : Spells cs n := by
  cases h with
  | decimal zeros =>
    refine .decimal ⟨_, .inl rfl, (value?_eq_some_iff_denotes (by decide) (by simp)).1 ?_⟩
    rw [value?_replicate_zero (by decide) (by decide), value?_toDigits (by decide) (by decide)]
  | hex hmark zeros hdigits =>
    refine .hex hmark ⟨_, .inl rfl, (value?_eq_some_iff_denotes (by decide) ?_).1 ?_⟩
    · rintro hnil
      rw [(List.append_eq_nil_iff.1 hnil).2] at hdigits
      exact Nat.toDigits_ne_nil hdigits.symm
    · rw [value?_replicate_zero (by decide) (by decide), ← value?_map_toLower, hdigits,
        value?_toDigits (by decide) (by decide)]

/-- **What a string tells** is its value: exactly where a spelling of a word is left of it, and the
rest of the strings is refused. However a word is written, with underscores anywhere and white
space around, it is told. -/
theorem value_text (s : String) :
    (∀ n, value (.text s) = .ok n ↔ Tells s n.toNat) ∧
    ((∀ n : UInt64, ¬ Tells s n.toNat) → ∃ core, Trimmed s.toList core ∧ value (.text s)
      = .error (.badText (.notANumber (String.ofList (core.filter (· ≠ '_')))))) ∧
    ∀ (n : UInt64) (front core back : List Char), s.toList = front ++ core ++ back →
      (∀ c ∈ front ++ back, isBlank c) → Writes n.toNat (core.filter (· ≠ '_')) →
      value (.text s) = .ok n := by
  refine ⟨fun n => value_text_eq_ok_iff, fun hnone => ?_, fun n front core back hs hblank hn => ?_⟩
  · refine ⟨_, trimmed_dropBlanks s.toList, ?_⟩
    have hnumeral : numeral? (cleaned s) = none := by
      refine Option.eq_none_iff_forall_ne_some.2 fun n hn => hnone n ?_
      rwa [tells_iff, ← numeral?_eq_some_iff]
    rw [value, hnumeral]
    rfl
  · have hcore : ∀ c ∈ core, ¬ isBlank c := by
      intro c hc
      rcases eq_or_ne c '_' with rfl | hne
      · decide
      · simp [hn.spells.not_isBlank c (List.mem_filter.2 ⟨hc, by simpa using hne⟩)]
    refine value_text_eq_ok_iff.2 ⟨core, ⟨front, back, hs, hblank, ?_, ?_⟩, hn.spells⟩
    · exact fun c hc => hcore c (List.mem_of_mem_head? hc)
    · exact fun c hc => hcore c (List.mem_of_mem_getLast? hc)

/-- A hexadecimal number in both cases, with zeros, underscores and white space. -/
theorem value_text_padded : value (.text "\u2003 _0_X00fF_\t") = .ok 255 := by
  have hcore : "_0_X00fF_".toList.filter (· ≠ '_')
      = '0' :: 'X' :: (List.replicate 2 '0' ++ ['f', 'F']) := by decide
  refine (value_text "\u2003 _0_X00fF_\t").2.2 255 "\u2003 ".toList "_0_X00fF_".toList ['\t']
    (by decide) (List.all_eq_true.1 (by decide)) ?_
  rw [hcore]
  exact .hex (.inr rfl) 2 (by decide)

end Quantity

end CsrMap
