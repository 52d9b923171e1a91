import CsrMap.Header.Literal
import CsrMap.Proofs.Text.Lines
import CsrMap.Proofs.Text.Numerals
import Mathlib.Data.List.DropRight

/-!
Reading numbers back out of the text of a header.

A reader that knows nothing of the system takes the lines that define a symbol as a number. Each
literal of the header is read as the number that it stands for.
-/

namespace CsrMap.Header

open Numeral Text

/-- A number in decimal, or in hexadecimal after `0x`; letters of its type may follow. -/
def number? (cs : List Char) : Option UInt64 :=
  match cs.rdropWhile fun c => c == 'U' || c == 'L' with
  | '0' :: 'x' :: hex => readWord? 16 hex
  | decimal => readWord? 10 decimal

/-- The symbol and the number of a line that defines a symbol as a number. -/
def readDefine? (line : String) : Option (String × UInt64) := do
  let rest ← "#define ".toList.isPrefixOf? line.toList
  let symbol := String.ofList (rest.takeWhile (· != ' '))
  let value := (rest.dropWhile (· != ' ')).drop 1
  if value.head?.any Char.isDigit then (number? value).map (symbol, ·) else none

/-- The symbols that a text defines as numbers, in the order of its lines. -/
def numericDefines (text : String) : List (String × UInt64) := (lines text).filterMap readDefine?

/-- The number that a literal stands for. -/
def Literal.amount? : Literal → Option ℕ
  | address value | regionSize value | bankSize value | mask value | integer value =>
    some value.toNat
  | count value => some value
  | text _ => none

/-- The word that a number is read as, if it is small enough. -/
def toWord? (n : ℕ) : Option UInt64 := if n < UInt64.size then some n.toUInt64 else none

variable {symbol line : String} {cs suffix : List Char} {n : ℕ} {l : Literal}

/-! ### Numbers -/

/-- The letters that say the type of a number. -/
def TypeLetters (suffix : List Char) : Prop := ∀ c ∈ suffix, c = 'U' ∨ c = 'L'

lemma typeLetters_nil : TypeLetters [] := by simp [TypeLetters]

lemma rdropWhile_letters (front : List Char) {ds : List Char} (hds : ds ≠ [])
    (hdigits : ∀ c ∈ ds, c ∈ digits) (hsuffix : TypeLetters suffix) :
    (front ++ ds ++ suffix).rdropWhile (fun c => c == 'U' || c == 'L') = front ++ ds := by
  have hletters : ∀ c ∈ suffix.reverse, (c == 'U' || c == 'L') = true := by
    intro c hc
    simpa using hsuffix c (List.mem_reverse.1 hc)
  rw [List.rdropWhile, List.reverse_append, List.dropWhile_append_of_pos hletters]
  refine List.rdropWhile_eq_self_iff.2 fun hl hlast => ?_
  have hall : digits.all (fun c => !(c == 'U' || c == 'L')) = true := by decide
  rw [List.getLast_append_of_right_ne_nil _ _ hds] at hlast
  have hdigit := List.all_eq_true.1 hall _ (hdigits _ (List.getLast_mem hds))
  simp only [hlast, Bool.not_true, Bool.false_eq_true] at hdigit

/-- The characters spell a number: digits, perhaps after `0x` and zeros, and then letters. -/
inductive Spells : List Char → ℕ → Prop
  | decimal (n : ℕ) {suffix : List Char} (h : TypeLetters suffix) :
    Spells (Nat.toDigits 10 n ++ suffix) n
  | hex (k n : ℕ) {suffix : List Char} (h : TypeLetters suffix) :
    Spells (['0', 'x'] ++ (List.replicate k '0' ++ Nat.toDigits 16 n) ++ suffix) n

lemma mem_digits_of_mem_hex {k : ℕ} {c : Char}
    (h : c ∈ List.replicate k '0' ++ Nat.toDigits 16 n) : c ∈ digits := by
  rcases List.mem_append.1 h with h | h
  · rw [List.eq_of_mem_replicate h]
    decide
  · exact mem_digits_of_mem_toDigits (by decide) (by decide) h

lemma mem_digits_of_mem_decimal {c : Char} (h : c ∈ Nat.toDigits 10 n) : c ∈ digits :=
  mem_digits_of_mem_toDigits (by decide) (by decide) h

namespace Spells

/-- **A spelled number is read as itself** where it is a word. -/
theorem number? (h : Spells cs n) : number? cs = toWord? n := by
  cases h with
  | decimal _ h =>
    have hdigits : ∀ c ∈ Nat.toDigits 10 n, c ∈ digits := fun _ => mem_digits_of_mem_decimal
    rw [Header.number?, ← List.nil_append (Nat.toDigits 10 n),
      rdropWhile_letters [] Nat.toDigits_ne_nil hdigits h, List.nil_append]
    split
    · rename_i heq
      exact absurd (hdigits 'x' (by rw [heq]; simp)) (by decide)
    · exact readWord?_eq Nat.toDigits_ne_nil hdigits (value?_toDigits (by decide) (by decide) n)
  | hex k _ h =>
    have hne : List.replicate k '0' ++ Nat.toDigits 16 n ≠ [] := by simp
    have hvalue : value? 16 0 (List.replicate k '0' ++ Nat.toDigits 16 n) = some n := by
      rw [value?_replicate_zero (by decide) (by decide), value?_toDigits (by decide) (by decide)]
    rw [Header.number?, rdropWhile_letters _ hne (fun _ => mem_digits_of_mem_hex) h]
    exact readWord?_eq hne (fun _ => mem_digits_of_mem_hex) hvalue

lemma head (h : Spells cs n) : cs.head?.any Char.isDigit := by
  cases h with
  | decimal _ h =>
    cases hn : Nat.toDigits 10 n with
    | nil => exact absurd hn Nat.toDigits_ne_nil
    | cons c ds =>
      have hc : c ∈ Nat.toDigits 10 n := by simp [hn]
      simpa using Nat.isDigit_of_mem_toDigits (by decide) (by decide) hc
  | hex k _ h => rfl

lemma mem (h : Spells cs n) {c : Char} (hc : c ∈ cs) : c ∈ digits ++ ['x', 'U', 'L'] := by
  cases h with
  | decimal _ h =>
    rcases List.mem_append.1 hc with hc | hc
    · exact List.mem_append_left _ (mem_digits_of_mem_decimal hc)
    · rcases h c hc with rfl | rfl <;> decide
  | hex k _ h =>
    rcases List.mem_append.1 hc with hc | hc
    · rcases List.mem_append.1 hc with hc | hc
      · rcases List.mem_pair.1 hc with rfl | rfl <;> decide
      · exact List.mem_append_left _ (mem_digits_of_mem_hex hc)
    · rcases h c hc with rfl | rfl <;> decide

end Spells

/-! ### Literals -/

@[simp] lemma toWord?_toNat (v : UInt64) : toWord? v.toNat = some v := by
  simp [toWord?, v.toNat_lt]

lemma spells_decimal (n : ℕ) : Spells (decimal n).toList n := by
  rw [toList_decimal, ← List.append_nil (Nat.toDigits 10 n)]
  exact .decimal n typeLetters_nil

lemma spells_marked (n : ℕ) : Spells (marked n).toList n := by
  have h := Spells.hex 0 n typeLetters_nil
  rw [marked, String.toList_append, toList_hex]
  simpa using h

lemma spells_markedWide (n : ℕ) : Spells (markedWide n).toList n := by
  obtain ⟨k, hk⟩ := toList_padLeft (c := '0') 8 (hex n)
  have h := Spells.hex k n typeLetters_nil
  rw [markedWide, String.toList_append, hk, toList_hex]
  simpa using h

/-- Letters may follow a number that is spelled. -/
lemma Spells.append (h : Spells cs n) (hsuffix : TypeLetters suffix) : Spells (cs ++ suffix) n := by
  have hboth {early : List Char} (hearly : TypeLetters early) : TypeLetters (early ++ suffix) := by
    intro c hc
    rcases List.mem_append.1 hc with hc | hc
    · exact hearly c hc
    · exact hsuffix c hc
  cases h with
  | decimal _ h =>
    rw [List.append_assoc]
    exact .decimal n (hboth h)
  | hex k _ h =>
    rw [List.append_assoc]
    exact .hex k n (hboth h)

namespace Literal

/-- A literal that is no text spells its number. -/
theorem spells_spelling (h : l.amount? = some n) : Spells l.spelling.toList n := by
  have hlong : TypeLetters "L".toList := by simp [TypeLetters]
  have hwide : TypeLetters "ULL".toList := by simp [TypeLetters]
  cases l with
  | address v =>
    cases h
    rw [spelling, String.toList_append]
    exact (spells_markedWide _).append hlong
  | regionSize v =>
    cases h
    exact spells_markedWide _
  | bankSize v =>
    cases h
    exact spells_marked _
  | mask v =>
    cases h
    rw [spelling]
    split
    · exact spells_marked _
    · rw [String.toList_append]
      exact (spells_marked _).append hwide
  | count v =>
    cases h
    exact spells_decimal _
  | integer v =>
    cases h
    rw [spelling]
    split
    · exact spells_decimal _
    · rw [String.toList_append]
      exact (spells_decimal _).append hwide
  | text s => cases h

lemma unbroken_textSpelling (s : String) : Unbroken (textSpelling s) := by
  have hchar (c : Char) : '\n' ∉ escapedChar c := by
    unfold escapedChar
    split
    · decide
    · decide
    · decide
    · simpa using Ne.symm (by assumption)
  simp [textSpelling, Unbroken, hchar]

/-- The spelling of a literal can end a line. -/
lemma isLine_spelling (l : Literal) : IsLine l.spelling ∧ l.spelling.toList ≠ [] := by
  cases h : l.amount? with
  | some n =>
    have hspells := spells_spelling h
    have hbreak (c : Char) (hc : c ∈ l.spelling.toList) : c ≠ '\n' ∧ c ≠ '\r' := by
      have hall : (digits ++ ['x', 'U', 'L']).all (fun c => c != '\n' && c != '\r') = true := by
        decide
      simpa using List.all_eq_true.1 hall c (hspells.mem hc)
    refine ⟨⟨fun hc => (hbreak _ hc).1 rfl, fun hlast => ?_⟩, fun hnil => ?_⟩
    · exact (hbreak _ (List.mem_of_getLast? hlast)).2 rfl
    · have := hspells.head
      rw [hnil] at this
      cases this
  | none =>
    cases l with
    | text s =>
      have hend : IsLine "\"" := ⟨by decide, by decide⟩
      refine ⟨?_, by simp [spelling, textSpelling]⟩
      have hunbroken := unbroken_textSpelling s
      rw [textSpelling, unbroken_append] at hunbroken
      exact hunbroken.1.append_isLine hend (by decide)
    | _ => cases h

end Literal

/-! ### Lines -/

lemma isPrefixOf?_append (cs rest : List Char) : cs.isPrefixOf? (cs ++ rest) = some rest := by
  induction cs with
  | nil => rfl
  | cons c cs ih => simp [List.isPrefixOf?, ih]

/-- A line that starts in another way defines nothing. -/
lemma readDefine?_eq_none (h : "#define ".toList.isPrefixOf? line.toList = none) :
    readDefine? line = none := by
  rw [readDefine?, h]
  rfl

lemma isPrefixOf?_of_head {c : Char} (cs : List Char) (h : line.toList.head? ≠ some c) :
    (c :: cs).isPrefixOf? line.toList = none := by
  cases hline : line.toList with
  | nil => rfl
  | cons d ds =>
    rw [hline] at h
    have hd : (c == d) = false := by simpa using Ne.symm h
    rw [List.isPrefixOf?, hd]
    rfl

lemma readDefine?_of_head (h : line.toList.head? ≠ some '#') : readDefine? line = none :=
  readDefine?_eq_none (isPrefixOf?_of_head "define ".toList h)

/-- A symbol stands before the first space. -/
lemma split_symbol (hsymbol : ' ' ∉ symbol.toList) (rest : List Char)
    (hrest : ∀ c, rest.head? = some c → c = ' ') :
    (symbol.toList ++ rest).takeWhile (· != ' ') = symbol.toList ∧
      (symbol.toList ++ rest).dropWhile (· != ' ') = rest := by
  have hinside : ∀ c ∈ symbol.toList, (c != ' ') = true := by
    intro c hc
    simpa using fun h : c = ' ' => hsymbol (h ▸ hc)
  exact cut_append hinside fun c hc => by simp [hrest c hc]

/-- What is read of a line depends on the symbol up to the first space and on the rest. -/
lemma readDefine?_eq (hsymbol : ' ' ∉ symbol.toList) (rest : List Char)
    (hline : line.toList = "#define ".toList ++ (symbol.toList ++ rest))
    (hrest : ∀ c, rest.head? = some c → c = ' ') :
    readDefine? line = if (rest.drop 1).head?.any Char.isDigit then
      (number? (rest.drop 1)).map (symbol, ·) else none := by
  obtain ⟨htake, hdrop⟩ := split_symbol hsymbol rest hrest
  simp only [readDefine?, hline, isPrefixOf?_append, Option.bind_eq_bind, Option.bind_some, htake,
    hdrop, String.ofList_toList]

/-- **A definition is read as its symbol and the word that its literal stands for.** -/
theorem readDefine?_define (hsymbol : ' ' ∉ symbol.toList) (l : Literal) :
    readDefine? ("#define " ++ symbol ++ " " ++ l.spelling)
      = (l.amount?.bind toWord?).map (symbol, ·) := by
  rw [readDefine?_eq hsymbol (' ' :: l.spelling.toList) (by simp) (by simp)]
  cases h : l.amount? with
  | some n =>
    have hspells := Literal.spells_spelling h
    rw [List.drop_one, List.tail_cons, if_pos hspells.head, hspells.number?, Option.bind_some]
  | none =>
    cases l with
    | text s => simp [Literal.spelling, Literal.textSpelling]
    | _ => cases h

/-- A symbol that is defined without a value is no number. -/
lemma readDefine?_flag (hsymbol : ' ' ∉ symbol.toList) :
    readDefine? ("#define " ++ symbol) = none := by
  rw [readDefine?_eq hsymbol [] (by simp) (by simp)]
  rfl

end CsrMap.Header
