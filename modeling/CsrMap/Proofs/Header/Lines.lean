import CsrMap.Header.Text
import CsrMap.Proofs.Header.Reader

/-!
The lines of the items of a header.

Names without line feeds give lines without line feeds, whatever the shape of the expressions they
stand in. So the text of a header has the lines of its items, and its reader finds the items that
define a symbol as a number.
-/

namespace CsrMap.Header

open Text

/-! ### Functions -/

/-- The names in an expression. -/
def Expression.names : Expression → List String
  | .variable name | .call name => [name]
  | .literal _ => []
  | .callOne name argument => name :: argument.names
  | .callTwo name first second => name :: (first.names ++ second.names)
  | .complement operand | .cast _ operand => operand.names
  | .binary _ left right => left.names ++ right.names

def Statement.names : Statement → List String
  | .declareZero _ name => [name]
  | .orInto name value => name :: value.names
  | .evaluate value | .give value => value.names

/-- The names in a function. -/
def Function.names (f : Function) : List String :=
  f.name :: (f.parameters.map (·.2) ++ f.body.flatMap Statement.names)

lemma IntType.unbroken_spelling (t : IntType) : Unbroken t.spelling := by
  cases t <;> decide

lemma BinaryOp.unbroken_spelling (op : BinaryOp) : Unbroken op.spelling := by
  cases op <;> decide

lemma Expression.unbroken_parenthesized {text : String} (inside : Bool) (h : Unbroken text) :
    Unbroken (parenthesized inside text) := by
  cases inside with
  | false => exact h
  | true => exact unbroken_append.2 ⟨unbroken_append.2 ⟨by decide, h⟩, by decide⟩

lemma Expression.unbroken_spelling (e : Expression) (h : ∀ n ∈ e.names, Unbroken n) :
    Unbroken e.spelling := by
  induction e with
  | «variable» name => exact h name (by simp [names])
  | literal value => exact value.isLine_spelling.1.unbroken
  | call name => exact unbroken_append.2 ⟨h name (by simp [names]), by decide⟩
  | callOne name argument ih =>
    have harg := ih fun n hn => h n (by simp [names, hn])
    simp only [spelling, unbroken_append]
    exact ⟨⟨⟨h name (by simp [names]), by decide⟩, harg⟩, by decide⟩
  | callTwo name first second ih₁ ih₂ =>
    have hfirst := ih₁ fun n hn => h n (by simp [names, hn])
    have hsecond := ih₂ fun n hn => h n (by simp [names, hn])
    simp only [spelling, unbroken_append]
    exact ⟨⟨⟨⟨⟨h name (by simp [names]), by decide⟩, hfirst⟩, by decide⟩, hsecond⟩, by decide⟩
  | complement operand ih =>
    exact unbroken_append.2 ⟨by decide, unbroken_parenthesized _ (ih h)⟩
  | cast type operand ih =>
    simp only [spelling, unbroken_append]
    exact ⟨⟨⟨by decide, type.unbroken_spelling⟩, by decide⟩, unbroken_parenthesized _ (ih h)⟩
  | binary op left right ih₁ ih₂ =>
    have hleft := ih₁ fun n hn => h n (by simp [names, hn])
    have hright := ih₂ fun n hn => h n (by simp [names, hn])
    simp only [spelling, unbroken_append]
    exact ⟨⟨⟨⟨unbroken_parenthesized _ hleft, by decide⟩, op.unbroken_spelling⟩, by decide⟩,
      unbroken_parenthesized _ hright⟩

lemma Statement.isLine_spelling (s : Statement) (h : ∀ n ∈ s.names, Unbroken n) :
    IsLine ("\t" ++ s.spelling) := by
  have hend : IsLine ";" := ⟨by decide, by decide⟩
  have hzero : IsLine " = 0;" := ⟨by decide, by decide⟩
  cases s with
  | declareZero type name =>
    have hname := h name (by simp [names])
    have hfront : Unbroken ("\t" ++ type.spelling ++ " " ++ name) := by
      simp only [unbroken_append]
      exact ⟨⟨⟨by decide, type.unbroken_spelling⟩, by decide⟩, hname⟩
    simpa only [spelling, String.append_assoc] using hfront.append_isLine hzero (by decide)
  | orInto name value =>
    have hname := h name (by simp [names])
    have hvalue := value.unbroken_spelling fun n hn => h n (by simp [names, hn])
    have hfront : Unbroken ("\t" ++ name ++ " |= " ++ value.spelling) := by
      simp only [unbroken_append]
      exact ⟨⟨⟨by decide, hname⟩, by decide⟩, hvalue⟩
    simpa only [spelling, String.append_assoc] using hfront.append_isLine hend (by decide)
  | evaluate value =>
    have hfront : Unbroken ("\t" ++ value.spelling) :=
      unbroken_append.2 ⟨by decide, value.unbroken_spelling h⟩
    simpa only [spelling, String.append_assoc] using hfront.append_isLine hend (by decide)
  | give value =>
    have hfront : Unbroken ("\t" ++ "return " ++ value.spelling) := by
      simp only [unbroken_append]
      exact ⟨⟨by decide, by decide⟩, value.unbroken_spelling h⟩
    simpa only [spelling, String.append_assoc] using hfront.append_isLine hend (by decide)

namespace Function

variable {f : Function}

lemma unbroken_parametersSpelling (h : ∀ n ∈ f.names, Unbroken n) :
    Unbroken f.parametersSpelling := by
  unfold parametersSpelling
  split
  · decide
  · refine unbroken_intercalate (by decide) fun s hs => ?_
    obtain ⟨⟨type, name⟩, hmem, rfl⟩ := List.mem_map.1 hs
    have hname : name ∈ f.parameters.map (·.2) := List.mem_map.2 ⟨_, hmem, rfl⟩
    simp only [unbroken_append]
    exact ⟨⟨type.unbroken_spelling, by decide⟩, h name (by simp [names, hname])⟩

/-- No line of a function starts as a definition does. -/
lemma line_of_mem (h : ∀ n ∈ f.names, Unbroken n) {l : String} (hl : l ∈ f.lines) :
    IsLine l ∧ l.toList.head? ≠ some '#' := by
  rcases List.mem_append.1 hl with hl | hl
  · rcases List.mem_append.1 hl with hl | hl
    · rw [List.mem_singleton] at hl
      have hresult : Unbroken f.resultSpelling := by
        unfold resultSpelling
        split
        · exact IntType.unbroken_spelling _
        · decide
      have hfront : Unbroken ("static inline " ++ f.resultSpelling ++ " " ++ f.name ++ "("
          ++ f.parametersSpelling) := by
        simp only [unbroken_append]
        exact ⟨⟨⟨⟨⟨by decide, hresult⟩, by decide⟩, h _ (by simp [names])⟩, by decide⟩,
          unbroken_parametersSpelling h⟩
      rw [hl]
      exact ⟨hfront.append_isLine ⟨by decide, by decide⟩ (by decide), by simp⟩
    · obtain ⟨s, hs, rfl⟩ := List.mem_map.1 hl
      refine ⟨s.isLine_spelling fun n hn => h n ?_, by simp⟩
      have hbody : n ∈ f.body.flatMap Statement.names := List.mem_flatMap.2 ⟨s, hs, hn⟩
      simp [names, hbody]
  · rw [List.mem_singleton] at hl
    rw [hl]
    exact ⟨⟨by decide, by decide⟩, by decide⟩

end Function

/-! ### Items -/

def isWordChar (c : Char) : Bool := c.isAlphanum || c == '_'

lemma isWordChar_iff {c : Char} :
    isWordChar c ↔ c.isUpper ∨ c.isLower ∨ c.isDigit ∨ c = '_' := by
  have hclasses : isWordChar c = (((c.isUpper || c.isLower) || c.isDigit) || c == '_') := rfl
  simp only [hclasses, Bool.or_eq_true, beq_iff_eq, or_assoc]

/-- The text has letters, digits and underscores only. -/
def IsWord (s : String) : Prop := ∀ c ∈ s.toList, isWordChar c

instance (s : String) : Decidable (IsWord s) :=
  decidable_of_iff (s.toList.all isWordChar = true) List.all_eq_true

/-- A word that is not empty and does not start with a digit. -/
structure IsIdentifier (s : String) : Prop where
  nonempty : s ≠ ""
  head : ¬ s.toList.head?.any Char.isDigit
  word : IsWord s

namespace IsWord

variable {s t : String}

lemma unbroken (h : IsWord s) : Unbroken s := fun hc => absurd (h _ hc) (by decide)

lemma space_notMem (h : IsWord s) : ' ' ∉ s.toList := fun hc => absurd (h _ hc) (by decide)

lemma isLine (h : IsWord s) : IsLine s :=
  ⟨h.unbroken, fun hlast => absurd (h _ (List.mem_of_getLast? hlast)) (by decide)⟩

lemma append (hs : IsWord s) (ht : IsWord t) : IsWord (s ++ t) := by
  intro c hc
  rw [String.toList_append] at hc
  rcases List.mem_append.1 hc with hc | hc
  · exact hs c hc
  · exact ht c hc

end IsWord

namespace Item

/-- What the items of a header keep to, so that its text has their lines. -/
def Readable : Item → Prop
  | blank => True
  | banner text | heading text | includes text => Unbroken text
  | guardStart symbol | guardEnd symbol | define symbol _ => IsWord symbol
  | function f => ∀ n ∈ f.names, Unbroken n

/-- The symbol that an item defines. -/
def symbol? : Item → Option String
  | define symbol _ => some symbol
  | _ => none

/-- The item is readable, and the symbol that it defines is in upper case. -/
structure Proper (item : Item) : Prop where
  readable : item.Readable
  upper : ∀ symbol ∈ item.symbol?, isConstantName symbol

/-- The symbol and the word of an item that defines a symbol as a number. -/
def entry? : Item → Option (String × UInt64)
  | define symbol (some value) => (value.amount?.bind toWord?).map (symbol, ·)
  | _ => none

variable {item : Item} {items : List Item}

lemma isLine_of_mem_lines (h : item.Readable) {l : String} (hl : l ∈ item.lines) : IsLine l := by
  cases item with
  | function f => exact (f.line_of_mem h hl).1
  | blank =>
    rw [List.mem_singleton.1 hl]
    exact ⟨by decide, by decide⟩
  | banner text =>
    rw [List.mem_singleton.1 hl]
    exact isLine_trimEnd (unbroken_append.2 ⟨by decide, h⟩)
  | heading title =>
    rw [List.mem_singleton.1 hl]
    exact (unbroken_append.2 ⟨by decide, h⟩).append_isLine ⟨by decide, by decide⟩ (by decide)
  | guardStart symbol =>
    rw [List.mem_singleton.1 hl]
    exact IsLine.append ⟨by decide, by decide⟩ h.isLine
  | guardEnd symbol =>
    rw [List.mem_singleton.1 hl]
    exact (unbroken_append.2 ⟨by decide, h.unbroken⟩).append_isLine ⟨by decide, by decide⟩
      (by decide)
  | includes file =>
    rw [List.mem_singleton.1 hl]
    exact (unbroken_append.2 ⟨by decide, h⟩).append_isLine ⟨by decide, by decide⟩ (by decide)
  | define symbol value =>
    cases value with
    | none =>
      rw [List.mem_singleton.1 hl]
      exact IsLine.append ⟨by decide, by decide⟩ h.isLine
    | some value =>
      rw [List.mem_singleton.1 hl]
      have hfront : Unbroken ("#define " ++ symbol ++ " ") := by
        simp only [unbroken_append]
        exact ⟨⟨by decide, h.unbroken⟩, by decide⟩
      exact hfront.append_isLine value.isLine_spelling.1 value.isLine_spelling.2

lemma eq_of_head?_banner {text : String} {c : Char}
    (h : (trimEnd ("// " ++ text)).toList.head? = some c) : c = '/' := by
  obtain ⟨rest, hrest⟩ := isPrefix_trimEnd ("// " ++ text)
  have hslash := congrArg List.head? hrest
  rw [List.head?_append, h] at hslash
  simpa using hslash

/-- Among the lines of an item, those that define a number are its entry. -/
lemma filterMap_readDefine?_lines (h : item.Readable) :
    item.lines.filterMap readDefine? = item.entry?.toList := by
  cases item with
  | function f =>
    rw [lines, List.filterMap_eq_nil_iff.2 fun l hl => readDefine?_of_head (f.line_of_mem h hl).2]
    rfl
  | blank => decide
  | banner text =>
    have hhead : (trimEnd ("// " ++ text)).toList.head? ≠ some '#' :=
      fun hc => absurd (eq_of_head?_banner hc) (by decide)
    rw [lines, List.filterMap_cons, readDefine?_of_head hhead]
    rfl
  | heading title =>
    rw [lines, List.filterMap_cons, readDefine?_of_head (by simp)]
    rfl
  | guardStart symbol =>
    rw [lines, List.filterMap_cons, readDefine?_eq_none]
    · rfl
    · simp [List.isPrefixOf?]
  | guardEnd symbol =>
    rw [lines, List.filterMap_cons, readDefine?_eq_none]
    · rfl
    · simp [List.isPrefixOf?]
  | includes file =>
    rw [lines, List.filterMap_cons, readDefine?_eq_none]
    · rfl
    · simp [List.isPrefixOf?]
  | define symbol value =>
    cases value with
    | none =>
      rw [lines, List.filterMap_cons, readDefine?_flag h.space_notMem]
      rfl
    | some value =>
      rw [lines, List.filterMap_cons, readDefine?_define h.space_notMem, entry?]
      cases (value.amount?.bind toWord?).map (symbol, ·) <;> rfl

end Item

variable {items : List Item}

/-- The text of items has their lines. -/
lemma lines_render (h : ∀ item ∈ items, item.Readable) :
    lines (render items) = items.flatMap Item.lines := by
  refine lines_unlines fun l hl => ?_
  obtain ⟨item, hitem, hl⟩ := List.mem_flatMap.1 hl
  exact Item.isLine_of_mem_lines (h item hitem) hl

/-- **The reader finds the entries of the items** in the text of a header, and nothing else. -/
theorem numericDefines_render (h : ∀ item ∈ items, item.Readable) :
    numericDefines (render items) = items.filterMap Item.entry? := by
  rw [numericDefines, lines_render h, List.filterMap_flatMap, List.filterMap_eq_flatMap_toList]
  exact List.flatMap_congr fun item hitem => Item.filterMap_readDefine?_lines (h item hitem)

end CsrMap.Header
