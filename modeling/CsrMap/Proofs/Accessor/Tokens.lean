import CsrMap.Proofs.Header.Symbols

/-!
The tokens of the functions of a header.

A line is cut into words and marks before anything is understood. Where names are free, the text
of an expression, of a statement or of the head of a function has the tokens that its structure
says, with parentheses around an operand that is itself an operator between two expressions. No
word among them is in upper case.
-/

namespace CsrMap.Header

open Text

/-! ### The scanner -/

inductive Token where
  | word (text : String)
  | parenOpen
  | parenClose
  | braceOpen
  | braceClose
  | comma
  | semicolon
  | tilde
  | equals
  /-- The assignment that puts bits into a variable. -/
  | orEquals
  | operator (op : BinaryOp)
  | other (c : Char)
  deriving DecidableEq, Repr

def markOf : Char → Token
  | '(' => .parenOpen
  | ')' => .parenClose
  | '\x7b' => .braceOpen
  | '\x7d' => .braceClose
  | ',' => .comma
  | ';' => .semicolon
  | '~' => .tilde
  | '=' => .equals
  | '&' => .operator .and
  | '|' => .operator .or
  | c => .other c

/-- The word that ends here, if there is one, and then `tokens`. -/
def endWord (pending : List Char) (tokens : List Token) : List Token :=
  if pending = [] then tokens else .word (String.ofList pending) :: tokens

/-- The tokens of a row of characters after the characters of a word that has not ended. -/
def tokensFrom (pending : List Char) : List Char → List Token
  | [] => endWord pending []
  | '<' :: '<' :: cs => endWord pending (.operator .shiftLeft :: tokensFrom [] cs)
  | '>' :: '>' :: cs => endWord pending (.operator .shiftRight :: tokensFrom [] cs)
  | '|' :: '=' :: cs => endWord pending (.orEquals :: tokensFrom [] cs)
  | c :: cs =>
    if isWordChar c then tokensFrom (pending ++ [c]) cs
    else endWord pending (if isBlank c then tokensFrom [] cs else markOf c :: tokensFrom [] cs)

/-- The tokens of a line. -/
def tokens (line : String) : List Token := tokensFrom [] line.toList

/-! ### Words -/

/-- No word goes on with these characters. -/
def Stops (cs : List Char) : Prop := ∀ c, cs.head? = some c → isWordChar c = false

@[simp] lemma stops_nil : Stops [] := by simp [Stops]

@[simp] lemma stops_cons {c : Char} {cs : List Char} : Stops (c :: cs) ↔ isWordChar c = false := by
  simp [Stops]

lemma stops_space (cs : List Char) : Stops (' ' :: cs) := stops_cons.2 (by decide)

lemma stops_parenOpen (cs : List Char) : Stops ('(' :: cs) := stops_cons.2 (by decide)

lemma stops_parenClose (cs : List Char) : Stops (')' :: cs) := stops_cons.2 (by decide)

lemma stops_comma (cs : List Char) : Stops (',' :: cs) := stops_cons.2 (by decide)

lemma stops_semicolon (cs : List Char) : Stops (';' :: cs) := stops_cons.2 (by decide)

variable {pending cs rest : List Char} {w : String}

/-- A word ends where no word goes on. -/
lemma tokensFrom_of_stops (pending : List Char) (h : Stops rest) :
    tokensFrom pending rest = endWord pending (tokensFrom [] rest) := by
  unfold tokensFrom
  split
  · rfl
  · rfl
  · rfl
  · rfl
  · rename_i c cs _ _ _
    rw [stops_cons] at h
    simp only [h, Bool.false_eq_true, if_false]
    rfl

lemma tokensFrom_cons {c : Char} (h : isWordChar c) :
    tokensFrom pending (c :: cs) = tokensFrom (pending ++ [c]) cs := by
  conv_lhs => unfold tokensFrom
  split
  · rename_i heq
    cases heq
  · rename_i heq
    rw [(List.cons.inj heq).1] at h
    exact absurd h (by decide)
  · rename_i heq
    rw [(List.cons.inj heq).1] at h
    exact absurd h (by decide)
  · rename_i heq
    rw [(List.cons.inj heq).1] at h
    exact absurd h (by decide)
  · rename_i heq
    obtain ⟨rfl, rfl⟩ := List.cons.inj heq
    rw [if_pos h]

lemma tokensFrom_append (h : ∀ c ∈ cs, isWordChar c) :
    tokensFrom pending (cs ++ rest) = tokensFrom (pending ++ cs) rest := by
  induction cs generalizing pending with
  | nil => rw [List.nil_append, List.append_nil]
  | cons c cs ih =>
    rw [List.cons_append, tokensFrom_cons (h c (by simp)), ih fun d hd => h d (by simp [hd]),
      List.append_assoc, List.singleton_append]

/-- **A word is one token** where no word goes on after it. -/
theorem tokensFrom_word (hw : IsWord w) (hne : w ≠ "") (hrest : Stops rest) :
    tokensFrom [] (w.toList ++ rest) = .word w :: tokensFrom [] rest := by
  have hchars : w.toList ≠ [] := fun hnil => hne (String.toList_eq_nil_iff.1 hnil)
  rw [tokensFrom_append hw, List.nil_append, tokensFrom_of_stops _ hrest, endWord, if_neg hchars,
    String.ofList_toList]

/-! ### Marks -/

@[simp] lemma tokensFrom_nil : tokensFrom [] [] = [] := rfl

@[simp] lemma tokensFrom_space (cs : List Char) : tokensFrom [] (' ' :: cs) = tokensFrom [] cs :=
  rfl

@[simp] lemma tokensFrom_tab (cs : List Char) : tokensFrom [] ('\t' :: cs) = tokensFrom [] cs :=
  rfl

@[simp] lemma tokensFrom_parenOpen (cs : List Char) :
    tokensFrom [] ('(' :: cs) = .parenOpen :: tokensFrom [] cs := rfl

@[simp] lemma tokensFrom_parenClose (cs : List Char) :
    tokensFrom [] (')' :: cs) = .parenClose :: tokensFrom [] cs := rfl

@[simp] lemma tokensFrom_braceOpen (cs : List Char) :
    tokensFrom [] ('\x7b' :: cs) = .braceOpen :: tokensFrom [] cs := rfl

@[simp] lemma tokensFrom_comma (cs : List Char) :
    tokensFrom [] (',' :: cs) = .comma :: tokensFrom [] cs := rfl

@[simp] lemma tokensFrom_semicolon (cs : List Char) :
    tokensFrom [] (';' :: cs) = .semicolon :: tokensFrom [] cs := rfl

@[simp] lemma tokensFrom_tilde (cs : List Char) :
    tokensFrom [] ('~' :: cs) = .tilde :: tokensFrom [] cs := rfl

@[simp] lemma tokensFrom_equals (cs : List Char) :
    tokensFrom [] ('=' :: ' ' :: cs) = .equals :: tokensFrom [] cs := rfl

@[simp] lemma tokensFrom_orEquals (cs : List Char) :
    tokensFrom [] ('|' :: '=' :: cs) = .orEquals :: tokensFrom [] cs := rfl

@[simp] lemma tokensFrom_operator (op : BinaryOp) (cs : List Char) :
    tokensFrom [] (op.spelling.toList ++ ' ' :: cs) = .operator op :: tokensFrom [] cs := by
  cases op <;> rfl

/-! ### Names and literals -/

/-- The words of the language, which are no names. -/
def keywords : List String :=
  ["auto", "break", "case", "char", "const", "continue", "default", "do", "double", "else", "enum",
    "extern", "float", "for", "goto", "if", "inline", "int", "long", "register", "restrict",
    "return", "short", "signed", "sizeof", "static", "struct", "switch", "typedef", "union",
    "unsigned", "void", "volatile", "while"]

def IntType.all : List IntType := [.u8, .u16, .u32, .u64]

def typeOf? (word : String) : Option IntType := IntType.all.find? (·.spelling == word)

/-- The word can be the name of a function or of a variable. Names in upper case are left to what
a text defines. -/
structure IsFreeName (s : String) : Prop where
  identifier : IsIdentifier s
  notUpper : ¬ isConstantName s
  notKeyword : s ∉ keywords
  notType : typeOf? s = none

instance (s : String) : Decidable (IsFreeName s) :=
  decidable_of_iff ((s ≠ "" ∧ ¬ s.toList.head?.any Char.isDigit ∧ IsWord s) ∧
      ¬ isConstantName s ∧ s ∉ keywords ∧ typeOf? s = none)
    ⟨fun ⟨⟨hne, hhead, hword⟩, hupper, hkeyword, htype⟩ =>
      ⟨⟨hne, hhead, hword⟩, hupper, hkeyword, htype⟩,
      fun h => ⟨⟨h.identifier.nonempty, h.identifier.head, h.identifier.word⟩, h.notUpper,
        h.notKeyword, h.notType⟩⟩

/-- The literals that stand in functions. -/
def Literal.InFunction : Literal → Prop
  | address _ | mask _ => True
  | count n => n < UInt64.size
  | _ => False

namespace Expression

/-- Names are free and literals are numbers of the kinds that stand in functions. -/
def Legible : Expression → Prop
  | .variable name | .call name => IsFreeName name
  | .literal value => value.InFunction
  | .callOne name argument => IsFreeName name ∧ argument.Legible
  | .callTwo name first second => IsFreeName name ∧ first.Legible ∧ second.Legible
  | .complement operand | .cast _ operand => operand.Legible
  | .binary _ left right => left.Legible ∧ right.Legible

/-- Tokens in parentheses where they are those of an operator between two expressions. -/
def grouped (inside : Bool) (tokens : List Token) : List Token :=
  if inside then .parenOpen :: (tokens ++ [.parenClose]) else tokens

/-- The tokens of the spelling. -/
def tokens : Expression → List Token
  | .variable name => [.word name]
  | .literal value => [.word value.spelling]
  | .call name => [.word name, .parenOpen, .parenClose]
  | .callOne name argument => .word name :: .parenOpen :: (argument.tokens ++ [.parenClose])
  | .callTwo name first second =>
    .word name :: .parenOpen
      :: (first.tokens ++ .comma :: (second.tokens ++ [.parenClose]))
  | .complement operand => .tilde :: grouped operand.isBinary operand.tokens
  | .cast type operand =>
    .parenOpen :: .word type.spelling :: .parenClose :: grouped operand.isBinary operand.tokens
  | .binary op left right =>
    grouped left.isBinary left.tokens ++ .operator op :: grouped right.isBinary right.tokens

end Expression

def Statement.tokens : Statement → List Token
  | .declareZero type name => [.word type.spelling, .word name, .equals, .word "0", .semicolon]
  | .orInto name value => .word name :: .orEquals :: (value.tokens ++ [.semicolon])
  | .evaluate value => value.tokens ++ [.semicolon]
  | .give value => .word "return" :: (value.tokens ++ [.semicolon])

/-- The tokens of parameters, of which there is at least one. -/
def parameterTokens : List (IntType × String) → List Token
  | [] => []
  | [(type, name)] => [.word type.spelling, .word name]
  | (type, name) :: next :: parameters =>
    .word type.spelling :: .word name :: .comma :: parameterTokens (next :: parameters)

namespace Function

def parametersTokens (f : Function) : List Token :=
  if f.parameters = [] then [.word "void"] else parameterTokens f.parameters

def headTokens (f : Function) : List Token :=
  .word "static" :: .word "inline" :: .word f.resultSpelling :: .word f.name :: .parenOpen
    :: (f.parametersTokens ++ [.parenClose, .braceOpen])

end Function

lemma IntType.isWord_spelling (t : IntType) : IsWord t.spelling := by
  cases t <;> decide

lemma IntType.spelling_ne_empty (t : IntType) : t.spelling ≠ "" := by
  cases t <;> decide

lemma isWord_of_spells {n : ℕ} (h : Spells w.toList n) : IsWord w := by
  have hall : (Numeral.digits ++ ['x', 'U', 'L']).all isWordChar = true := by decide
  exact fun c hc => List.all_eq_true.1 hall c (h.mem hc)

lemma ne_empty_of_spells {n : ℕ} (h : Spells w.toList n) : w ≠ "" := by
  rintro rfl
  exact absurd h.head (by decide)

namespace Literal

variable {l : Literal}

lemma InFunction.spells (h : l.InFunction) : ∃ n, Spells l.spelling.toList n := by
  cases l with
  | address v => exact ⟨_, spells_spelling rfl⟩
  | mask v => exact ⟨_, spells_spelling rfl⟩
  | count n => exact ⟨_, spells_spelling rfl⟩
  | _ => cases h

lemma tokensFrom_spelling (h : l.InFunction) (hrest : Stops rest) :
    tokensFrom [] (l.spelling.toList ++ rest) = .word l.spelling :: tokensFrom [] rest := by
  obtain ⟨n, hn⟩ := h.spells
  exact tokensFrom_word (isWord_of_spells hn) (ne_empty_of_spells hn) hrest

end Literal

/-! ### Expressions and statements -/

lemma IntType.tokensFrom_spelling (t : IntType) (hrest : Stops rest) :
    tokensFrom [] (t.spelling.toList ++ rest) = .word t.spelling :: tokensFrom [] rest :=
  tokensFrom_word t.isWord_spelling t.spelling_ne_empty hrest

lemma IsFreeName.tokensFrom (h : IsFreeName w) (hrest : Stops rest) :
    tokensFrom [] (w.toList ++ rest) = .word w :: tokensFrom [] rest :=
  tokensFrom_word h.identifier.word h.identifier.nonempty hrest

namespace Expression

variable {e : Expression}

/-- Parentheses around a text are parentheses around its tokens. -/
lemma tokensFrom_parenthesized {inside : Bool} {text : String} {ts : List Token}
    (h : ∀ rest, Stops rest →
      tokensFrom [] (text.toList ++ rest) = ts ++ tokensFrom [] rest) (hrest : Stops rest) :
    tokensFrom [] ((parenthesized inside text).toList ++ rest)
      = grouped inside ts ++ tokensFrom [] rest := by
  cases inside with
  | false => exact h rest hrest
  | true => simp [parenthesized, grouped, h _ (stops_parenClose rest)]

/-- **The text of an expression has its tokens.** -/
theorem tokensFrom_spelling (h : e.Legible) (hrest : Stops rest) :
    tokensFrom [] (e.spelling.toList ++ rest) = e.tokens ++ tokensFrom [] rest := by
  induction e generalizing rest with
  | «variable» name => exact IsFreeName.tokensFrom h hrest
  | literal value => exact Literal.tokensFrom_spelling h hrest
  | call name => simp [spelling, tokens, IsFreeName.tokensFrom h (stops_parenOpen _)]
  | callOne name argument ih =>
    simp [spelling, tokens, h.1.tokensFrom (stops_parenOpen _), ih h.2 (stops_parenClose _)]
  | callTwo name first second ih₁ ih₂ =>
    simp [spelling, tokens, h.1.tokensFrom (stops_parenOpen _), ih₁ h.2.1 (stops_comma _),
      ih₂ h.2.2 (stops_parenClose _)]
  | complement operand ih =>
    simp [spelling, tokens, tokensFrom_parenthesized (fun _ => ih h) hrest]
  | cast type operand ih =>
    simp [spelling, tokens, type.tokensFrom_spelling (stops_parenClose _),
      tokensFrom_parenthesized (fun _ => ih h) hrest]
  | binary op left right ih₁ ih₂ =>
    simp [spelling, tokens, tokensFrom_parenthesized (fun _ => ih₁ h.1) (stops_space _),
      tokensFrom_parenthesized (fun _ => ih₂ h.2) hrest]

end Expression

def Expression.isCall : Expression → Bool
  | .call .. | .callOne .. | .callTwo .. => true
  | _ => false

/-- The expressions of a statement are legible, and its variables are free names. Only calls stand
for themselves. -/
def Statement.Legible : Statement → Prop
  | .declareZero _ name => IsFreeName name
  | .orInto name value => IsFreeName name ∧ value.Legible
  | .evaluate value => value.isCall ∧ value.Legible
  | .give value => value.Legible

/-- **The line of a statement has its tokens.** -/
theorem Statement.tokens_line {s : Statement} (h : s.Legible) :
    Header.tokens ("\t" ++ s.spelling) = s.tokens := by
  cases s with
  | declareZero type name =>
    have hzero : tokensFrom [] ['0', ';'] = [.word "0", .semicolon] := rfl
    simp [Header.tokens, spelling, tokens, type.tokensFrom_spelling (stops_space _),
      IsFreeName.tokensFrom h (stops_space _), hzero]
  | orInto name value =>
    simp [Header.tokens, spelling, tokens, h.1.tokensFrom (stops_space _),
      value.tokensFrom_spelling h.2 (stops_semicolon _)]
  | evaluate value =>
    simp [Header.tokens, spelling, tokens, value.tokensFrom_spelling h.2 (stops_semicolon _)]
  | give value =>
    have hreturn (cs : List Char) := tokensFrom_word (by decide : IsWord "return") (by decide)
      (stops_space cs)
    simpa [Header.tokens, spelling, tokens, value.tokensFrom_spelling h (stops_semicolon _)]
      using hreturn (value.spelling.toList ++ [';'])

namespace Function

variable {f : Function}

/-- What the parts of a function keep to, so that its lines are read as they are meant. -/
structure Legible (f : Function) : Prop where
  name : IsFreeName f.name
  parameters : ∀ p ∈ f.parameters, IsFreeName p.2
  body : ∀ s ∈ f.body, s.Legible

lemma tokensFrom_parameters {parameters : List (IntType × String)} (hne : parameters ≠ [])
    (h : ∀ p ∈ parameters, IsFreeName p.2) (hrest : Stops rest) :
    tokensFrom [] ((", ".intercalate
        (parameters.map fun (type, name) => type.spelling ++ " " ++ name)).toList ++ rest)
      = parameterTokens parameters ++ tokensFrom [] rest := by
  induction parameters with
  | nil => exact absurd rfl hne
  | cons p parameters ih =>
    obtain ⟨type, name⟩ := p
    have hname : IsFreeName name := h (type, name) (by simp)
    cases parameters with
    | nil =>
      simp [parameterTokens, type.tokensFrom_spelling (stops_space _), hname.tokensFrom hrest]
    | cons next parameters =>
      have ih := ih (by simp) fun p hp => h p (by simp [hp])
      rw [List.map_cons] at ih
      rw [List.map_cons, List.map_cons, String.intercalate_cons_cons]
      generalize ", ".intercalate _ = later at ih ⊢
      simp [parameterTokens, type.tokensFrom_spelling (stops_space _),
        hname.tokensFrom (stops_comma _), ih]

lemma tokensFrom_parametersSpelling (h : f.Legible) (hrest : Stops rest) :
    tokensFrom [] (f.parametersSpelling.toList ++ rest)
      = f.parametersTokens ++ tokensFrom [] rest := by
  unfold parametersSpelling parametersTokens
  split
  · rename_i heq
    rw [if_pos heq]
    exact tokensFrom_word (by decide) (by decide) hrest
  · rename_i hne
    rw [if_neg hne]
    exact tokensFrom_parameters hne h.parameters hrest

lemma tokensFrom_resultSpelling (hrest : Stops rest) :
    tokensFrom [] (f.resultSpelling.toList ++ rest)
      = .word f.resultSpelling :: tokensFrom [] rest := by
  unfold resultSpelling
  split
  · exact IntType.tokensFrom_spelling _ hrest
  · exact tokensFrom_word (by decide) (by decide) hrest

/-- **The first line of a function has the tokens of its head.** -/
theorem tokens_head (h : f.Legible) :
    Header.tokens ("static inline " ++ f.resultSpelling ++ " " ++ f.name ++ "("
      ++ f.parametersSpelling ++ ") \x7b") = f.headTokens := by
  have hfront (cs : List Char) : tokensFrom [] ("static inline ".toList ++ cs)
      = .word "static" :: .word "inline" :: tokensFrom [] cs := rfl
  have hall := hfront (f.resultSpelling.toList ++ ' ' :: (f.name.toList
    ++ '(' :: (f.parametersSpelling.toList ++ [')', ' ', '\x7b'])))
  rw [tokensFrom_resultSpelling (stops_space _), tokensFrom_space,
    h.name.tokensFrom (stops_parenOpen _), tokensFrom_parenOpen,
    tokensFrom_parametersSpelling h (stops_parenClose _)] at hall
  simpa [Header.tokens, headTokens] using hall

end Function

/-! ### Words in upper case -/

variable {s : String}

lemma ne_of_isConstantName (hs : isConstantName s) (hw : ¬ isConstantName w) : s ≠ w :=
  fun heq => hw (heq ▸ hs)

/-- A literal starts with a digit. -/
lemma Literal.InFunction.not_constantName {l : Literal} (h : l.InFunction) :
    ¬ isConstantName l.spelling := by
  intro hupper
  obtain ⟨n, hn⟩ := h.spells
  exact (isConstantName_iff.1 hupper).1.head hn.head

lemma IntType.not_constantName (t : IntType) : ¬ isConstantName t.spelling := by
  cases t <;> decide

lemma Expression.notMem_tokens {e : Expression} (h : e.Legible) (hs : isConstantName s) :
    .word s ∉ e.tokens := by
  have hgrouped (inside : Bool) (ts : List Token) :
      .word s ∈ grouped inside ts ↔ .word s ∈ ts := by
    cases inside <;> simp [grouped]
  induction e with
  | «variable» name | call name => simp [tokens, ne_of_isConstantName hs (IsFreeName.notUpper h)]
  | literal value =>
    simp [tokens, ne_of_isConstantName hs (Literal.InFunction.not_constantName h)]
  | callOne name argument ih => simp [tokens, ne_of_isConstantName hs h.1.notUpper, ih h.2]
  | callTwo name first second ih₁ ih₂ =>
    simp [tokens, ne_of_isConstantName hs h.1.notUpper, ih₁ h.2.1, ih₂ h.2.2]
  | complement operand ih => simp [tokens, hgrouped, ih h]
  | cast type operand ih =>
    simp [tokens, hgrouped, ne_of_isConstantName hs type.not_constantName, ih h]
  | binary op left right ih₁ ih₂ => simp [tokens, hgrouped, ih₁ h.1, ih₂ h.2]

lemma Statement.notMem_tokens {st : Statement} (h : st.Legible) (hs : isConstantName s) :
    .word s ∉ st.tokens := by
  cases st with
  | declareZero type name =>
    simp [tokens, ne_of_isConstantName hs type.not_constantName,
      ne_of_isConstantName hs (IsFreeName.notUpper h),
      ne_of_isConstantName hs (by decide : ¬ isConstantName "0")]
  | orInto name value =>
    simp [tokens, ne_of_isConstantName hs h.1.notUpper, Expression.notMem_tokens h.2 hs]
  | evaluate value => simp [tokens, Expression.notMem_tokens h.2 hs]
  | give value =>
    simp [tokens, ne_of_isConstantName hs (by decide : ¬ isConstantName "return"),
      Expression.notMem_tokens h hs]

namespace Function

variable {f : Function}

lemma notMem_parameterTokens {parameters : List (IntType × String)}
    (h : ∀ p ∈ parameters, IsFreeName p.2) (hs : isConstantName s) :
    .word s ∉ parameterTokens parameters := by
  fun_induction parameterTokens parameters with
  | case1 => exact List.not_mem_nil
  | case2 type name =>
    have hname : IsFreeName name := h (type, name) (by simp)
    simp [ne_of_isConstantName hs type.not_constantName, ne_of_isConstantName hs hname.notUpper]
  | case3 type name next parameters ih =>
    have hname : IsFreeName name := h (type, name) (by simp)
    simp [ne_of_isConstantName hs type.not_constantName, ne_of_isConstantName hs hname.notUpper,
      ih fun p hp => h p (List.mem_cons_of_mem _ hp)]

lemma notMem_headTokens (h : f.Legible) (hs : isConstantName s) : .word s ∉ f.headTokens := by
  have hstatic : s ≠ "static" := ne_of_isConstantName hs (by decide)
  have hinline : s ≠ "inline" := ne_of_isConstantName hs (by decide)
  have hvoid : s ≠ "void" := ne_of_isConstantName hs (by decide)
  have hresult : s ≠ f.resultSpelling := by
    unfold resultSpelling
    split
    · exact ne_of_isConstantName hs (IntType.not_constantName _)
    · exact hvoid
  have hparameters : .word s ∉ f.parametersTokens := by
    unfold parametersTokens
    split
    · simp [hvoid]
    · exact notMem_parameterTokens h.parameters hs
  simp [headTokens, hstatic, hinline, hresult, ne_of_isConstantName hs h.name.notUpper,
    hparameters]

/-- **No word of a legible function is in upper case.** -/
theorem notMem_tokens_line (h : f.Legible) (hs : isConstantName s) {line : String}
    (hline : line ∈ f.lines) : .word s ∉ Header.tokens line := by
  rcases List.mem_append.1 hline with hline | hline
  · rcases List.mem_append.1 hline with hline | hline
    · rw [List.mem_singleton.1 hline, tokens_head h]
      exact notMem_headTokens h hs
    · obtain ⟨st, hst, rfl⟩ := List.mem_map.1 hline
      rw [Statement.tokens_line (h.body st hst)]
      exact Statement.notMem_tokens (h.body st hst) hs
  · have hend : Header.tokens "\x7d" = [.braceClose] := rfl
    rw [List.mem_singleton.1 hline, hend]
    simp

end Function

end CsrMap.Header
