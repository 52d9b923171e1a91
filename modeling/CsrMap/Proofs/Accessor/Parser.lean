import CsrMap.Proofs.Accessor.Tokens

/-!
Reading a function back from its tokens.

An operator between two expressions stands alone or in parentheses, so the reader needs no order
of precedence to tell what belongs together. It refuses what is written in any other way. Every
legible expression, statement and head comes back from its tokens as it is.
-/

namespace CsrMap.Header

open Numeral

/-! ### Expressions -/

/-- A literal that is spelled as headers spell it: a count in decimal, an address of type long, or
a mask. -/
def literal? (word : String) : Option Literal := do
  let amount ← number? word.toList
  let value : Literal :=
    if 'x' ∉ word.toList then .count amount.toNat
    else if 'L' ∈ word.toList ∧ 'U' ∉ word.toList then .address amount
    else .mask amount
  if value.spelling = word then some value else none

def name? (word : String) : Option String := if IsFreeName word then some word else none

/-- A literal where the word starts with a digit, and else a variable. -/
def atom? (word : String) : Option Expression :=
  if word.toList.head?.any Char.isDigit then (literal? word).map .literal
  else (name? word).map .variable

/-- A type and the end of its parentheses. -/
def castType? : List Token → Option (IntType × List Token)
  | .word w :: .parenClose :: ts => (typeOf? w).map (·, ts)
  | _ => none

/-- What takes an expression from the front of a row of tokens. -/
abbrev Reading : Type := List Token → Option (Expression × List Token)

/-- One operand, or two with an operator between them. -/
def expression? (operand : Reading) : Reading := fun ts => do
  let (left, ts) ← operand ts
  match ts with
  | .operator op :: ts => do
    let (right, ts) ← operand ts
    pure (.binary op left right, ts)
  | ts => pure (left, ts)

/-- What stands after the first argument of a call. -/
def afterFirst? (expression : Reading) (name : String) (first : Expression) : Reading
  | .parenClose :: ts => some (.callOne name first, ts)
  | .comma :: ts => do
    let (second, ts) ← expression ts
    match ts with
    | .parenClose :: ts => some (.callTwo name first second, ts)
    | _ => none
  | _ => none

/-- What stands after the name of a function and the parenthesis. -/
def callOf? (expression : Reading) (name : String) : Reading
  | .parenClose :: ts => some (.call name, ts)
  | ts => do
    let (first, ts) ← expression ts
    afterFirst? expression name first ts

/-- An operand in which operands are nested less than `depth` times. -/
def operand? : ℕ → Reading
  | 0, _ => none
  | depth + 1, .tilde :: ts => do
    let (operand, ts) ← operand? depth ts
    pure (.complement operand, ts)
  | depth + 1, .parenOpen :: ts =>
    match castType? ts with
    | some (type, ts) => do
      let (operand, ts) ← operand? depth ts
      pure (.cast type operand, ts)
    | none => do
      let (inside, ts) ← expression? (operand? depth) ts
      match ts with
      | .parenClose :: ts => pure (inside, ts)
      | _ => none
  | depth + 1, .word w :: .parenOpen :: ts => do
    let name ← name? w
    callOf? (expression? (operand? depth)) name ts
  | _ + 1, .word w :: ts => (atom? w).map (·, ts)
  | _ + 1, _ => none

variable {e left right : Expression} {w : String} {ts rest : List Token} {n : ℕ}

lemma name?_eq (h : IsFreeName w) : name? w = some w := if_pos h

lemma typeOf?_spelling (t : IntType) : typeOf? t.spelling = some t := by
  cases t <;> decide

lemma letter_notMem_digits {c : Char} (hc : c = 'x' ∨ c = 'U' ∨ c = 'L') : c ∉ digits := by
  rcases hc with rfl | rfl | rfl <;> decide

/-- No letter of a type stands in a hexadecimal numeral. -/
lemma letter_notMem_hex {c : Char} (hc : c = 'U' ∨ c = 'L') (k n : ℕ) :
    c ∉ ['0', 'x'] ++ (List.replicate k '0' ++ Nat.toDigits 16 n) := by
  intro hmem
  rcases List.mem_append.1 hmem with hmem | hmem
  · rcases hc with rfl | rfl <;> simp at hmem
  · exact letter_notMem_digits (.inr hc) (mem_digits_of_mem_hex hmem)

/-- **A literal is known from its spelling.** -/
theorem literal?_spelling {l : Literal} (h : l.InFunction) : literal? l.spelling = some l := by
  have hread {k : ℕ} (hk : l.amount? = some k) : number? l.spelling.toList = toWord? k :=
    (Literal.spells_spelling hk).number?
  cases l with
  | address v =>
    obtain ⟨k, hwide⟩ := toList_padLeft (c := '0') 8 (hex v.toNat)
    have hspelling : (Literal.address v).spelling.toList
        = (['0', 'x'] ++ (List.replicate k '0' ++ Nat.toDigits 16 v.toNat)) ++ ['L'] := by
      simp [Literal.spelling, markedWide, hwide]
    have hx : 'x' ∈ (Literal.address v).spelling.toList := by simp [hspelling]
    have hlong : 'L' ∈ (Literal.address v).spelling.toList := by simp [hspelling]
    have hsigned : 'U' ∉ (Literal.address v).spelling.toList := by
      rw [hspelling, List.mem_append, not_or]
      exact ⟨letter_notMem_hex (.inl rfl) k _, by decide⟩
    simp [literal?, hread rfl, hx, hlong, hsigned]
  | mask v =>
    have hmarked : (marked v.toNat).toList
        = ['0', 'x'] ++ (List.replicate 0 '0' ++ Nat.toDigits 16 v.toNat) := by
      simp [marked]
    have hx : 'x' ∈ (Literal.mask v).spelling.toList := by
      rw [Literal.spelling]
      split <;> simp [hmarked]
    have hkind : ¬ ('L' ∈ (Literal.mask v).spelling.toList ∧
        'U' ∉ (Literal.mask v).spelling.toList) := by
      rw [Literal.spelling]
      split
      · rw [hmarked]
        exact fun hboth => letter_notMem_hex (.inr rfl) 0 _ hboth.1
      · simp
    simp [literal?, hread rfl, hx, hkind]
  | count k =>
    have hx : 'x' ∉ (Literal.count k).spelling.toList := by
      rw [Literal.spelling, toList_decimal]
      exact fun hmem => letter_notMem_digits (.inl rfl) (mem_digits_of_mem_decimal hmem)
    have hlt : k < UInt64.size := h
    have hword : toWord? k = some k.toUInt64 := if_pos hlt
    simp [literal?, hread rfl, hx, hword, Nat.mod_eq_of_lt hlt]
  | _ => cases h

lemma atom?_literal {l : Literal} (h : l.InFunction) :
    atom? l.spelling = some (.literal l) := by
  obtain ⟨k, hk⟩ := h.spells
  rw [atom?, if_pos hk.head, literal?_spelling h, Option.map_some]

lemma atom?_variable (h : IsFreeName w) : atom? w = some (.variable w) := by
  rw [atom?, if_neg h.identifier.head, name?_eq h, Option.map_some]

/-- No expression goes on with these tokens. -/
def Closed (ts : List Token) : Prop :=
  ts.head? ≠ some .parenOpen ∧ ∀ op, ts.head? ≠ some (.operator op)

namespace Expression

/-- The reader takes the tokens of the expression for the expression. -/
structure IsRead (e : Expression) : Prop where
  expression : ∀ n rest, e.tokens.length ≤ n → Closed rest →
    expression? (operand? n) (e.tokens ++ rest) = some (e, rest)
  operand : ∀ n rest, (grouped e.isBinary e.tokens).length ≤ n → rest.head? ≠ some .parenOpen →
    operand? n (grouped e.isBinary e.tokens ++ rest) = some (e, rest)

/-- Tokens of an expression do not end the arguments of a call. -/
lemma exists_cons_tokens (e : Expression) : ∃ t ts, e.tokens = t :: ts ∧ t ≠ .parenClose := by
  induction e with
  | binary op left right ih₁ ih₂ =>
    obtain ⟨t, ts, heq, hne⟩ := ih₁
    cases hleft : left.isBinary with
    | false => exact ⟨t, _, by rw [tokens, hleft, heq]; rfl, hne⟩
    | true => exact ⟨.parenOpen, _, by rw [tokens, hleft]; rfl, by simp⟩
  | _ => exact ⟨_, _, rfl, by simp⟩

/-- An operand alone is an expression. -/
lemma IsRead.of_operand (he : e.isBinary = false)
    (h : ∀ n rest, e.tokens.length ≤ n + 1 → rest.head? ≠ some .parenOpen →
      operand? (n + 1) (e.tokens ++ rest) = some (e, rest)) : e.IsRead := by
  have hoperand (n : ℕ) (rest : List Token) (hn : e.tokens.length ≤ n)
      (hrest : rest.head? ≠ some .parenOpen) :
      operand? n (e.tokens ++ rest) = some (e, rest) := by
    obtain ⟨t, ts, heq, -⟩ := e.exists_cons_tokens
    cases n with
    | zero => simp [heq] at hn
    | succ n => exact h n rest hn hrest
  have hgrouped : grouped e.isBinary e.tokens = e.tokens := by rw [he]; rfl
  refine ⟨fun n rest hn hrest => ?_, fun n rest hn hrest => ?_⟩
  · rw [expression?, hoperand n rest hn hrest.1]
    cases rest with
    | nil => rfl
    | cons t rest =>
      cases t with
      | operator op => exact absurd rfl (hrest.2 op)
      | _ => rfl
  · rw [hgrouped] at hn ⊢
    exact hoperand n rest hn hrest

/-- No type stands alone at the front of an operand. -/
lemma castType?_grouped (e : Expression) (op : BinaryOp) (rest : List Token) :
    castType? (grouped e.isBinary e.tokens ++ .operator op :: rest) = none := by
  cases e <;> rfl

/-- Two operands with an operator between them are read where each of them is. -/
lemma IsRead.binary {op : BinaryOp} (hl : left.IsRead) (hr : right.IsRead) :
    (Expression.binary op left right).IsRead := by
  have hexpression (n : ℕ) (rest : List Token) (hn : (tokens (.binary op left right)).length ≤ n)
      (hrest : rest.head? ≠ some .parenOpen) :
      expression? (operand? n) (tokens (.binary op left right) ++ rest)
        = some (.binary op left right, rest) := by
    simp only [tokens, List.length_append, List.length_cons] at hn
    rw [tokens, List.append_assoc, List.cons_append, expression?,
      hl.operand n _ (by omega) (by simp)]
    simp only [Option.bind_eq_bind, Option.bind_some, hr.operand n rest (by omega) hrest]
    rfl
  refine ⟨fun n rest hn hrest => hexpression n rest hn hrest.1, fun n rest hn hrest => ?_⟩
  simp only [isBinary, grouped, if_true, List.length_cons, List.length_append] at hn ⊢
  obtain ⟨n, rfl⟩ : ∃ m, n = m + 1 := ⟨n - 1, by omega⟩
  have hcast : castType? (tokens (.binary op left right) ++ ([.parenClose] ++ rest)) = none := by
    rw [tokens, List.append_assoc, List.cons_append]
    exact castType?_grouped _ _ _
  rw [List.cons_append, List.append_assoc, operand?, hcast,
    hexpression n _ (by omega) (by simp)]
  rfl

lemma operand?_word (hrest : rest.head? ≠ some .parenOpen) :
    operand? (n + 1) (.word w :: rest) = (atom? w).map (·, rest) := by
  cases rest with
  | nil => rfl
  | cons t rest =>
    cases t with
    | parenOpen => exact absurd rfl hrest
    | _ => rfl

lemma operand?_call (h : IsFreeName w) (ts : List Token) :
    operand? (n + 1) (.word w :: .parenOpen :: ts)
      = callOf? (expression? (operand? n)) w ts := by
  rw [operand?, name?_eq h]
  rfl

/-- The first argument of a call is read before anything else. -/
lemma callOf?_append {expression : Reading} (e : Expression)
    (h : expression (e.tokens ++ rest) = some (e, rest)) :
    callOf? expression w (e.tokens ++ rest) = afterFirst? expression w e rest := by
  obtain ⟨t, ts, heq, hne⟩ := e.exists_cons_tokens
  rw [heq, List.cons_append] at h ⊢
  cases t with
  | parenClose => exact absurd rfl hne
  | _ =>
    rw [callOf?, h]
    · rfl
    · simp

/-- **A legible expression comes back from its tokens.** -/
theorem isRead (h : e.Legible) : e.IsRead := by
  induction e with
  | «variable» name =>
    refine IsRead.of_operand rfl fun n rest hn hrest => ?_
    simp only [tokens, List.length_singleton] at hn ⊢
    rw [List.singleton_append, operand?_word hrest, atom?_variable h, Option.map_some]
  | literal value =>
    refine IsRead.of_operand rfl fun n rest hn hrest => ?_
    simp only [tokens, List.length_singleton] at hn ⊢
    rw [List.singleton_append, operand?_word hrest, atom?_literal h, Option.map_some]
  | call name =>
    refine IsRead.of_operand rfl fun n rest hn hrest => ?_
    simp only [tokens, List.length_cons] at hn ⊢
    exact operand?_call h _
  | callOne name argument ih =>
    refine IsRead.of_operand rfl fun n rest hn hrest => ?_
    simp only [tokens, List.length_cons, List.length_append] at hn ⊢
    have hargument := (ih h.2).expression n (.parenClose :: rest) (by omega) (by simp [Closed])
    simp only [List.cons_append, List.append_assoc, List.nil_append, operand?_call h.1,
      callOf?_append argument hargument]
    rfl
  | callTwo name first second ih₁ ih₂ =>
    refine IsRead.of_operand rfl fun n rest hn hrest => ?_
    simp only [tokens, List.length_cons, List.length_append] at hn ⊢
    have hsecond := (ih₂ h.2.2).expression n (.parenClose :: rest) (by omega) (by simp [Closed])
    have hfirst := (ih₁ h.2.1).expression n
      (.comma :: (second.tokens ++ .parenClose :: rest)) (by omega) (by simp [Closed])
    simp only [List.cons_append, List.append_assoc, List.nil_append, operand?_call h.1,
      callOf?_append first hfirst, afterFirst?, hsecond, Option.bind_eq_bind, Option.bind_some]
  | complement operand ih =>
    refine IsRead.of_operand rfl fun n rest hn hrest => ?_
    simp only [tokens, List.length_cons] at hn ⊢
    rw [List.cons_append, operand?, (ih h).operand n rest (by omega) hrest]
    rfl
  | cast type operand ih =>
    refine IsRead.of_operand rfl fun n rest hn hrest => ?_
    simp only [tokens, List.length_cons] at hn ⊢
    have hcast (ts : List Token) :
        castType? (.word type.spelling :: .parenClose :: ts) = some (type, ts) := by
      rw [castType?, typeOf?_spelling, Option.map_some]
    simp only [List.cons_append, operand?, hcast, (ih h).operand n rest (by omega) hrest]
    rfl
  | binary op left right ih₁ ih₂ => exact IsRead.binary (ih₁ h.1) (ih₂ h.2)

end Expression

/-! ### Statements -/

/-- An expression up to a semicolon, and nothing after it. -/
def whole? (ts : List Token) : Option Expression := do
  let (value, rest) ← expression? (operand? ts.length) ts
  if rest = [.semicolon] then some value else none

/-- What stands after the type of a declaration. -/
def declaration? (type : IntType) : List Token → Option Statement
  | [.word name, .equals, .word start, .semicolon] =>
    if start = "0" then (name? name).map (.declareZero type) else none
  | _ => none

def statement? (ts : List Token) : Option Statement :=
  match ts with
  | .word first :: rest =>
    if first = "return" then (whole? rest).map .give
    else
      match typeOf? first with
      | some type => declaration? type rest
      | none =>
        match rest with
        | .orEquals :: rest => do
          let name ← name? first
          (whole? rest).map (.orInto name)
        | _ => (whole? ts).map .evaluate
  | _ => none

lemma whole?_tokens (h : e.Legible) : whole? (e.tokens ++ [.semicolon]) = some e := by
  have hread := (Expression.isRead h).expression (e.tokens ++ [Token.semicolon]).length
    [.semicolon]
    (by simp) (by simp [Closed])
  rw [whole?, hread]
  rfl

/-- The first word of a call is a free name, and no assignment follows it. -/
lemma Expression.exists_tokens_of_isCall (hcall : e.isCall) (h : e.Legible) :
    ∃ name ts, e.tokens = .word name :: .parenOpen :: ts ∧ IsFreeName name := by
  cases e with
  | call name => exact ⟨name, _, rfl, h⟩
  | callOne name argument => exact ⟨name, _, rfl, h.1⟩
  | callTwo name first second => exact ⟨name, _, rfl, h.1⟩
  | _ => cases hcall

lemma IsFreeName.ne_return (h : IsFreeName w) : w ≠ "return" := by
  rintro rfl
  exact h.notKeyword (by decide)

/-- **A legible statement comes back from its tokens.** -/
theorem statement?_tokens {s : Statement} (h : s.Legible) : statement? s.tokens = some s := by
  cases s with
  | declareZero type name =>
    have hne : type.spelling ≠ "return" := by cases type <;> decide
    simp [Statement.tokens, statement?, hne, typeOf?_spelling, declaration?, name?_eq h]
  | orInto name value =>
    simp [Statement.tokens, statement?, h.1.ne_return, h.1.notType, name?_eq h.1, whole?_tokens h.2]
  | evaluate value =>
    obtain ⟨name, ts, htokens, hname⟩ := value.exists_tokens_of_isCall h.1 h.2
    have hwhole := whole?_tokens h.2
    rw [htokens, List.cons_append, List.cons_append] at hwhole
    simp [Statement.tokens, htokens, statement?, hname.ne_return, hname.notType, hwhole]
  | give value => simp [Statement.tokens, statement?, whole?_tokens h]

/-! ### Heads -/

def result? (word : String) : Option (Option IntType) :=
  if word = "void" then some none else (typeOf? word).map some

/-- Parameters up to the opening brace of the body; there is at least one. -/
def parametersFrom? : List Token → Option (List (IntType × String))
  | .word type :: .word name :: .comma :: ts => do
    let first := (← typeOf? type, ← name? name)
    let later ← parametersFrom? ts
    pure (first :: later)
  | [.word type, .word name, .parenClose, .braceOpen] => do
    pure [(← typeOf? type, ← name? name)]
  | _ => none

def parameters? : List Token → Option (List (IntType × String))
  | [.word word, .parenClose, .braceOpen] => if word = "void" then some [] else none
  | ts => parametersFrom? ts

/-- The first line of a function, as the function with nothing in its body. -/
def head? : List Token → Option Function
  | .word specifier :: .word hint :: .word result :: .word name :: .parenOpen :: ts => do
    let result ← result? result
    let name ← name? name
    let parameters ← parameters? ts
    if specifier = "static" ∧ hint = "inline" then some ⟨result, name, parameters, []⟩ else none
  | _ => none

namespace Function

variable {f : Function}

lemma result?_resultSpelling (f : Function) : result? f.resultSpelling = some f.result := by
  unfold resultSpelling
  split
  · rename_i type heq
    have hne : type.spelling ≠ "void" := by cases type <;> decide
    rw [result?, if_neg hne, typeOf?_spelling, heq, Option.map_some]
  · rename_i heq
    rw [heq]
    rfl

lemma parametersFrom?_parameterTokens {parameters : List (IntType × String)}
    (hne : parameters ≠ []) (h : ∀ p ∈ parameters, IsFreeName p.2) :
    parametersFrom? (parameterTokens parameters ++ [.parenClose, .braceOpen])
      = some parameters := by
  induction parameters with
  | nil => exact absurd rfl hne
  | cons p parameters ih =>
    obtain ⟨type, name⟩ := p
    have hname : IsFreeName name := h (type, name) (by simp)
    cases parameters with
    | nil => simp [parameterTokens, parametersFrom?, typeOf?_spelling, name?_eq hname]
    | cons next parameters =>
      have ih := ih (by simp) fun p hp => h p (by simp [hp])
      simp [parameterTokens, parametersFrom?, typeOf?_spelling, name?_eq hname, ih]

lemma parameters?_parametersTokens (h : f.Legible) :
    parameters? (f.parametersTokens ++ [.parenClose, .braceOpen]) = some f.parameters := by
  unfold parametersTokens
  split
  · rename_i heq
    rw [heq]
    rfl
  · rename_i hne
    have hread := parametersFrom?_parameterTokens hne h.parameters
    cases hparameters : f.parameters with
    | nil => exact absurd hparameters hne
    | cons p parameters =>
      rw [hparameters] at hread
      cases parameters with
      | nil => exact hread
      | cons next parameters => exact hread

/-- **The head of a legible function comes back from its tokens.** -/
theorem head?_headTokens (h : f.Legible) : head? f.headTokens = some { f with body := [] } := by
  simp [headTokens, head?, result?_resultSpelling, name?_eq h.name, parameters?_parametersTokens h]

end Function

end CsrMap.Header
