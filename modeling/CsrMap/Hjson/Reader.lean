import CsrMap.Hjson.Number
import CsrMap.Text.Blank

/-!
The reader of the Hjson notation.

A text is first read as the members of an object without braces, which must fill the text, and
where that fails as a single value with blanks around it. A quoteless string runs to the end of
its line, also through brackets and comment signs; a word or number needs one of these, or the end
of its line, after it. The null character ends a line; it may stand in quoted strings and in
comments, but not between values.
-/

namespace CsrMap.Hjson

/-! ## Blanks -/

/-- What the reader stands in while it looks for the end of blanks. -/
inductive Comment where
  | outside
  | line
  | block

/-- Spacing and comments at the front are dropped; a solidus that ends the input is refused. -/
def dropBlanks : Comment → List Char → Option (List Char)
  | .outside, '#' :: rest => dropBlanks .line rest
  | .outside, '/' :: '/' :: rest => dropBlanks .line rest
  | .outside, '/' :: '*' :: rest => dropBlanks .block rest
  | .outside, ['/'] => none
  | .outside, c :: rest => if isSpacing c then dropBlanks .outside rest else some (c :: rest)
  | .line, '\n' :: rest => dropBlanks .outside rest
  | .line, _ :: rest => dropBlanks .line rest
  | .block, '*' :: '/' :: rest => dropBlanks .outside rest
  | .block, _ :: rest => dropBlanks .block rest
  | _, [] => some []

def blanks (cs : List Char) : Option (List Char) := dropBlanks .outside cs

/-! ## Quoted strings -/

def hexDigit? (c : Char) : Option Nat :=
  if c.isDigit then some (c.toNat - '0'.toNat)
  else if 'a' ≤ c ∧ c ≤ 'f' then some (c.toNat - 'a'.toNat + 10)
  else if 'A' ≤ c ∧ c ≤ 'F' then some (c.toNat - 'A'.toNat + 10)
  else none

/-- The four hexadecimal digits at the front. -/
def codeUnit? : List Char → Option (Nat × List Char)
  | a :: b :: c :: d :: rest => do
    let digits ← [a, b, c, d].mapM hexDigit?
    pure (digits.foldl (fun n digit => 16 * n + digit) 0, rest)
  | _ => none

def isHighUnit (n : Nat) : Bool := 0xd800 ≤ n && n < 0xdc00

def isLowUnit (n : Nat) : Bool := 0xdc00 ≤ n && n < 0xe000

/-- The character of a code unit escape, which may take a pair of them. -/
def unicodeEscape? (cs : List Char) : Option (Char × List Char) := do
  let (first, rest) ← codeUnit? cs
  if isHighUnit first then
    match rest with
    | '\\' :: 'u' :: rest =>
      let (second, rest) ← codeUnit? rest
      if isLowUnit second then
        some (Char.ofNat (0x10000 + (first - 0xd800) * 0x400 + (second - 0xdc00)), rest)
      else none
    | _ => none
  else if isLowUnit first then none
  else some (Char.ofNat first, rest)

def simpleEscape? : Char → Option Char
  | '"' => some '"'
  | '\\' => some '\\'
  | '/' => some '/'
  | 'b' => some '\x08'
  | 'f' => some '\x0c'
  | 'n' => some '\n'
  | 'r' => some '\r'
  | 't' => some '\t'
  | _ => none

theorem codeUnit?_length {cs rest : List Char} {n : Nat} (h : codeUnit? cs = some (n, rest)) :
    rest.length < cs.length := by
  match cs, h with
  | a :: b :: c :: d :: r, h =>
    simp only [codeUnit?, Option.bind_eq_bind, Option.bind_eq_some_iff, Option.pure_def,
      Option.some.injEq, Prod.mk.injEq] at h
    obtain ⟨_, _, _, _, _, _, _, _, _, rfl⟩ := h
    simp only [List.length_cons]
    omega

theorem unicodeEscape?_length {cs rest : List Char} {c : Char}
    (h : unicodeEscape? cs = some (c, rest)) : rest.length < cs.length := by
  unfold unicodeEscape? at h
  cases hf : codeUnit? cs with
  | none => simp [hf] at h
  | some p =>
    obtain ⟨first, mid⟩ := p
    have hm := codeUnit?_length hf
    simp only [hf, Option.bind_eq_bind, Option.bind_some] at h
    split at h
    · split at h
      · rename_i tail
        cases hs : codeUnit? tail with
        | none => simp [hs] at h
        | some q =>
          have ht := codeUnit?_length hs
          simp only [hs, Option.bind_some] at h
          split at h
          · simp only [Option.some.injEq, Prod.mk.injEq] at h
            obtain ⟨_, rfl⟩ := h
            simp only [List.length_cons] at hm
            omega
          · simp at h
      · simp at h
    · split at h
      · simp at h
      · simp only [Option.some.injEq, Prod.mk.injEq] at h
        obtain ⟨_, rfl⟩ := h
        exact hm

/-- The characters up to the closing quote, and what follows it. -/
def quotedRest (cs : List Char) : Option (List Char × List Char) :=
  match cs with
  | [] => none
  | '"' :: rest => some ([], rest)
  | '\\' :: 'u' :: rest =>
    match _h : unicodeEscape? rest with
    | none => none
    | some (c, rest') => (quotedRest rest').map fun (s, rest) => (c :: s, rest)
  | '\\' :: c :: rest =>
    match simpleEscape? c with
    | none => none
    | some c => (quotedRest rest).map fun (s, rest) => (c :: s, rest)
  | ['\\'] => none
  | c :: rest => (quotedRest rest).map fun (s, rest) => (c :: s, rest)
termination_by cs.length
decreasing_by
  · have := unicodeEscape?_length _h
    simp only [List.length_cons]
    omega
  · simp only [List.length_cons]
    omega
  · simp

/-! ## Strings over several lines -/

/-- The number of bytes between the start of the line and `rest`, a final part of `text`. -/
def column (text rest : List Char) : Nat :=
  let consumed := text.take (text.length - rest.length)
  (consumed.reverse.takeWhile (· ≠ '\n')).foldl (fun bytes c => bytes + c.utf8Size) 0

def isMargin (c : Char) : Bool := c == ' ' || c == '\t' || c == '\r'

/-- At most `count` characters of margin at the front are dropped. -/
def dropMargin : Nat → List Char → List Char
  | count + 1, c :: rest => if isMargin c then dropMargin count rest else c :: rest
  | _, cs => cs

theorem dropMargin_length (count : Nat) (cs : List Char) :
    (dropMargin count cs).length ≤ cs.length := by
  fun_induction dropMargin count cs with
  | case1 count c rest h ih => simp only [List.length_cons]; omega
  | case2 => exact Nat.le_refl _
  | case3 => exact Nat.le_refl _

/--
The characters up to three quotes in a row, and what follows them. `held` counts the quotes just
read, which belong to the string unless they come to three. After each line feed a margin is
dropped.
-/
def blockRest (margin held : Nat) (cs : List Char) : Option (List Char × List Char) :=
  match cs with
  | [] => none
  | '\'' :: rest =>
    if held = 2 then some ([], rest) else blockRest margin (held + 1) rest
  | '\n' :: rest =>
    (blockRest margin 0 (dropMargin margin rest)).map fun (s, rest) =>
      (List.replicate held '\'' ++ '\n' :: s, rest)
  | c :: rest =>
    (blockRest margin 0 rest).map fun (s, rest) =>
      (List.replicate held '\'' ++ (if c == '\r' then s else c :: s), rest)
termination_by cs.length
decreasing_by
  · simp
  · have := dropMargin_length margin rest
    simp only [List.length_cons]
    omega
  · simp

/-- Without the line feed that may end it. -/
def dropFinalFeed (cs : List Char) : List Char :=
  if cs.getLast? = some '\n' then cs.dropLast else cs

/-- The string after three opening quotes; the third one stands in column `column` of its line. -/
def blockString? (column : Nat) (cs : List Char) : Option (String × List Char) := do
  let margin := column - 4 + 1
  let body :=
    match cs.dropWhile isMargin with
    | '\n' :: rest => dropMargin margin rest
    | rest => rest
  let (s, rest) ← blockRest margin 0 body
  some (String.ofList (dropFinalFeed s), rest)

/-! ## Quoteless values -/

/-- The value of a word or a number that stands without quotes. -/
def word? (cs : List Char) : Option Value :=
  let trimmed := Text.dropBlanks cs
  match cs with
  | 't' :: _ => if trimmed = "true".toList then some (.bool true) else none
  | 'f' :: _ => if trimmed = "false".toList then some (.bool false) else none
  | 'n' :: _ => if trimmed = "null".toList then some .null else none
  | c :: _ => if c = '-' ∨ c.isDigit then number? cs else none
  | [] => none

def endsLine (c : Char) : Bool := c == '\n' || c == '\r' || c == '\x00'

/-- A word or a number ends before this character. -/
def endsWord (c : Char) (rest : List Char) : Bool :=
  endsLine c || c == ',' || c == '}' || c == ']' || c == '#'
    || (c == '/' && (rest.head? == some '/' || rest.head? == some '*'))

/-- The characters up to one that ends a word, and the rest. -/
def splitWord : List Char → List Char × List Char
  | [] => ([], [])
  | c :: rest =>
    if endsWord c rest then ([], c :: rest)
    else
      let (front, back) := splitWord rest
      (c :: front, back)

/-- The string up to the end of the line, without blanks around it, and the next lines. -/
def lineString (cs : List Char) : Value × List Char :=
  let (line, rest) := cs.span fun c => !endsLine c
  (.str (String.ofList (Text.dropBlanks line)), rest.drop 1)

/-- The character that ends a word is left in place, and without one there is no word. -/
def quoteless? (text : List Char) : List Char → Option (Value × List Char)
  | '\'' :: '\'' :: '\'' :: rest =>
    (blockString? (column text rest) rest).map fun (s, rest) => (.str s, rest)
  | cs =>
    let (front, rest) := splitWord cs
    match word? front with
    | none => some (lineString cs)
    | some value => if rest.isEmpty then none else some (value, rest)

/-! ## Names of members -/

def isPunctuator (c : Char) : Bool :=
  c == '\x7b' || c == '\x7d' || c == '[' || c == ']' || c == ',' || c == ':'

/-- A name without quotes, up to its colon. Once a blank is read, only blanks may follow. -/
def quotelessName (before : List Char) (closed : Bool) : List Char → Option (String × List Char)
  | [] => none
  | c :: rest =>
    if c = ':' then
      if before.isEmpty then none else some (String.ofList before.reverse, c :: rest)
    else if c = '\x00' then none
    else if c ≤ ' ' then quotelessName before true rest
    else if isPunctuator c || closed then none
    else quotelessName (c :: before) false rest

def memberName? : List Char → Option (String × List Char)
  | '"' :: rest => (quotedRest rest).map fun (s, rest) => (String.ofList s, rest)
  | cs => quotelessName [] false cs

/-! ## Values -/

/-- The name of a member with the colon after it. -/
def memberStart? (cs : List Char) : Option (String × List Char) := do
  let (name, rest) ← memberName? cs
  match ← blanks rest with
  | ':' :: rest => some (name, rest)
  | _ => none

/-- Blanks, and one comma with more blanks. -/
def separator? (cs : List Char) : Option (List Char) := do
  match ← blanks cs with
  | ',' :: rest => blanks rest
  | rest => some rest

mutual

/-- A value after blanks. The first argument bounds the depth of the recursion. -/
def value? (text : List Char) : Nat → List Char → Option (Value × List Char)
  | 0, _ => none
  | fuel + 1, cs => do
    match ← blanks cs with
    | [] => none
    | '"' :: rest => (quotedRest rest).map fun (s, rest) => (.str (String.ofList s), rest)
    | '[' :: rest => (elements? text fuel rest).map fun (vs, rest) => (.arr vs, rest)
    | '{' :: rest => do
      let (ms, rest) ← members? text fuel false [] (← blanks rest)
      pure (.obj ms, rest)
    | c :: rest =>
      if isPunctuator c || c == '\x00' then none else quoteless? text (c :: rest)

/-- The elements of an array up to its bracket. -/
def elements? (text : List Char) : Nat → List Char → Option (List Value × List Char)
  | 0, _ => none
  | fuel + 1, cs => do
    match ← blanks cs with
    | ']' :: rest => some ([], rest)
    | cs =>
      let (v, rest) ← value? text fuel cs
      let (vs, rest) ← elements? text fuel (← separator? rest)
      pure (v :: vs, rest)

/-- The members of an object up to its brace, or up to the end of the text for one without
braces. -/
def members? (text : List Char) :
    Nat → Bool → List (String × Value) → List Char →
      Option (List (String × Value) × List Char)
  | 0, _, _, _ => none
  | fuel + 1, bare, before, cs =>
    match cs with
    | [] => if bare then some (before, []) else none
    | '}' :: rest => if bare then none else some (before, rest)
    | cs => do
      let (name, rest) ← memberStart? cs
      let (v, rest) ← value? text fuel rest
      members? text fuel bare (putMember name v before) (← separator? rest)

end

/-- A bound on the depth of the recursion for a text: a bracket takes two steps and an element
one. -/
def depthBound (text : List Char) : Nat := 2 * text.length + 2

/-- The members of an object without braces, which fill the text. -/
def bareObject? (text : List Char) : Option Value := do
  let start ← blanks text
  if start.isEmpty then none
  else
    let (ms, _) ← members? text (depthBound text) true [] start
    pure (.obj ms)

/-- A value with only blanks after it. -/
def singleValue? (text : List Char) : Option Value := do
  let (v, rest) ← value? text (depthBound text) text
  if (← blanks rest).isEmpty then some v else none

/-- A text that does not end with white space is read as if a line feed followed. -/
def closed (text : List Char) : List Char :=
  match text.getLast? with
  | some c => if Text.isBlank c then text else text ++ ['\n']
  | none => ['\n']

/-- The value that a text stands for. -/
def read? (text : String) : Option Value :=
  let text := closed text.toList
  bareObject? text <|> singleValue? text

end CsrMap.Hjson
