import CsrMap.Proofs.Header.Entries

/-!
Constants that are read back from the text of a header.

A reader that is told the guard only finds the last section of the text and undoes the literals in
it. A text of a constant is written with escapes, so its literal ends at its own closing mark, its
line has no break, and it is not taken for a number. A bank may be called like the section; what
stands behind its heading is not taken for constants either.
-/

namespace CsrMap

open Text

namespace Header

open Numeral

/-! ### The reader -/

/-- The characters of a string literal up to its closing mark, and what stands behind the mark. -/
def inside? : List Char → Option (List Char × List Char)
  | [] | '\n' :: _ => none
  | '"' :: rest => some ([], rest)
  | '\\' :: '"' :: cs => (inside? cs).map (.map ('"' :: ·) id)
  | '\\' :: '\\' :: cs => (inside? cs).map (.map ('\\' :: ·) id)
  | '\\' :: 'n' :: cs => (inside? cs).map (.map ('\n' :: ·) id)
  | '\\' :: _ => none
  | c :: cs => (inside? cs).map (.map (c :: ·) id)

/-- The text of a string literal, and what stands behind the literal. -/
def text? : List Char → Option (String × List Char)
  | '"' :: cs => (inside? cs).map (.map String.ofList id)
  | _ => none

/-- A number in decimal, which no zero may start but its own; `ULL` may follow. -/
def integer? (cs : List Char) : Option UInt64 :=
  let digits := cs.takeWhile Char.isDigit
  let suffix := cs.dropWhile Char.isDigit
  if (digits = ['0'] ∨ digits.head? ≠ some '0') ∧ (suffix = [] ∨ suffix = "ULL".toList) then
    readWord? 10 digits
  else none

/-- The value of a literal that ends where the characters end. -/
def payload? (cs : List Char) : Option Payload :=
  match text? cs with
  | some (s, []) => some (.str s)
  | some _ => none
  | none => (integer? cs).map .int

/-- The constant that a line defines. -/
def constant? (line : String) : Option Constant := do
  let rest ← "#define ".toList.isPrefixOf? line.toList
  let name := String.ofList (rest.takeWhile (· != ' '))
  match rest.dropWhile (· != ' ') with
  | [] => some ⟨name, .flag⟩
  | _ :: cs => (payload? cs).map (⟨name, ·⟩)

def constantsHeading : String := "/* constants */"

/-- What stands behind the last section of a header. -/
def closing (guardSymbol : String) : String :=
  unlines ["", "#endif /* ! " ++ guardSymbol ++ " */"]

/-- The constants that the text of a header defines: those of the lines after the last heading of
constants, where all of these lines define one. -/
def constantsOf (guardSymbol text : String) : List Constant :=
  let body := String.ofList (text.toList.rdrop (closing guardSymbol).toList.length)
  (((lines body).rtakeWhile (· != constantsHeading)).mapM constant?).getD []

/-! ### Literals -/

variable {cs rest : List Char} {symbol l : String} {ls more : List String} {v : UInt64}

lemma inside?_escapedChar (c : Char) (cs : List Char) :
    inside? (Literal.escapedChar c ++ cs) = (inside? cs).map (.map (c :: ·) id) := by
  unfold Literal.escapedChar
  split
  · rfl
  · rfl
  · rfl
  · rename_i hquote hslash hfeed
    rw [List.singleton_append, inside?]
    all_goals simp_all

/-- **A string literal is read as its text**, whatever stands behind it. -/
theorem text?_textSpelling (s : String) (rest : List Char) :
    text? ((Literal.textSpelling s).toList ++ rest) = some (s, rest) := by
  have hinside (cs : List Char) :
      inside? (cs.flatMap Literal.escapedChar ++ '"' :: rest) = some (cs, rest) := by
    induction cs with
    | nil => rfl
    | cons c cs ih =>
      rw [List.flatMap_cons, List.append_assoc, inside?_escapedChar, ih]
      rfl
  have hliteral : (Literal.textSpelling s).toList ++ rest
      = '"' :: (s.toList.flatMap Literal.escapedChar ++ '"' :: rest) := by
    simp [Literal.textSpelling]
  rw [hliteral, text?, hinside]
  simp

lemma integer?_decimal (hrest : rest = [] ∨ rest = "ULL".toList) :
    integer? (Nat.toDigits 10 v.toNat ++ rest) = some v := by
  have hdigits : ∀ c ∈ Nat.toDigits 10 v.toNat, c.isDigit = true :=
    fun c => Nat.isDigit_of_mem_toDigits (by decide) (by decide)
  have hstop : ∀ c, rest.head? = some c → c.isDigit = false := by
    rcases hrest with rfl | rfl
    · simp
    · rintro c hc
      cases hc
      decide
  have hfirst : Nat.toDigits 10 v.toNat = ['0'] ∨
      (Nat.toDigits 10 v.toNat).head? ≠ some '0' := by
    rcases Nat.eq_zero_or_pos v.toNat with hv | hv
    · rw [hv]
      exact .inl rfl
    · exact .inr (head?_toDigits_ne (by decide) (by decide) hv)
  obtain ⟨htake, hdrop⟩ := cut_append hdigits hstop
  simp only [integer?, htake, hdrop]
  rw [if_pos ⟨hfirst, hrest⟩, readWord?_toDigits (by decide) (by decide)]

lemma payload?_integer (v : UInt64) :
    payload? (Literal.integer v).spelling.toList = some (.int v) := by
  have hspelling : ∃ rest, (Literal.integer v).spelling.toList
      = Nat.toDigits 10 v.toNat ++ rest ∧ (rest = [] ∨ rest = "ULL".toList) := by
    rw [Literal.spelling]
    split
    · exact ⟨[], by simp, .inl rfl⟩
    · exact ⟨"ULL".toList, by simp, .inr rfl⟩
  obtain ⟨rest, hspelling, hrest⟩ := hspelling
  have htext : text? (Literal.integer v).spelling.toList = none := by
    have hhead := (Literal.spells_spelling (l := .integer v) rfl).head
    unfold text?
    split
    · rename_i heq
      rw [heq] at hhead
      cases hhead
    · rfl
  rw [payload?, htext, hspelling, integer?_decimal hrest]
  rfl

lemma payload?_text (s : String) : payload? (Literal.text s).spelling.toList = some (.str s) := by
  have htext := text?_textSpelling s []
  rw [List.append_nil] at htext
  rw [payload?, Literal.spelling, htext]

/-- An address is no value of a constant. -/
lemma payload?_address (v : UInt64) : payload? (Literal.address v).spelling.toList = none := by
  obtain ⟨k, hk⟩ := toList_padLeft (c := '0') 8 (hex v.toNat)
  have hspelling : (Literal.address v).spelling.toList
      = '0' :: 'x' :: ((padLeft 8 '0' (hex v.toNat)).toList ++ ['L']) := by
    simp [Literal.spelling, markedWide]
  rw [hspelling]
  rfl

/-! ### Lines -/

/-- The line that a constant is defined in. -/
def constantLine (c : Constant) : String :=
  match c.value with
  | .int v => "#define " ++ c.name ++ " " ++ (Literal.integer v).spelling
  | .str s => "#define " ++ c.name ++ " " ++ (Literal.text s).spelling
  | .flag => "#define " ++ c.name

lemma lines_constantItem (c : Constant) : (constantItem c).lines = [constantLine c] := by
  unfold constantItem constantLine
  cases c.value <;> rfl

lemma constant?_define (hsymbol : ' ' ∉ symbol.toList) (value : Literal) :
    constant? ("#define " ++ symbol ++ " " ++ value.spelling)
      = (payload? value.spelling.toList).map (⟨symbol, ·⟩) := by
  have hline : ("#define " ++ symbol ++ " " ++ value.spelling).toList
      = "#define ".toList ++ (symbol.toList ++ ' ' :: value.spelling.toList) := by simp
  obtain ⟨htake, hdrop⟩ := split_symbol hsymbol (' ' :: value.spelling.toList) (by simp)
  simp only [constant?, hline, isPrefixOf?_append, Option.bind_eq_bind, Option.bind_some, htake,
    hdrop, String.ofList_toList]

/-- **A constant is read from its line.** -/
theorem constant?_constantLine {c : Constant} (hname : ' ' ∉ c.name.toList) :
    constant? (constantLine c) = some c := by
  obtain ⟨name, value⟩ := c
  cases value with
  | int v =>
    rw [constantLine, constant?_define hname, payload?_integer]
    rfl
  | str s =>
    rw [constantLine, constant?_define hname, payload?_text]
    rfl
  | flag =>
    have hline : ("#define " ++ name).toList = "#define ".toList ++ (name.toList ++ []) := by simp
    obtain ⟨htake, hdrop⟩ := split_symbol hname [] (by simp)
    simp only [constantLine, constant?, hline, isPrefixOf?_append, Option.bind_eq_bind,
      Option.bind_some, htake, hdrop, String.ofList_toList]

lemma isLine_constantLine {c : Constant} (hname : IsWord c.name) : IsLine (constantLine c) := by
  have hreadable : (constantItem c).Readable := hname
  refine Item.isLine_of_mem_lines hreadable ?_
  rw [lines_constantItem]
  exact List.mem_singleton_self _

/-- A definition or a function has no comment. -/
lemma ne_constantsHeading_of_name {item : Item} (h : item.name? ≠ none) (hl : l ∈ item.lines) :
    l ≠ constantsHeading := by
  suffices hhead : l.toList.head? ≠ some '/' by
    rintro rfl
    exact hhead rfl
  cases item with
  | define symbol value =>
    cases value with
    | none =>
      rw [List.mem_singleton.1 hl]
      simp
    | some value =>
      rw [List.mem_singleton.1 hl]
      simp
  | function f =>
    simp only [Item.lines, Function.lines, List.mem_append, List.mem_singleton, List.mem_map] at hl
    rcases hl with (rfl | ⟨s, -, rfl⟩) | rfl
    · simp
    · simp
    · decide
  | _ => exact absurd rfl h

/-! ### The last section -/

/-- Behind the last heading of constants stands something else than constants. -/
def Withholds (ls : List String) : Prop :=
  ∃ l ∈ ls.rtakeWhile (· != constantsHeading), constant? l = none

lemma rtakeWhile_append (hmore : ∀ l ∈ more, l ≠ constantsHeading) :
    (ls ++ more).rtakeWhile (· != constantsHeading)
      = ls.rtakeWhile (· != constantsHeading) ++ more := by
  have hpos : ∀ l ∈ more.reverse, (l != constantsHeading) = true := by
    intro l hl
    simpa using hmore l (List.mem_reverse.1 hl)
  rw [List.rtakeWhile, List.reverse_append, List.takeWhile_append_of_pos hpos, List.reverse_append,
    List.reverse_reverse, List.rtakeWhile]

lemma rtakeWhile_heading (ls : List String) (hmore : ∀ l ∈ more, l ≠ constantsHeading) :
    (ls ++ constantsHeading :: more).rtakeWhile (· != constantsHeading) = more := by
  rw [List.append_cons, rtakeWhile_append hmore, List.rtakeWhile_concat_neg _ _ _ (by simp),
    List.nil_append]

lemma Withholds.append (h : Withholds ls) (hmore : ∀ l ∈ more, l ≠ constantsHeading) :
    Withholds (ls ++ more) := by
  obtain ⟨l, hl, hnone⟩ := h
  refine ⟨l, ?_, hnone⟩
  rw [rtakeWhile_append hmore]
  exact List.mem_append_left _ hl

lemma withholds_append (ls : List String) (hmore : ∀ l ∈ more, l ≠ constantsHeading)
    (hl : l ∈ more) (hnone : constant? l = none) : Withholds (ls ++ more) := by
  refine ⟨l, ?_, hnone⟩
  rw [rtakeWhile_append hmore]
  exact List.mem_append_right _ hl

lemma Withholds.mapM_eq_none (h : Withholds ls) :
    (ls.rtakeWhile (· != constantsHeading)).mapM constant? = none := by
  obtain ⟨l, hl, hnone⟩ := h
  obtain ⟨front, back, hsplit⟩ := List.append_of_mem hl
  rw [hsplit, List.mapM_append, List.mapM_cons, hnone]
  cases front.mapM constant? <;> rfl

/-! ### The items before the constants -/

variable {soc : Soc} {options : Options}

/-- The items of the sections before that of the constants, without the top. -/
def earlierItems (soc : Soc) (options : Options) : List Item :=
  busItems soc.bus
    ++ soc.placedBanks.flatMap (fun (bank, placed) => bankItems options bank placed)
    ++ interruptItems soc.interrupts
    ++ regionItems soc.regions

lemma name?_ne_none_of_mem_registerItems {bank : String} {r : Register} {placed : PlacedRegister}
    {item : Item} (h : item ∈ registerItems options bank r placed) : item.name? ≠ none := by
  simp only [registerItems, List.mem_append] at h
  rcases h with ((h | h) | h) | h
  · simp only [List.mem_cons, List.not_mem_nil, or_false] at h
    rcases h with rfl | rfl
    all_goals exact Option.some_ne_none _
  · split at h
    · obtain ⟨word, -, h⟩ := List.mem_flatMap.1 h
      simp only [List.mem_cons, List.not_mem_nil, or_false] at h
      rcases h with rfl | rfl | rfl
      all_goals exact Option.some_ne_none _
    · cases h
  · obtain ⟨f, -, h⟩ := List.mem_flatMap.1 h
    simp only [fieldItems, List.mem_cons, List.not_mem_nil, or_false] at h
    rcases h with rfl | rfl
    all_goals exact Option.some_ne_none _
  · split at h
    · obtain ⟨f, -, rfl⟩ := List.mem_map.1 h
      exact Option.some_ne_none _
    · cases h

/-- The item is no heading of constants: a definition, a function, or fixed in another section. -/
def Item.IsOther (item : Item) : Prop :=
  item.name? ≠ none ∨ item ∈ [.blank, .heading "interrupts", .heading "memory regions"]

lemma ne_constantsHeading {items : List Item} (h : ∀ item ∈ items, item.IsOther) :
    ∀ l ∈ items.flatMap Item.lines, l ≠ constantsHeading := by
  have hfixed : ∀ item ∈ [Item.blank, .heading "interrupts", .heading "memory regions"],
    ∀ l ∈ item.lines, l ≠ constantsHeading := by decide
  intro l hl
  obtain ⟨item, hitem, hl⟩ := List.mem_flatMap.1 hl
  rcases h item hitem with hname | hmem
  · exact ne_constantsHeading_of_name hname hl
  · exact hfixed item hmem l hl

lemma constant?_address (h : IsWord symbol) (v : UInt64) :
    constant? ("#define " ++ symbol ++ " " ++ (Literal.address v).spelling) = none := by
  rw [constant?_define h.space_notMem, payload?_address]
  rfl

/-- The section of the bus has an address. -/
lemma withholds_busItems (ls : List String) (bus : BusGeometry) :
    Withholds (ls ++ (busItems bus).flatMap Item.lines) := by
  have hother : ∀ item ∈ busItems bus, item.IsOther := by
    simp [busItems, defineTo, Item.IsOther, Item.name?]
  refine withholds_append ls (ne_constantsHeading hother) ?_
    (constant?_address (by decide : IsWord "CSR_BASE") bus.base)
  simp [busItems, defineTo, Item.lines]

/-- The section of a bank has an address behind its heading, whatever the bank is called. -/
lemma withholds_bankItems (ls : List String) {bank : Bank} (hname : isName bank.name)
    (placed : PlacedBank) :
    Withholds (ls ++ (bankItems options bank placed).flatMap Item.lines) := by
  let later : List Item :=
    [defineTo (symbolOf ["csr", bank.name, "base"]) (.address placed.base),
        defineTo (symbolOf ["csr", bank.name, "size"]) (.bankSize placed.size)]
      ++ (bank.registers.zip placed.registers).flatMap fun pair =>
        registerItems options bank.name pair.1 pair.2
  have hsplit : ls ++ (bankItems options bank placed).flatMap Item.lines
      = (ls ++ ["", "/* " ++ bank.name ++ " */"]) ++ later.flatMap Item.lines := by
    simp [later, bankItems, Item.lines]
  have hother : ∀ item ∈ later, item.IsOther := by
    intro item hitem
    left
    rcases List.mem_append.1 hitem with hitem | hitem
    · simp only [List.mem_cons, List.not_mem_nil, or_false] at hitem
      rcases hitem with rfl | rfl
      all_goals exact Option.some_ne_none _
    · obtain ⟨x, -, hitem⟩ := List.mem_flatMap.1 hitem
      exact name?_ne_none_of_mem_registerItems hitem
  have hsymbol : IsWord (symbolOf ["csr", bank.name, "base"]) :=
    IsWord.of_isConstantName (isConstantName_symbolOf_csr hname (by decide))
  rw [hsplit]
  refine withholds_append _ (ne_constantsHeading hother) ?_ (constant?_address hsymbol placed.base)
  simp [later, defineTo, Item.lines]

/-- **The sections before the constants** tell none, whatever stands above them. -/
lemma withholds_earlierItems (h : soc.Finished) (ls : List String) :
    Withholds (ls ++ (earlierItems soc options).flatMap Item.lines) := by
  have hbanks (pairs : List (Bank × PlacedBank)) (hnames : ∀ x ∈ pairs, isName x.1.name)
      {ls : List String} (hls : Withholds ls) : Withholds (ls ++ (pairs.flatMap fun x =>
        bankItems options x.1 x.2).flatMap Item.lines) := by
    induction pairs generalizing ls with
    | nil => simpa using hls
    | cons x pairs ih =>
      rw [List.flatMap_cons, List.flatMap_append, ← List.append_assoc]
      exact ih (fun y hy => hnames y (by simp [hy]))
        (withholds_bankItems ls (hnames x (by simp)) x.2)
  have hinterrupts : ∀ item ∈ interruptItems soc.interrupts, item.IsOther := by
    unfold interruptItems
    split <;> simp [defineTo, Item.IsOther, Item.name?]
  have hregions : ∀ item ∈ regionItems soc.regions, item.IsOther := by
    unfold regionItems
    split
    · simp
    · rw [List.forall_mem_append, List.forall_mem_flatMap]
      simp [defineTo, Item.IsOther, Item.name?]
  simp only [earlierItems, List.flatMap_append, ← List.append_assoc]
  refine ((hbanks soc.placedBanks (fun x hx => ?_) (withholds_busItems ls soc.bus)).append
    (ne_constantsHeading hinterrupts)).append (ne_constantsHeading hregions)
  exact (h.fits.wellFormed x.1 (List.of_mem_zip hx).1).name

/-! ### The text -/

/-- The section of a header with the given lines of constants, if there are any. -/
def constantsSection (ls : List String) : String :=
  if ls = [] then "" else unlines ("" :: constantsHeading :: ls)

lemma unlines_constantItems (constants : List Constant) :
    unlines ((constantItems constants).flatMap Item.lines)
      = constantsSection (constants.map constantLine) := by
  cases constants with
  | nil => rfl
  | cons c constants =>
    have hlines : ((c :: constants).map constantItem).flatMap Item.lines
        = (c :: constants).map constantLine := by
      rw [List.flatMap_map, List.map_eq_flatMap]
      exact List.flatMap_congr fun c _ => lines_constantItem c
    rw [constantItems, if_neg (by simp), List.flatMap_append, hlines, constantsSection,
      if_neg (by simp)]
    rfl

/-- **The text of a header ends** with the section of the constants. -/
lemma render_items (soc : Soc) (options : Options) : render (items soc options)
    = unlines ((topItems options ++ earlierItems soc options).flatMap Item.lines)
      ++ constantsSection (soc.constants.map constantLine) ++ closing options.guardSymbol := by
  have hitems : items soc options = topItems options ++ earlierItems soc options
      ++ constantItems soc.constants ++ [.blank, .guardEnd options.guardSymbol] := by
    simp only [items, earlierItems, List.append_assoc]
  rw [render, hitems, List.flatMap_append, List.flatMap_append, unlines_append, unlines_append,
    unlines_constantItems]
  rfl

lemma mapM_constantLine {constants : List Constant}
    (hnames : ∀ c ∈ constants, isConstantName c.name) :
    (constants.map constantLine).mapM constant? = some constants := by
  induction constants with
  | nil => rfl
  | cons c constants ih =>
    have hname := (IsWord.of_isConstantName (hnames c (by simp))).space_notMem
    rw [List.map_cons, List.mapM_cons, constant?_constantLine hname,
      ih fun d hd => hnames d (by simp [hd])]
    rfl

/-- The lines before those of the constants are found again, and tell no constants. -/
lemma withholds_lines (h : soc.Finished) (hnamed : soc.declarations.Named) (options : Options) :
    Withholds (lines (unlines ((topItems options ++ earlierItems soc options).flatMap
      Item.lines))) := by
  -- These items do not name the guard, which need not be a word.
  have hlater : ∀ item ∈ earlierItems soc options,
      item ∈ laterItems soc { options with guardSymbol := "" } :=
    fun item hitem => List.mem_append_left _ (List.mem_append_left _ hitem)
  have hlines : ∀ l ∈ (earlierItems soc options).flatMap Item.lines, IsLine l := by
    intro l hl
    obtain ⟨item, hitem, hl⟩ := List.mem_flatMap.1 hl
    exact Item.isLine_of_mem_lines
      (proper_laterItems h hnamed (by decide : IsWord "") item (hlater item hitem)).readable hl
  rw [List.flatMap_append, unlines_append, lines_unlines_append, lines_unlines hlines]
  exact withholds_earlierItems h _

/-- **The constants of a system** are found in the text of its header. -/
theorem constantsOf_render (h : soc.Finished) (hnamed : soc.declarations.Named)
    (options : Options) :
    constantsOf options.guardSymbol (render (items soc options)) = soc.constants := by
  have hconstants : ∀ c ∈ soc.constants, isConstantName c.name := hnamed.constants
  rw [constantsOf, render_items, String.toList_append, List.rdrop_append_length,
    String.ofList_toList, lines_unlines_append]
  generalize soc.constants = constants at hconstants ⊢
  cases constants with
  | nil =>
    have hnone : lines (constantsSection ([].map constantLine)) = [] := rfl
    rw [hnone, List.append_nil, (withholds_lines h hnamed options).mapM_eq_none]
    rfl
  | cons c constants =>
    set ls := (c :: constants).map constantLine
    have hls : ∀ l ∈ ls, IsLine l ∧ l ≠ constantsHeading := by
      intro l hl
      obtain ⟨d, hd, rfl⟩ := List.mem_map.1 hl
      have hname : (constantItem d).name? ≠ none := Option.some_ne_none _
      refine ⟨isLine_constantLine (IsWord.of_isConstantName (hconstants d hd)),
        ne_constantsHeading_of_name hname ?_⟩
      rw [lines_constantItem]
      exact List.mem_singleton_self _
    have hsection : lines (constantsSection ls) = "" :: constantsHeading :: ls := by
      rw [constantsSection, if_neg (by simp [ls]), lines_unlines]
      simp only [List.forall_mem_cons]
      exact ⟨⟨by decide, by decide⟩, ⟨by decide, by decide⟩, fun l hl => (hls l hl).1⟩
    rw [hsection, List.append_cons, rtakeWhile_heading _ fun l hl => (hls l hl).2,
      mapM_constantLine hconstants]
    rfl

end Header

namespace Soc

open Header

variable {soc : Soc} {bus : BusGeometry} {calls : List Call}

/-- **The constants of declarations that calls have made** come back from the text of the header,
whatever its options: its last section has one line for each of them, in their order, and from each
line its name and its value are read. A literal of a text is read up to its own end and no further,
whatever stands behind it. -/
theorem header_tells_constants (h : (Declarations.after {} calls).complete bus = .ok soc)
    (options : Options) :
    ∃ text front, soc.header options = .ok text ∧
      text = unlines front ++ constantsSection (soc.constants.map constantLine)
        ++ closing options.guardSymbol ∧
      lines (unlines (soc.constants.map constantLine)) = soc.constants.map constantLine ∧
      (soc.constants.map constantLine).mapM constant? = some soc.constants ∧
      constantsOf options.guardSymbol text = soc.constants ∧
      ∀ s rest, text? ((Literal.textSpelling s).toList ++ rest) = some (s, rest) := by
  have hfinished := Declarations.finished_of_complete h
  have hnamed := named_of_calls h
  refine ⟨_, _, header_eq_ok h options, render_items soc options, lines_unlines ?_,
    mapM_constantLine hnamed.constants, constantsOf_render hfinished hnamed options,
    text?_textSpelling⟩
  intro l hl
  obtain ⟨c, hc, rfl⟩ := List.mem_map.1 hl
  exact isLine_constantLine (IsWord.of_isConstantName (hnamed.constants c hc))

/-- A bank that is called like the section, and texts that look like definitions and numbers. -/
theorem header_tells_constants_texts : ∃ soc text,
    (Declarations.after {} [.bank "constants" [⟨"r", 8, .storage, [], 0, none⟩],
      .constant "QUOTE" (.str "a\"\n#define X 1\\"), .constant "TOP" (.int 0xFFFFFFFFFFFFFFFF),
      .constant "DIGITS" (.str "12ULL"), .constant "NIL" (.int 0),
      .constant "SET" .flag]).complete {} = .ok soc ∧
    soc.header {} = .ok text ∧
    constantsOf "__GENERATED_CSR_H" text = [⟨"QUOTE", .str "a\"\n#define X 1\\"⟩,
      ⟨"TOP", .int 0xFFFFFFFFFFFFFFFF⟩, ⟨"DIGITS", .str "12ULL"⟩, ⟨"NIL", .int 0⟩,
      ⟨"SET", .flag⟩] := by
  have h : (Declarations.after {} [.bank "constants" [⟨"r", 8, .storage, [], 0, none⟩],
      .constant "QUOTE" (.str "a\"\n#define X 1\\"), .constant "TOP" (.int 0xFFFFFFFFFFFFFFFF),
      .constant "DIGITS" (.str "12ULL"), .constant "NIL" (.int 0),
      .constant "SET" .flag]).complete {} = .ok
        ⟨{}, [⟨"constants", [⟨"r", 8, .storage, [], 0, none⟩]⟩],
          ⟨0, 4, [⟨"constants", 0, 4, [⟨"r", .storage, 8, 0, [⟨0, 0, 8⟩]⟩]⟩]⟩, ⟨[]⟩, [],
          [⟨"QUOTE", .str "a\"\n#define X 1\\"⟩, ⟨"TOP", .int 0xFFFFFFFFFFFFFFFF⟩,
            ⟨"DIGITS", .str "12ULL"⟩, ⟨"NIL", .int 0⟩, ⟨"SET", .flag⟩]⟩ := by
    decide +kernel
  obtain ⟨text, -, htext, -, -, -, htold, -⟩ := header_tells_constants h {}
  exact ⟨_, text, h, htext, htold⟩

end Soc

end CsrMap
