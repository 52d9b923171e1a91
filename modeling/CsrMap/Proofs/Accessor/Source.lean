import CsrMap.Proofs.Accessor.Parser
import CsrMap.Proofs.Header.Entries
import CsrMap.Proofs.Soc.Places

/-!
The functions of a text.

A reader that knows nothing of the system takes the functions from the lines of a text, each
statement on a line of its own, and leaves out directives and comments. It reads no text that
defines a word of a function, which then means something else than it says. In the text of a header
it finds the accessors of the registers.
-/

namespace CsrMap.Header

open Text

/-! ### The reader -/

/-- The line stands outside functions: it is empty, a directive or a comment. -/
def isOutside (line : String) : Bool := line.toList.head?.all fun c => c == '#' || c == '/'

/-- The functions of lines, after the lines of a function that has not ended. -/
def functionsFrom : Option Function → List String → Option (List Function)
  | none, [] => some []
  | some _, [] => none
  | none, line :: lines =>
    if isOutside line then functionsFrom none lines
    else do
      let f ← head? (tokens line)
      functionsFrom (some f) lines
  | some f, line :: lines =>
    if tokens line = [.braceClose] then (f :: ·) <$> functionsFrom none lines
    else do
      let s ← statement? (tokens line)
      functionsFrom (some { f with body := f.body ++ [s] }) lines

/-- The symbol that a line defines. -/
def defined? (line : String) : Option String :=
  ("#define ".toList.isPrefixOf? line.toList).map fun rest =>
    String.ofList (rest.takeWhile isWordChar)

/-- The symbol is a word of a line that stands in a function. -/
def mentions (ls : List String) (symbol : String) : Bool :=
  ls.any fun line => !isOutside line && (tokens line).contains (.word symbol)

/-- The functions of a text, in the order of its lines. None of their words is defined by the text,
so they mean what they say. -/
def functions? (text : String) : Option (List Function) :=
  if ((lines text).filterMap defined?).any (mentions (lines text)) then none
  else functionsFrom none (lines text)

/-! ### Functions and items -/

variable {f : Function} {ls : List String}

lemma functionsFrom_body (f : Function) (ls : List String) {body : List Statement}
    (h : ∀ s ∈ body, s.Legible) :
    functionsFrom (some f) (body.map ("\t" ++ ·.spelling) ++ ["\x7d"] ++ ls)
      = ({ f with body := f.body ++ body } :: ·) <$> functionsFrom none ls := by
  induction body generalizing f with
  | nil =>
    rw [List.append_nil]
    rfl
  | cons s body ih =>
    have hs := h s (by simp)
    have hne : s.tokens ≠ [.braceClose] := by
      intro heq
      have hread := statement?_tokens hs
      rw [heq] at hread
      cases hread
    rw [List.map_cons, List.cons_append, List.cons_append, functionsFrom, s.tokens_line hs,
      if_neg hne, statement?_tokens hs]
    simp only [Option.bind_eq_bind, Option.bind_some]
    rw [ih _ fun s hs => h s (by simp [hs]), List.append_assoc]
    rfl

/-- **The lines of a legible function are read as the function.** -/
theorem functionsFrom_lines (h : f.Legible) :
    functionsFrom none (f.lines ++ ls) = (f :: ·) <$> functionsFrom none ls := by
  have hhead : isOutside ("static inline " ++ f.resultSpelling ++ " " ++ f.name ++ "("
      ++ f.parametersSpelling ++ ") \x7b") = false := by
    simp [isOutside]
  have hbody := functionsFrom_body { f with body := [] } ls h.body
  rw [List.nil_append] at hbody
  rw [Function.lines, List.append_assoc, List.append_assoc, List.singleton_append, functionsFrom,
    hhead, if_neg (by decide), f.tokens_head h, Function.head?_headTokens h]
  simp only [Option.bind_eq_bind, Option.bind_some, ← List.append_assoc]
  exact hbody

namespace Item

def function? : Item → Option Function
  | function f => some f
  | _ => none

lemma lines_of_function? {item : Item} (h : item.function? = some f) : item.lines = f.lines := by
  cases item with
  | function g => rw [Option.some.inj h, lines]
  | _ => cases h

/-- Only functions have lines that do not stand outside. -/
lemma isOutside_of_mem_lines {item : Item} (h : item.function? = none) {line : String}
    (hline : line ∈ item.lines) : isOutside line := by
  cases item with
  | function f => cases h
  | banner text =>
    rw [List.mem_singleton.1 hline, isOutside]
    cases hc : (trimEnd ("// " ++ text)).toList.head? with
    | none => rfl
    | some c =>
      rw [eq_of_head?_banner hc]
      decide
  | blank =>
    rw [List.mem_singleton.1 hline]
    decide
  | heading title | guardStart symbol | guardEnd symbol | includes file =>
    rw [List.mem_singleton.1 hline]
    simp [isOutside]
  | define symbol value =>
    cases value with
    | none | some value =>
      rw [List.mem_singleton.1 hline]
      simp [isOutside]

/-- Other items than functions are passed over. -/
lemma functionsFrom_lines {item : Item} (h : ∀ f ∈ item.function?, f.Legible) :
    functionsFrom none (item.lines ++ ls)
      = (item.function?.toList ++ ·) <$> functionsFrom none ls := by
  have hpass {front : List String} (hfront : ∀ line ∈ front, isOutside line) :
      functionsFrom none (front ++ ls) = functionsFrom none ls := by
    induction front with
    | nil => rfl
    | cons line front ih =>
      rw [List.forall_mem_cons] at hfront
      rw [List.cons_append, functionsFrom, if_pos hfront.1, ih hfront.2]
  cases hf : item.function? with
  | none =>
    rw [hpass fun line => isOutside_of_mem_lines hf]
    cases functionsFrom none ls <;> rfl
  | some f =>
    rw [lines_of_function? hf]
    exact Header.functionsFrom_lines (h f hf)

end Item

lemma defined?_define {line symbol : String} (h : IsWord symbol) (rest : List Char)
    (hline : line.toList = "#define ".toList ++ (symbol.toList ++ rest)) (hrest : Stops rest) :
    defined? line = some symbol := by
  rw [defined?, hline, isPrefixOf?_append, Option.map_some, List.takeWhile_append_of_pos h,
    takeWhile_eq_nil_of_head hrest, List.append_nil, String.ofList_toList]

lemma defined?_of_head {line : String} (h : line.toList.head? ≠ some '#') :
    defined? line = none := by
  have hprefix : "#define ".toList.isPrefixOf? line.toList = none :=
    isPrefixOf?_of_head "define ".toList h
  rw [defined?, hprefix]
  rfl

/-- The lines of an item define its symbol and nothing else. -/
lemma Item.symbol_of_mem_lines {item : Item} (h : item.Readable) {line symbol : String}
    (hline : line ∈ item.lines) (hsymbol : defined? line = some symbol) :
    symbol ∈ item.symbol? := by
  have hnone (hnone : defined? line = none) : symbol ∈ item.symbol? := by
    rw [hnone] at hsymbol
    cases hsymbol
  cases item with
  | function f => exact hnone (defined?_of_head (f.line_of_mem h hline).2)
  | define name value =>
    cases value with
    | none =>
      rwa [List.mem_singleton.1 hline, defined?_define h [] (by simp) (by simp)] at hsymbol
    | some value =>
      rwa [List.mem_singleton.1 hline, defined?_define h (' ' :: value.spelling.toList)
        (by simp) (by simp; decide)] at hsymbol
  | banner text =>
    refine hnone (defined?_of_head fun hc => ?_)
    rw [List.mem_singleton.1 hline] at hc
    exact absurd (eq_of_head?_banner hc) (by decide)
  | blank =>
    rw [List.mem_singleton.1 hline] at hnone
    exact hnone (by decide)
  | heading title =>
    rw [List.mem_singleton.1 hline] at hnone
    exact hnone (defined?_of_head (by simp))
  | guardStart name | guardEnd name | includes file =>
    rw [List.mem_singleton.1 hline] at hnone
    exact hnone (by simp [defined?, List.isPrefixOf?])

variable {items : List Item}

/-- The lines of items define no word of their functions, where no item has such a symbol. -/
lemma not_mentions_defined (h : ∀ item ∈ items, item.Readable)
    (hapart : ∀ item ∈ items, ∀ symbol ∈ item.symbol?,
      ∀ f ∈ items.filterMap Item.function?, ¬ mentions f.lines symbol) :
    ¬ ((items.flatMap Item.lines).filterMap defined?).any (mentions (items.flatMap Item.lines)) := by
  rw [List.any_eq_true]
  rintro ⟨symbol, hsymbol, hmentions⟩
  obtain ⟨line, hline, hsymbol⟩ := List.mem_filterMap.1 hsymbol
  obtain ⟨item, hitem, hline⟩ := List.mem_flatMap.1 hline
  have hdefined := Item.symbol_of_mem_lines (h item hitem) hline hsymbol
  rw [mentions, List.any_flatMap, List.any_eq_true] at hmentions
  obtain ⟨other, hother, hmentions⟩ := hmentions
  cases hf : other.function? with
  | none =>
    obtain ⟨code, hcode, hwords⟩ := List.any_eq_true.1 hmentions
    simp [Item.isOutside_of_mem_lines hf hcode] at hwords
  | some f =>
    refine hapart item hitem symbol hdefined f (List.mem_filterMap.2 ⟨other, hother, hf⟩) ?_
    rwa [← Item.lines_of_function? hf]

lemma functionsFrom_items (h : ∀ f ∈ items.filterMap Item.function?, f.Legible) :
    functionsFrom none (items.flatMap Item.lines) = some (items.filterMap Item.function?) := by
  induction items with
  | nil => rfl
  | cons item items ih =>
    have hitem (f : Function) (hf : f ∈ item.function?) : f.Legible :=
      h f (List.mem_filterMap.2 ⟨item, by simp, hf⟩)
    have ih := ih fun f hf => by
      obtain ⟨other, hother, heq⟩ := List.mem_filterMap.1 hf
      exact h f (List.mem_filterMap.2 ⟨other, by simp [hother], heq⟩)
    rw [List.flatMap_cons, Item.functionsFrom_lines hitem, ih]
    cases hf : item.function? with
    | none => rw [List.filterMap_cons_none hf]; rfl
    | some f => rw [List.filterMap_cons_some hf]; rfl

/-- **The reader finds the functions of the items** in the text of a header, and nothing else, where
no item defines a word of a function. -/
theorem functions?_render (h : ∀ item ∈ items, item.Readable)
    (hlegible : ∀ f ∈ items.filterMap Item.function?, f.Legible)
    (hapart : ∀ item ∈ items, ∀ symbol ∈ item.symbol?,
      ∀ f ∈ items.filterMap Item.function?, ¬ mentions f.lines symbol) :
    functions? (render items) = some (items.filterMap Item.function?) := by
  rw [functions?, lines_render h, if_neg (not_mentions_defined h hapart),
    functionsFrom_items hlegible]

/-! ### Accessors -/

namespace Expression

variable {operand : Expression} {distance : UInt32} {mask : UInt64}

lemma inFunction_count (n : UInt32) : (Literal.count n.toNat).InFunction :=
  n.toNat_lt.trans (by decide)

@[simp] lemma legible_movedLeft : (movedLeft operand distance).Legible ↔ operand.Legible := by
  unfold movedLeft
  split <;> simp [Legible, inFunction_count]

@[simp] lemma legible_movedRight : (movedRight operand distance).Legible ↔ operand.Legible := by
  unfold movedRight
  split <;> simp [Legible, inFunction_count]

@[simp] lemma legible_masked : (masked operand mask).Legible ↔ operand.Legible := by
  simp [masked, Legible, Literal.InFunction]

lemma legible_position (f : Field) : (position f).Legible := inFunction_count f.offset

end Expression

/-- The endings of the names of accessors. -/
def accessorEndings : List String := ["_read", "_write", "_extract", "_replace"]

variable {bank function name s t : String} {r : Register} {type : IntType}

lemma mem_of_typeOf?_ne_none (h : typeOf? s ≠ none) : s ∈ IntType.all.map IntType.spelling := by
  obtain ⟨type, htype⟩ := Option.ne_none_iff_exists'.1 h
  have hspelling : type.spelling = s := by simpa using List.find?_some htype
  exact List.mem_map.2 ⟨type, List.mem_of_find?_eq_some htype, hspelling⟩

/-- The ending of an accessor tells it from the words of the language. -/
lemma isFreeName_append (hs : isName s) (ht : t ∈ accessorEndings) : IsFreeName (s ++ t) := by
  have hends : ∀ t ∈ accessorEndings, ∀ word ∈ keywords ++ IntType.all.map IntType.spelling,
    ¬ t.toList <:+ word.toList := by decide
  have hne (word : String) (hword : word ∈ keywords ++ IntType.all.map IntType.spelling) :
      s ++ t ≠ word := by
    rintro rfl
    exact hends t ht _ hword (by simp)
  have haccessor := isAccessorName_append hs ht
  refine ⟨(isName_iff.1 haccessor.name).1, haccessor.not_constantName, fun hkeyword => ?_, ?_⟩
  · exact hne _ (List.mem_append_left _ hkeyword) rfl
  · by_contra htype
    exact hne _ (List.mem_append_right _ (mem_of_typeOf?_ne_none htype)) rfl

lemma legible_registerRead (h : isName function) (placed : PlacedRegister) :
    (registerRead function type placed).Legible := by
  have hfixed : IsFreeName "r" ∧ IsFreeName "csr_read_simple" := by decide
  refine ⟨isFreeName_append h (by decide), by simp [registerRead], fun s hs => ?_⟩
  unfold registerRead at hs
  split at hs
  · simp only [List.mem_append, List.mem_singleton, List.mem_map] at hs
    rcases hs with (rfl | ⟨word, -, rfl⟩) | rfl
    · exact hfixed.1
    · simp [Statement.Legible, Expression.Legible, readWord, Literal.InFunction, hfixed]
    · exact hfixed.1
  · rw [List.mem_singleton] at hs
    simp [hs, Statement.Legible, Expression.Legible, readWord, Literal.InFunction, hfixed]

lemma legible_registerWrite (h : isName function) (placed : PlacedRegister) :
    (registerWrite function type placed).Legible := by
  have hfixed : IsFreeName "v" ∧ IsFreeName "csr_write_simple" := by decide
  refine ⟨isFreeName_append h (by decide), by simp [registerWrite, hfixed], fun s hs => ?_⟩
  obtain ⟨word, -, rfl⟩ := List.mem_map.1 hs
  simp [Statement.Legible, Expression.Legible, Expression.isCall, Literal.InFunction, hfixed]

lemma legible_fieldAccessor (hfunction : isName function) (hname : isName name)
    (type : IntType) (fd : Field) {accessor : Function} (h : accessor ∈ [fieldExtract name type fd,
      fieldRead function name type, fieldReplace name type fd, fieldWrite function name type]) :
    accessor.Legible := by
  have hfixed : IsFreeName "oldword" ∧ IsFreeName "plain_value" := by decide
  have hfree {s : String} (hs : isName s) : IsFreeName (s ++ "_read") ∧ IsFreeName (s ++ "_write") ∧
      IsFreeName (s ++ "_extract") ∧ IsFreeName (s ++ "_replace") :=
    ⟨isFreeName_append hs (by decide), isFreeName_append hs (by decide),
      isFreeName_append hs (by decide), isFreeName_append hs (by decide)⟩
  have hfunction := hfree hfunction
  have hname := hfree hname
  have hposition := Expression.legible_position fd
  simp only [List.mem_cons, List.not_mem_nil, or_false] at h
  rcases h with rfl | rfl | rfl | rfl
  · exact ⟨hname.2.2.1, by simp [fieldExtract, hfixed],
      by simp [fieldExtract, Statement.Legible, Expression.Legible, hfixed, hposition]⟩
  · exact ⟨hname.1, by simp [fieldRead],
      by simp [fieldRead, Statement.Legible, Expression.Legible, hname, hfunction]⟩
  · exact ⟨hname.2.2.2, by simp [fieldReplace, hfixed], by
      simp [fieldReplace, Statement.Legible, Expression.Legible, Literal.InFunction, hfixed,
        hposition]⟩
  · exact ⟨hname.2.1, by simp [fieldWrite, hfixed], by
      simp [fieldWrite, Statement.Legible, Expression.Legible, Expression.isCall, hname, hfunction,
        hfixed]⟩

/-- The name of an accessor has one of the endings. -/
lemma exists_ending {placed : PlacedRegister} (h : f ∈ accessors bank r placed) :
    ∃ s, ∃ t ∈ accessorEndings, f.name = s ++ t := by
  rcases accessor_cases h with h | ⟨fd, -, h⟩
  · rcases List.mem_pair.1 h with rfl | rfl
    · exact ⟨_, "_read", by decide, rfl⟩
    · exact ⟨_, "_write", by decide, rfl⟩
  · simp only [List.mem_cons, List.not_mem_nil, or_false] at h
    rcases h with rfl | rfl | rfl | rfl
    · exact ⟨_, "_extract", by decide, rfl⟩
    · exact ⟨_, "_read", by decide, rfl⟩
    · exact ⟨_, "_replace", by decide, rfl⟩
    · exact ⟨_, "_write", by decide, rfl⟩

/-- **The accessors of a register are legible.** -/
theorem legible_accessors (hbank : isName bank) (hr : r.WellFormed) {placed : PlacedRegister}
    (h : f ∈ accessors bank r placed) : f.Legible := by
  have hjoin {s t : String} (hs : isName s) (ht : isName t) : isName (s ++ "_" ++ t) :=
    isName_append (isName_append hs (by decide)) (List.all_eq_true.2 (isName_iff.1 ht).2)
  have hfunction := hjoin hbank hr.name
  rcases accessor_cases h with h | ⟨fd, hfd, h⟩
  · rcases List.mem_pair.1 h with rfl | rfl
    · exact legible_registerRead hfunction placed
    · exact legible_registerWrite hfunction placed
  · exact legible_fieldAccessor hfunction (hjoin hfunction (hr.fields fd hfd).name)
      (IntType.ofWidth r.width) fd h

end CsrMap.Header

namespace CsrMap.Soc

open Header
open scoped List

variable {soc : Soc} {options : Options} {f : Function}

/-- The accessors of all registers, in the order of their declaration. -/
def accessors (soc : Soc) : List Function :=
  soc.placedRegisters.flatMap fun (bank, r, placed) => Header.accessors bank.name r placed

lemma filterMap_function?_registerItems (hwith : options.withAccessors) (bank : String)
    (r : Register) (placed : PlacedRegister) :
    (registerItems options bank r placed).filterMap Item.function?
      = Header.accessors bank r placed := by
  have hwords : (if placed.spansWords then wordItems (symbolOf ["csr", bank, r.name]) placed.words
      else []).filterMap Item.function? = [] := by
    split
    · refine List.filterMap_eq_nil_iff.2 fun item hitem => ?_
      obtain ⟨⟨word, index⟩, -, hitem⟩ := List.mem_flatMap.1 hitem
      simp only [List.mem_cons, List.not_mem_nil, or_false] at hitem
      rcases hitem with rfl | rfl | rfl <;> rfl
    · rfl
  have hfields : (r.fields.flatMap (fieldItems (symbolOf ["csr", bank, r.name]))).filterMap
      Item.function? = [] := by
    rw [List.filterMap_flatMap]
    exact List.flatMap_eq_nil_iff.2 fun _ _ => rfl
  have hfunctions (fs : List Function) : (fs.map Item.function).filterMap Item.function? = fs := by
    rw [List.filterMap_map]
    exact List.filterMap_some
  simp only [registerItems, List.filterMap_append, hwords, hfields, hwith, if_true, hfunctions]
  rfl

lemma filterMap_function?_bankItems (hwith : options.withAccessors) (bank : Bank)
    (placed : PlacedBank) : (bankItems options bank placed).filterMap Item.function?
      = (bank.registers.zip placed.registers).flatMap fun (r, p) =>
        Header.accessors bank.name r p := by
  rw [bankItems, List.filterMap_append, List.filterMap_flatMap]
  exact List.flatMap_congr fun p _ => filterMap_function?_registerItems hwith _ _ _

/-- The functions of a header are the accessors of its system. -/
lemma filterMap_function?_items (soc : Soc) (hwith : options.withAccessors) :
    (items soc options).filterMap Item.function? = soc.accessors := by
  have hplain {α : Type} (xs : List α) {g : α → Item} (h : ∀ x, (g x).function? = none) :
      (xs.map g).filterMap Item.function? = [] := by
    rw [List.filterMap_map]
    exact List.filterMap_eq_nil_iff.2 fun x _ => h x
  have htop : (topItems options).filterMap Item.function? = [] := by
    rw [topItems, List.filterMap_append, List.filterMap_append, hplain _ fun _ => rfl]
    split <;> rfl
  have hinterrupts : (interruptItems soc.interrupts).filterMap Item.function? = [] := by
    unfold interruptItems
    split
    · rfl
    · rw [List.filterMap_append, hplain _ fun _ => rfl]
      rfl
  have hregions : (regionItems soc.regions).filterMap Item.function? = [] := by
    unfold regionItems
    split
    · rfl
    · rw [List.filterMap_append, List.filterMap_flatMap]
      exact List.flatMap_eq_nil_iff.2 fun _ _ => rfl
  have hconstants : (constantItems soc.constants).filterMap Item.function? = [] := by
    unfold constantItems
    split
    · rfl
    · rw [List.filterMap_append, hplain _ fun _ => rfl]
      rfl
  have hbus : (busItems soc.bus).filterMap Item.function? = [] := rfl
  have hend : [Item.blank, Item.guardEnd options.guardSymbol].filterMap Item.function? = [] := rfl
  simp only [items, List.filterMap_append, htop, hbus, hinterrupts, hregions, hconstants, hend,
    List.filterMap_flatMap, filterMap_function?_bankItems hwith, accessors, placedRegisters,
    List.flatMap_assoc, List.flatMap_map, List.nil_append, List.append_nil]

lemma legible_of_mem_accessors (h : soc.Finished) (hf : f ∈ soc.accessors) : f.Legible := by
  obtain ⟨⟨b, r, p⟩, hmem, hf⟩ := List.mem_flatMap.1 hf
  obtain ⟨i, j, start, hosts, -⟩ := exists_hosts_of_mem h hmem
  exact legible_accessors (h.fits.wellFormed b hosts.mem_bank).name (hosts.wellFormed h.fits) hf

/-- What is in upper case is no word of an accessor. -/
lemma not_mentions_of_isConstantName (h : soc.Finished) {symbol : String}
    (hsymbol : isConstantName symbol) (hf : f ∈ soc.accessors) : ¬ mentions f.lines symbol := by
  rw [mentions, List.any_eq_true]
  rintro ⟨line, hline, hwords⟩
  have hword := Function.notMem_tokens_line (legible_of_mem_accessors h hf) hsymbol hline
  simp [hword] at hwords

/-- **The text of a header has the accessors of its system as its functions**, where its guard is no
word of them. -/
theorem functions?_header (h : soc.Finished) (hnamed : soc.declarations.Named)
    (hguard : IsIdentifier options.guardSymbol)
    (hapart : ∀ f ∈ soc.accessors, ¬ mentions f.lines options.guardSymbol)
    (hwith : options.withAccessors) :
    functions? (render (items soc options)) = some soc.accessors := by
  have hfunctions := filterMap_function?_items soc hwith
  rw [functions?_render (readable_items h hnamed hguard.word), hfunctions]
  · rw [hfunctions]
    exact fun f hf => legible_of_mem_accessors h hf
  · rw [hfunctions]
    intro item hitem symbol hsymbol f hf
    rcases symbol_of_mem_items h hnamed hguard.word hitem hsymbol with rfl | hupper
    · exact hapart f hf
    · exact not_mentions_of_isConstantName h hupper hf

/-- The names of the accessors of a bank are among its symbols. -/
lemma name_accessors_sublist_bankSymbols (bank : Bank) (placed : PlacedBank) :
    ((bank.registers.zip placed.registers).flatMap fun (r, p) =>
      (Header.accessors bank.name r p).map (·.name))
        <+ (bankSymbols bank placed).map (·.symbol) := by
  have hregister (r : Register) (p : PlacedRegister) :
      (Header.accessors bank.name r p).map (·.name)
        <+ (registerSymbols bank.name r p).map (·.symbol) := by
    rw [map_name_accessors, registerSymbols_eq, List.map_append]
    exact List.sublist_append_right _ _
  rw [bankSymbols, List.map_append, List.map_flatMap]
  exact (List.Sublist.flatMap_right _ fun p _ => hregister _ _).trans
    (List.sublist_append_right _ _)

/-- The names of the accessors are among the symbols of the system. -/
lemma name_accessors_sublist_symbols (soc : Soc) :
    soc.accessors.map (·.name) <+ soc.symbols.map (·.symbol) := by
  have hbanks : soc.accessors.map (·.name)
      <+ (soc.placedBanks.flatMap fun p => bankSymbols p.1 p.2).map (·.symbol) := by
    simp only [accessors, placedRegisters, List.map_flatMap, List.flatMap_assoc, List.flatMap_map]
    exact List.Sublist.flatMap_right _ fun p _ => name_accessors_sublist_bankSymbols p.1 p.2
  refine hbanks.trans (List.Sublist.map _ ?_)
  simp only [symbols, List.append_assoc]
  exact (List.sublist_append_left _ _).trans (List.sublist_append_right _ _)

/-- No two accessors have one name. -/
lemma nodup_name_accessors (h : soc.Finished) : (soc.accessors.map (·.name)).Nodup :=
  (nodup_symbols h).sublist (name_accessors_sublist_symbols soc)

/-- No accessor has the name of a function of the bus. -/
lemma name_ne_of_mem_accessors (hf : f ∈ soc.accessors) :
    f.name ∉ ["csr_read_simple", "csr_write_simple"] := by
  have hends : ∀ t ∈ accessorEndings, ∀ name ∈ ["csr_read_simple", "csr_write_simple"],
    ¬ t.toList <:+ name.toList := by decide
  obtain ⟨p, -, hf⟩ := List.mem_flatMap.1 hf
  obtain ⟨s, t, ht, heq⟩ := exists_ending hf
  refine fun hname => hends t ht _ hname ?_
  rw [heq, String.toList_append]
  exact List.suffix_append _ _

/-- The accessors of a register stand together. -/
lemma accessors_sublist (h : soc.Finished) {i j start : ℕ} {b : Bank} {r : Register}
    (hosts : soc.bus.Hosts soc.banks i j b r start) :
    Header.accessors b.name r (soc.bus.registerAt start r) <+ soc.accessors := by
  rw [accessors, List.flatMap_def]
  exact List.sublist_flatten_of_mem
    (List.mem_map.2 ⟨_, mem_placedRegisters_of_hosts h hosts, rfl⟩)

end CsrMap.Soc
