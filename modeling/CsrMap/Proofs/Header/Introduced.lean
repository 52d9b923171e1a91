import CsrMap.Proofs.Header.Entries

/-!
The names that the text of a header introduces.

A reader of lines finds the names that a text defines, by a definition or as a function. In the
text of a header these are the names of its items, whatever the banner and the texts of constants
say: the guard and then the symbols of the system. So no name is defined twice, unless a constant
has the name of the guard.
-/

namespace CsrMap

open Text

namespace Header

/-! ### The reader -/

/-- The first row of characters that are no white space. -/
def firstWord (cs : List Char) : List Char := (cs.dropWhile isBlank).takeWhile fun c => !isBlank c

def lastWord (cs : List Char) : List Char := (firstWord cs.reverse).reverse

/-- The characters as a text, if there are any. -/
def word? (cs : List Char) : Option String := if cs = [] then none else some (String.ofList cs)

/-- The name that a line introduces: what stands after `#define`, or before the parameters of a
function. -/
def introduced? (line : String) : Option String :=
  match "#define ".toList.isPrefixOf? line.toList with
  | some rest => word? (firstWord rest)
  | none =>
    ("static inline ".toList.isPrefixOf? line.toList).bind fun rest =>
      word? (lastWord (rest.takeWhile (· != '(')))

/-- The names that a text introduces, in the order of its lines. -/
def introduced (text : String) : List String := (lines text).filterMap introduced?

/-! ### Words -/

variable {cs rest front : List Char} {s line name symbol : String}

lemma not_isBlank_of_isWordChar {c : Char} (h : isWordChar c) : isBlank c = false := by
  have hall : ∀ n < 128, isWordChar (Char.ofNat n) → isBlank (Char.ofNat n) = false := by
    decide +kernel
  have hword := hall c.toNat (toNat_lt_of_isWordChar h)
  rw [Char.ofNat_toNat] at hword
  exact hword h

lemma firstWord_append (hne : cs ≠ []) (hcs : ∀ c ∈ cs, isBlank c = false)
    (hrest : ∀ c, rest.head? = some c → isBlank c) : firstWord (cs ++ rest) = cs := by
  have hdrop : (cs ++ rest).dropWhile isBlank = cs ++ rest := by
    refine dropWhile_eq_self_of_head fun c hc => hcs c (List.mem_of_mem_head? ?_)
    rwa [List.head?_append_of_ne_nil _ hne] at hc
  have htake : rest.takeWhile (fun c => !isBlank c) = [] :=
    takeWhile_eq_nil_of_head fun c hc => by rw [hrest c hc]; rfl
  rw [firstWord, hdrop, List.takeWhile_append_of_pos fun c hc => by rw [hcs c hc]; rfl, htake,
    List.append_nil]

lemma lastWord_append (hne : cs ≠ []) (hcs : ∀ c ∈ cs, isBlank c = false) :
    lastWord (front ++ ' ' :: cs) = cs := by
  have hreverse : (front ++ ' ' :: cs).reverse = cs.reverse ++ ' ' :: front.reverse := by simp
  rw [lastWord, hreverse, firstWord_append (by simpa using hne)
    (fun c hc => hcs c (List.mem_reverse.1 hc)) (by simp; decide), List.reverse_reverse]

namespace IsIdentifier

lemma toList_ne_nil (h : IsIdentifier s) : s.toList ≠ [] :=
  fun hnil => h.nonempty (String.toList_eq_nil_iff.1 hnil)

lemma not_isBlank (h : IsIdentifier s) : ∀ c ∈ s.toList, isBlank c = false :=
  fun c hc => not_isBlank_of_isWordChar (h.word c hc)

lemma word?_eq (h : IsIdentifier s) : word? s.toList = some s := by
  rw [word?, if_neg h.toList_ne_nil, String.ofList_toList]

end IsIdentifier

/-! ### Lines -/

lemma introduced?_define (h : IsIdentifier symbol) (rest : List Char)
    (hline : line.toList = "#define ".toList ++ (symbol.toList ++ rest))
    (hrest : ∀ c, rest.head? = some c → isBlank c) : introduced? line = some symbol := by
  rw [introduced?, hline, isPrefixOf?_append]
  exact (congrArg word? (firstWord_append h.toList_ne_nil h.not_isBlank hrest)).trans h.word?_eq

/-- A function is introduced by the line of its head. -/
lemma introduced?_function {f : Function} (h : IsIdentifier f.name) :
    introduced? ("static inline " ++ f.resultSpelling ++ " " ++ f.name ++ "("
      ++ f.parametersSpelling ++ ") \x7b") = some f.name := by
  have hresult : '(' ∉ f.resultSpelling.toList := by
    unfold Function.resultSpelling
    split
    · rename_i type _
      cases type <;> decide
    · decide
  have hname : '(' ∉ f.name.toList := fun hc => absurd (h.word _ hc) (by decide)
  -- So the first bracket of the line is the one after the name.
  have hinside : ∀ c ∈ f.resultSpelling.toList ++ ' ' :: f.name.toList, (c != '(') = true := by
    intro c hc
    rw [bne_iff_ne]
    rintro rfl
    rcases List.mem_append.1 hc with hc | hc
    · exact hresult hc
    · rcases List.mem_cons.1 hc with hc | hc
      · cases hc
      · exact hname hc
  have hline : ("static inline " ++ f.resultSpelling ++ " " ++ f.name ++ "("
      ++ f.parametersSpelling ++ ") \x7b").toList = "static inline ".toList
        ++ ((f.resultSpelling.toList ++ ' ' :: f.name.toList)
          ++ ('(' :: (f.parametersSpelling ++ ") \x7b").toList)) := by
    simp
  have hhead : "#define ".toList.isPrefixOf? ("static inline " ++ f.resultSpelling ++ " "
      ++ f.name ++ "(" ++ f.parametersSpelling ++ ") \x7b").toList = none := by
    rw [hline]
    rfl
  rw [introduced?, hhead, hline, isPrefixOf?_append, Option.bind_some,
    List.takeWhile_append_of_pos hinside, List.takeWhile_cons_of_neg (by decide), List.append_nil,
    lastWord_append h.toList_ne_nil h.not_isBlank, h.word?_eq]

/-- A line that starts in another way introduces nothing. -/
lemma introduced?_eq_none (h : "#define ".toList.isPrefixOf? line.toList = none)
    (h' : "static inline ".toList.isPrefixOf? line.toList = none) : introduced? line = none := by
  rw [introduced?, h, h']
  rfl

lemma introduced?_of_head (h : line.toList.head? ≠ some '#') (h' : line.toList.head? ≠ some 's') :
    introduced? line = none :=
  introduced?_eq_none (isPrefixOf?_of_head "define ".toList h)
    (isPrefixOf?_of_head "tatic inline ".toList h')

namespace Item

variable {item : Item}

/-- Among the lines of an item, one introduces its name and the others nothing. -/
lemma filterMap_introduced?_lines (h : ∀ n ∈ item.name?, IsIdentifier n) :
    item.lines.filterMap introduced? = item.name?.toList := by
  cases item with
  | blank => decide
  | banner text =>
    rw [lines, List.filterMap_cons, introduced?_of_head]
    · rfl
    · exact fun hc => absurd (eq_of_head?_banner hc) (by decide)
    · exact fun hc => absurd (eq_of_head?_banner hc) (by decide)
  | heading title =>
    rw [lines, List.filterMap_cons, introduced?_of_head (by simp) (by simp)]
    rfl
  | guardStart symbol =>
    rw [lines, List.filterMap_cons, introduced?_eq_none]
    · rfl
    · simp [List.isPrefixOf?]
    · simp [List.isPrefixOf?]
  | guardEnd symbol =>
    rw [lines, List.filterMap_cons, introduced?_eq_none]
    · rfl
    · simp [List.isPrefixOf?]
    · simp [List.isPrefixOf?]
  | includes file =>
    rw [lines, List.filterMap_cons, introduced?_eq_none]
    · rfl
    · simp [List.isPrefixOf?]
    · simp [List.isPrefixOf?]
  | define symbol value =>
    have hsymbol : IsIdentifier symbol := h symbol rfl
    cases value with
    | none =>
      rw [lines, List.filterMap_cons, introduced?_define hsymbol [] (by simp) (by simp)]
      rfl
    | some value =>
      rw [lines, List.filterMap_cons, introduced?_define hsymbol
        (' ' :: value.spelling.toList) (by simp) (by simp; decide)]
      rfl
  | function f =>
    have hrest : (f.body.map ("\t" ++ ·.spelling) ++ ["\x7d"]).filterMap introduced? = [] := by
      refine List.filterMap_eq_nil_iff.2 fun l hl => ?_
      rcases List.mem_append.1 hl with hl | hl
      · obtain ⟨s, -, rfl⟩ := List.mem_map.1 hl
        exact introduced?_of_head (by simp) (by simp)
      · rw [List.mem_singleton.1 hl]
        decide
    rw [lines, Function.lines, List.append_assoc, List.singleton_append, List.filterMap_cons,
      introduced?_function (h f.name rfl), hrest]
    rfl

end Item

/-- **The names that a text introduces** are those of the items that it is the text of. -/
theorem introduced_render {items : List Item} (h : ∀ item ∈ items, item.Readable)
    (hnames : ∀ item ∈ items, ∀ n ∈ item.name?, IsIdentifier n) :
    introduced (render items) = items.filterMap Item.name? := by
  rw [introduced, lines_render h, List.filterMap_flatMap, List.filterMap_eq_flatMap_toList]
  exact List.flatMap_congr fun item hitem => Item.filterMap_introduced?_lines (hnames item hitem)

/-! ### Headers -/

variable {soc : Soc} {options : Options}

lemma isIdentifier_of_mem_symbols (h : soc.Finished) (hnamed : soc.declarations.Named) {x : Owned}
    (hx : x ∈ soc.symbols) : IsIdentifier x.symbol := by
  rcases Soc.symbol_cases h hnamed hx with hflat | hacc | ⟨c, hc, heq⟩
  · exact (isConstantName_iff.1 hflat.constantName).1
  · exact (isName_iff.1 (Soc.isAccessorName_of_mem h hacc).name).1
  · rw [← heq]
    exact (isConstantName_iff.1 (hnamed.constants c hc)).1

/-- The text of a header introduces its guard and the symbols of the system. -/
lemma introduced_items (h : soc.Finished) (hnamed : soc.declarations.Named)
    (hguard : IsIdentifier options.guardSymbol) :
    introduced (render (items soc options))
      = options.guardSymbol :: (soc.symbols.map (·.symbol)).filter options.keeps := by
  have hnames := names_items h hnamed options
  rw [introduced_render (readable_items h hnamed hguard.word), hnames]
  intro item hitem n hn
  have hmem : n ∈ (items soc options).filterMap Item.name? :=
    List.mem_filterMap.2 ⟨item, hitem, hn⟩
  rw [hnames, List.mem_cons, List.mem_filter] at hmem
  rcases hmem with rfl | ⟨hmem, -⟩
  · exact hguard
  · obtain ⟨x, hx, rfl⟩ := List.mem_map.1 hmem
    exact isIdentifier_of_mem_symbols h hnamed hx

/-- Symbols in upper case are those that are not accessors. -/
lemma filter_keeps_symbols (h : soc.Finished) (hnamed : soc.declarations.Named) :
    (soc.symbols.map (·.symbol)).filter options.keeps
      = if options.withAccessors then soc.symbols.map (·.symbol)
        else (soc.symbols.map (·.symbol)).filter (· ∉ soc.accessorSymbols.map (·.symbol)) := by
  split
  · rename_i hwith
    exact List.filter_eq_self.2 fun s _ => Options.keeps_of_withAccessors hwith s
  · rename_i hwithout
    refine List.filter_congr fun s hs => ?_
    obtain ⟨x, hx, rfl⟩ := List.mem_map.1 hs
    have hiff : isConstantName x.symbol ↔ x.symbol ∉ soc.accessorSymbols.map (·.symbol) := by
      constructor
      · intro hupper hmem
        obtain ⟨y, hy, heq⟩ := List.mem_map.1 hmem
        exact (Soc.isAccessorName_of_mem h hy).not_constantName (heq ▸ hupper)
      · intro hmem
        rcases Soc.symbol_cases h hnamed hx with hflat | hacc | ⟨c, hc, heq⟩
        · exact hflat.constantName
        · exact absurd (List.mem_map.2 ⟨x, hacc, rfl⟩) hmem
        · rw [← heq]
          exact hnamed.constants c hc
    rw [Options.keeps_of_not_withAccessors hwithout]
    exact Bool.eq_iff_iff.2 (hiff.trans decide_eq_true_iff.symm)

/-- With its default guard a header defines no name twice unless a constant has that of the
guard. -/
lemma nodup_introduced_iff (h : soc.Finished) (hnamed : soc.declarations.Named)
    (options : Options) (hguard : options.guardSymbol = ({} : Options).guardSymbol) :
    (introduced (render (items soc options))).Nodup ↔
      ∀ c ∈ soc.constants, c.name ≠ options.guardSymbol := by
  have hupper : isConstantName options.guardSymbol := by
    rw [hguard]
    decide
  rw [introduced_items h hnamed (isConstantName_iff.1 hupper).1, List.nodup_cons]
  have hapart := (Soc.nodup_symbols h).filter options.keeps
  constructor
  · rintro ⟨hnew, -⟩ c hc heq
    refine hnew (List.mem_filter.2 ⟨List.mem_map.2 ⟨⟨"constant " ++ c.name, c.name⟩, ?_, heq⟩, ?_⟩)
    · exact List.mem_append_right _ (List.mem_flatMap.2 ⟨c, hc, List.mem_singleton.2 rfl⟩)
    · rw [Options.keeps, hupper, Bool.or_true]
  · refine fun hne => ⟨fun hmem => ?_, hapart⟩
    -- Flattened symbols are not the guard, and accessors are in lower case.
    obtain ⟨x, hx, heq⟩ := List.mem_map.1 (List.mem_filter.1 hmem).1
    rcases Soc.symbol_cases h hnamed hx with hflat | hacc | ⟨c, hc, hname⟩
    · exact hflat.ne_guard (heq.trans hguard)
    · exact (Soc.isAccessorName_of_mem h hacc).not_constantName (heq ▸ hupper)
    · exact hne c hc (hname.trans heq)

end Header

namespace Soc

open Header

variable {soc : Soc} {options : Options} {bus : BusGeometry} {calls : List Call}

/-- **The header of declarations that calls have made** introduces its guard and then the symbols
that completion keeps apart, in their order and as often as they are listed; without accessors, all
of them but the accessors. -/
theorem header_introduces (h : (Declarations.after {} calls).complete bus = .ok soc)
    (hguard : IsIdentifier options.guardSymbol) :
    ∃ text, soc.header options = .ok text ∧ introduced text = options.guardSymbol ::
      if options.withAccessors then soc.symbols.map (·.symbol)
      else (soc.symbols.map (·.symbol)).filter (· ∉ soc.accessorSymbols.map (·.symbol)) := by
  have hfinished := Declarations.finished_of_complete h
  have hnamed := named_of_calls h
  refine ⟨_, header_eq_ok h options, ?_⟩
  rw [introduced_items hfinished hnamed hguard, filter_keeps_symbols hfinished hnamed]

/-- A banner and the text of a constant that look like definitions. -/
theorem header_introduces_texts : ∃ soc text,
    (Declarations.after {} [.bank "a" [⟨"r", 8, .storage, [], 0, none⟩],
      .constant "NOTE" (.str "x\n#define Y 1")]).complete {} = .ok soc ∧
    soc.header ⟨"A_H", some "top\n#define Z 2", false⟩ = .ok text ∧
    introduced text = ["A_H", "CSR_BASE", "CSR_DATA_WIDTH", "CSR_SLOT_SIZE", "CSR_A_BASE",
      "CSR_A_SIZE", "CSR_A_R_ADDR", "CSR_A_R_SIZE", "NOTE"] := by
  have h : (Declarations.after {} [.bank "a" [⟨"r", 8, .storage, [], 0, none⟩],
      .constant "NOTE" (.str "x\n#define Y 1")]).complete {} = .ok
        ⟨{}, [⟨"a", [⟨"r", 8, .storage, [], 0, none⟩]⟩],
          ⟨0, 4, [⟨"a", 0, 4, [⟨"r", .storage, 8, 0, [⟨0, 0, 8⟩]⟩]⟩]⟩, ⟨[]⟩, [],
          [⟨"NOTE", .str "x\n#define Y 1"⟩]⟩ := by
    decide +kernel
  have hguard : IsIdentifier
      (⟨"A_H", some "top\n#define Z 2", false⟩ : Options).guardSymbol :=
    ⟨by decide, by decide, by decide⟩
  obtain ⟨text, htext, hnames⟩ := header_introduces h hguard
  refine ⟨_, text, h, htext, hnames.trans ?_⟩
  decide +kernel

/-- **A header with the default guard** introduces each name once exactly where no constant has the
name of the guard. -/
theorem header_introduces_once_iff (h : (Declarations.after {} calls).complete bus = .ok soc)
    (banner : Option String) (accessors : Bool) :
    ∃ text, soc.header { bannerText := banner, withAccessors := accessors } = .ok text ∧
      ((introduced text).Nodup ↔ ∀ c ∈ soc.constants, c.name ≠ "__GENERATED_CSR_H") :=
  ⟨_, header_eq_ok h _,
    nodup_introduced_iff (Declarations.finished_of_complete h) (named_of_calls h) _ rfl⟩

/-- A register and a constant of another name. -/
theorem header_introduces_once_other_constant : ∃ soc text,
    (Declarations.after {} [.bank "a" [⟨"r", 8, .storage, [], 0, none⟩],
      .constant "N" (.int 5)]).complete {} = .ok soc ∧
    soc.header {} = .ok text ∧ (introduced text).Nodup := by
  have h : (Declarations.after {} [.bank "a" [⟨"r", 8, .storage, [], 0, none⟩],
      .constant "N" (.int 5)]).complete {} = .ok
        ⟨{}, [⟨"a", [⟨"r", 8, .storage, [], 0, none⟩]⟩],
          ⟨0, 4, [⟨"a", 0, 4, [⟨"r", .storage, 8, 0, [⟨0, 0, 8⟩]⟩]⟩]⟩, ⟨[]⟩, [],
          [⟨"N", .int 5⟩]⟩ := by
    decide +kernel
  obtain ⟨text, htext, honce⟩ := header_introduces_once_iff h
    (some "Autogenerated by csr-generator. Do not modify this file.") true
  exact ⟨_, text, h, htext, honce.2 (by decide)⟩

/-- A constant with the name of the guard is accepted, and the header defines the name twice. -/
theorem header_introduces_guard_twice : ∃ soc text,
    (Declarations.after {} [.constant "__GENERATED_CSR_H" (.int 1)]).complete {} = .ok soc ∧
    soc.header {} = .ok text ∧ ¬ (introduced text).Nodup := by
  have h : (Declarations.after {} [.constant "__GENERATED_CSR_H" (.int 1)]).complete {} = .ok
      ⟨{}, [], ⟨0, 0, []⟩, ⟨[]⟩, [], [⟨"__GENERATED_CSR_H", .int 1⟩]⟩ := by
    decide +kernel
  have honce := nodup_introduced_iff (Declarations.finished_of_complete h) (named_of_calls h) {} rfl
  exact ⟨_, _, h, header_eq_ok h _,
    fun hnodup => honce.1 hnodup ⟨"__GENERATED_CSR_H", .int 1⟩ (by simp) rfl⟩

end Soc

end CsrMap
