import CsrMap.Proofs.Header.Symbols

/-!
The names that the items of a header introduce.

The symbols of a system, which are checked, and the items of its header, which are written, are
listed apart from each other. The items introduce the guard and then the symbols, in their order,
without accessors only those in upper case.
-/

namespace CsrMap.Header

open Text
open scoped List

variable {options : Options} {soc : Soc} {xs : List Owned}

/-- The name that an item introduces: a symbol, or a function. -/
def Item.name? : Item → Option String
  | define symbol _ => some symbol
  | function f => some f.name
  | _ => none

/-- Without accessors a header keeps to symbols in upper case. -/
def Options.keeps (options : Options) (symbol : String) : Bool :=
  options.withAccessors || isConstantName symbol

/-- The items after those at the top. -/
def laterItems (soc : Soc) (options : Options) : List Item :=
  busItems soc.bus
    ++ soc.placedBanks.flatMap (fun (bank, placed) => bankItems options bank placed)
    ++ interruptItems soc.interrupts
    ++ regionItems soc.regions
    ++ constantItems soc.constants
    ++ [.blank, .guardEnd options.guardSymbol]

lemma items_eq (soc : Soc) (options : Options) :
    items soc options = topItems options ++ laterItems soc options := by
  simp only [items, laterItems, List.append_assoc]

/-! ### What is kept -/

lemma Options.keeps_of_withAccessors (h : options.withAccessors) (s : String) :
    options.keeps s = true := by
  rw [keeps, h, Bool.true_or]

lemma Options.keeps_of_not_withAccessors (h : ¬ options.withAccessors) (s : String) :
    options.keeps s = isConstantName s := by
  rw [keeps, Bool.eq_false_iff.2 h, Bool.false_or]

lemma filter_keeps_eq_self (h : ∀ x ∈ xs, isConstantName x.symbol) :
    (xs.map (·.symbol)).filter options.keeps = xs.map (·.symbol) := by
  refine List.filter_eq_self.2 fun s hs => ?_
  obtain ⟨x, hx, rfl⟩ := List.mem_map.1 hs
  rw [Options.keeps, h x hx, Bool.or_true]

lemma filter_keeps_accessors (h : ∀ x ∈ xs, IsAccessorName x.symbol) :
    (xs.map (·.symbol)).filter options.keeps
      = if options.withAccessors then xs.map (·.symbol) else [] := by
  split
  · rename_i hwith
    exact List.filter_eq_self.2 fun s _ => Options.keeps_of_withAccessors hwith s
  · rename_i hwithout
    refine List.filter_eq_nil_iff.2 fun s hs => ?_
    obtain ⟨x, hx, rfl⟩ := List.mem_map.1 hs
    rw [Options.keeps_of_not_withAccessors hwithout]
    exact (h x hx).not_constantName

/-! ### Parts of a header -/

/-- At the top a header introduces its guard. -/
lemma names_topItems (options : Options) :
    (topItems options).filterMap Item.name? = [options.guardSymbol] := by
  have hbanner (ls : List String) : (ls.map Item.banner).filterMap Item.name? = [] := by
    rw [List.filterMap_map]
    exact List.filterMap_eq_nil_iff.2 fun _ _ => rfl
  rw [topItems, List.filterMap_append, List.filterMap_append, hbanner]
  split <;> rfl

lemma names_wordItems (owner stem : String) (words : List Slice) :
    (wordItems stem words).filterMap Item.name?
      = (wordSymbols owner stem words.length).map (·.symbol) := by
  have hrange : List.range words.length = words.zipIdx.map Prod.snd := by
    rw [List.zipIdx_map_snd, List.range_eq_range']
  rw [wordItems, wordSymbols, List.filterMap_flatMap, List.map_flatMap, hrange,
    List.flatMap_map]
  refine List.flatMap_congr fun word _ => ?_
  simp [defineTo, Item.name?, String.append_assoc]

lemma names_functions (fs : List Function) :
    (fs.map Item.function).filterMap Item.name? = fs.map (·.name) := by
  rw [List.filterMap_map, List.map_eq_flatMap, List.filterMap_eq_flatMap_toList]
  rfl

/-- The accessors that are written are those that are listed. -/
lemma map_name_accessors (bank : String) (r : Register) (placed : PlacedRegister) :
    (accessors bank r placed).map (·.name) = (accessorSymbols bank r).map (·.symbol) := by
  have hfields (f : Field) : (fieldAccessors bank r f).map (·.name)
      = (fieldAccessorNames (bank ++ "." ++ r.name) (bank ++ "_" ++ r.name) r.access f).map
        (·.symbol) := by
    unfold fieldAccessors fieldAccessorNames
    split <;> rfl
  have hregister : (registerAccessors bank r placed).map (·.name)
      = (registerAccessorNames (bank ++ "." ++ r.name) (bank ++ "_" ++ r.name) r.access).map
        (·.symbol) := by
    unfold registerAccessors registerAccessorNames
    split <;> rfl
  rw [accessors, accessorSymbols, List.map_append, List.map_append, hregister, List.map_flatMap,
    List.map_flatMap]
  exact congrArg _ (List.flatMap_congr fun f _ => hfields f)

lemma names_registerItems {bank : String} {r : Register} (hbank : isName bank)
    (hr : r.WellFormed) (placed : PlacedRegister) :
    (registerItems options bank r placed).filterMap Item.name?
      = ((registerSymbols bank r placed).map (·.symbol)).filter options.keeps := by
  have hwords (owner stem : String) :
      (if placed.spansWords then wordItems stem placed.words else []).filterMap Item.name?
        = (if placed.spansWords then wordSymbols owner stem placed.size else []).map
          (·.symbol) := by
    split
    · exact names_wordItems owner stem placed.words
    · rfl
  have hfields (owner stem : String) :
      (r.fields.flatMap (fieldItems stem)).filterMap Item.name?
        = (r.fields.flatMap (fieldSymbols owner stem)).map (·.symbol) := by
    rw [List.filterMap_flatMap, List.map_flatMap]
    rfl
  have haccessors : (if options.withAccessors then (accessors bank r placed).map Item.function
      else []).filterMap Item.name?
        = if options.withAccessors then (accessorSymbols bank r).map (·.symbol) else [] := by
    split
    · rw [names_functions, map_name_accessors]
    · rfl
  rw [registerSymbols_eq, List.map_append, List.filter_append,
    filter_keeps_eq_self fun x hx => (isFlattened_numberSymbols hbank hr hx).constantName,
    filter_keeps_accessors fun x hx => isAccessorName_accessorSymbols hbank hr hx]
  simp only [registerItems, numberSymbols, List.filterMap_append, List.map_append, haccessors,
    hwords (bank ++ "." ++ r.name), hfields (bank ++ "." ++ r.name)]
  rfl

lemma names_bankItems {b : Bank} (hb : b.WellFormed) (placed : PlacedBank) :
    (bankItems options b placed).filterMap Item.name?
      = ((bankSymbols b placed).map (·.symbol)).filter options.keeps := by
  rw [bankItems, bankSymbols, List.filterMap_append, List.map_append, List.filterMap_flatMap,
    List.map_flatMap, List.filter_append, List.filter_flatMap, filter_keeps_eq_self]
  · refine congrArg _ (List.flatMap_congr fun p hp => ?_)
    exact names_registerItems hb.name (hb.registers p.1 (List.of_mem_zip hp).1) p.2
  · intro x hx
    rcases List.mem_pair.1 hx with rfl | rfl
    all_goals exact (isFlattened_symbolOf_csr hb.name (by simp)).constantName

lemma names_busItems (options : Options) (bus : BusGeometry) :
    (busItems bus).filterMap Item.name? = (busSymbols.map (·.symbol)).filter options.keeps := by
  rw [filter_keeps_eq_self fun x hx => (isFlattened_busSymbols hx).constantName]
  rfl

lemma names_interruptItems (options : Options) {table : InterruptTable}
    (h : ∀ i ∈ table.entries, isName i.name) :
    (interruptItems table).filterMap Item.name?
      = ((table.entries.flatMap interruptSymbols).map (·.symbol)).filter options.keeps := by
  have hentries : (table.entries.map fun i => defineTo (upper i.name ++ "_INTERRUPT")
      (.count i.bit.toNat)).filterMap Item.name?
        = (table.entries.flatMap interruptSymbols).map (·.symbol) := by
    rw [List.map_flatMap, List.filterMap_map, List.filterMap_eq_flatMap_toList]
    refine List.flatMap_congr fun i hi => ?_
    have hupper : upper "interrupt" = "INTERRUPT" := by decide
    have hname := (isName_iff.1 (h i hi)).1.nonempty
    simp [interruptSymbols, symbolOf_pair hname, hupper, defineTo, Item.name?,
      String.append_assoc]
  rw [filter_keeps_eq_self, ← hentries, interruptItems]
  · split
    · rename_i hempty
      rw [List.isEmpty_iff.1 hempty]
      rfl
    · rfl
  · intro x hx
    obtain ⟨i, hi, hx⟩ := List.mem_flatMap.1 hx
    exact (isFlattened_interruptSymbols (h i hi) hx).constantName

lemma names_regionItems (options : Options) {regions : List Region}
    (h : ∀ region ∈ regions, isName region.name) :
    (regionItems regions).filterMap Item.name?
      = ((regions.flatMap regionSymbols).map (·.symbol)).filter options.keeps := by
  rw [filter_keeps_eq_self, regionItems]
  · split
    · rename_i hempty
      rw [List.isEmpty_iff.1 hempty]
      rfl
    · rw [List.filterMap_append, List.filterMap_flatMap, List.map_flatMap]
      rfl
  · intro x hx
    obtain ⟨region, hregion, hx⟩ := List.mem_flatMap.1 hx
    exact (isFlattened_regionSymbols (h region hregion) hx).constantName

lemma names_constantItems (options : Options) {constants : List Constant}
    (h : ∀ constant ∈ constants, isConstantName constant.name) :
    (constantItems constants).filterMap Item.name?
      = ((constants.flatMap constantSymbols).map (·.symbol)).filter options.keeps := by
  rw [filter_keeps_eq_self, constantItems]
  · split
    · rename_i hempty
      rw [List.isEmpty_iff.1 hempty]
      rfl
    · rw [List.filterMap_append, List.filterMap_map, List.filterMap_eq_flatMap_toList,
        List.filterMap_eq_flatMap_toList, List.map_flatMap]
      rfl
  · intro x hx
    obtain ⟨constant, hconstant, hx⟩ := List.mem_flatMap.1 hx
    rw [List.mem_singleton.1 hx]
    exact h constant hconstant

/-! ### The whole header -/

lemma names_laterItems (h : soc.Finished) (hnamed : soc.declarations.Named) :
    (laterItems soc options).filterMap Item.name?
      = (soc.symbols.map (·.symbol)).filter options.keeps := by
  have hbanks : (soc.placedBanks.flatMap fun p => bankItems options p.1 p.2).filterMap Item.name?
      = ((soc.placedBanks.flatMap fun p => bankSymbols p.1 p.2).map (·.symbol)).filter
        options.keeps := by
    rw [List.filterMap_flatMap, List.map_flatMap, List.filter_flatMap]
    exact List.flatMap_congr fun p hp =>
      names_bankItems (h.fits.wellFormed p.1 (List.of_mem_zip hp).1) p.2
  have hend : [Item.blank, Item.guardEnd options.guardSymbol].filterMap Item.name? = [] := rfl
  have hinterrupts : ∀ i ∈ soc.interrupts.entries, isName i.name := hnamed.interrupts
  have hregions : ∀ r ∈ soc.regions, isName r.name := hnamed.regions
  have hconstants : ∀ c ∈ soc.constants, isConstantName c.name := hnamed.constants
  simp only [laterItems, Soc.symbols, List.filterMap_append, List.map_append, List.filter_append,
    names_busItems options, hbanks, names_interruptItems options hinterrupts,
    names_regionItems options hregions, names_constantItems options hconstants, hend,
    List.append_nil]

/-- **A header introduces its guard and the symbols of its system** in their order, without
accessors those in upper case. -/
theorem names_items (h : soc.Finished) (hnamed : soc.declarations.Named) (options : Options) :
    (items soc options).filterMap Item.name?
      = options.guardSymbol :: (soc.symbols.map (·.symbol)).filter options.keeps := by
  rw [items_eq, List.filterMap_append, names_topItems, names_laterItems h hnamed]
  rfl

/-- Only names that an item introduces are read of it as numbers. -/
lemma Item.map_fst_filterMap_entry?_sublist (items : List Item) :
    (items.filterMap entry?).map Prod.fst <+ items.filterMap name? := by
  have hitem (item : Item) : item.entry?.toList.map Prod.fst <+ item.name?.toList := by
    unfold entry? name?
    split
    · rename_i symbol value
      cases value.amount?.bind toWord? <;> simp
    · exact List.nil_sublist _
  rw [List.filterMap_eq_flatMap_toList, List.filterMap_eq_flatMap_toList, List.map_flatMap]
  exact List.Sublist.flatMap_right items fun item _ => hitem item

/-- The symbols that are read of a header as numbers are symbols of its system, in their order. -/
theorem map_fst_entries_sublist (h : soc.Finished) (hnamed : soc.declarations.Named)
    (options : Options) :
    ((items soc options).filterMap Item.entry?).map Prod.fst <+ soc.symbols.map (·.symbol) := by
  have htop : (topItems options).filterMap Item.entry? = [] := by
    have hbanner (ls : List String) : (ls.map Item.banner).filterMap Item.entry? = [] := by
      rw [List.filterMap_map]
      exact List.filterMap_eq_nil_iff.2 fun _ _ => rfl
    rw [topItems, List.filterMap_append, List.filterMap_append, hbanner]
    split <;> rfl
  rw [items_eq, List.filterMap_append, htop, List.nil_append]
  refine (Item.map_fst_filterMap_entry?_sublist _).trans ?_
  rw [names_laterItems h hnamed]
  exact List.filter_sublist

end CsrMap.Header
