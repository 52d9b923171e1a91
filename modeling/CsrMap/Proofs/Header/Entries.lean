import CsrMap.Proofs.Declaration.Calls
import CsrMap.Proofs.Header.Names

/-!
What a reader finds in the header of a finished system.

All names in a header are checked, so its items keep to what makes them readable. Each word of a
register that takes several, and each register, is then found under its symbols.
-/

namespace CsrMap

open Text

namespace Header

/-! ### Names in accessors -/

namespace Expression

variable {operand : Expression}

@[simp] lemma names_movedLeft (operand : Expression) (distance : UInt32) :
    (movedLeft operand distance).names = operand.names := by
  unfold movedLeft
  split <;> simp [names]

@[simp] lemma names_movedRight (operand : Expression) (distance : UInt32) :
    (movedRight operand distance).names = operand.names := by
  unfold movedRight
  split <;> simp [names]

@[simp] lemma names_masked (operand : Expression) (mask : UInt64) :
    (masked operand mask).names = operand.names := by
  simp [masked, names]

end Expression

variable {bank function name : String} {r : Register} {type : IntType} {f : Function} {n : String}

/-- The names in a function come from its head and from its statements. -/
lemma Function.unbroken_names (hname : Unbroken f.name)
    (hparameters : ∀ p ∈ f.parameters, Unbroken p.2)
    (hbody : ∀ s ∈ f.body, ∀ n ∈ s.names, Unbroken n) : ∀ n ∈ f.names, Unbroken n := by
  intro n hn
  rcases List.mem_cons.1 hn with rfl | hn
  · exact hname
  · rcases List.mem_append.1 hn with hn | hn
    · obtain ⟨p, hp, rfl⟩ := List.mem_map.1 hn
      exact hparameters p hp
    · obtain ⟨s, hs, hn⟩ := List.mem_flatMap.1 hn
      exact hbody s hs n hn

lemma unbroken_registerRead (h : Unbroken function) (placed : PlacedRegister) :
    ∀ n ∈ (registerRead function type placed).names, Unbroken n := by
  have hfixed : ∀ n ∈ ["r", "csr_read_simple"], Unbroken n := by decide
  refine Function.unbroken_names (unbroken_append.2 ⟨h, by decide⟩) (by simp [registerRead])
    fun s hs n hn => hfixed n ?_
  have hs : s.names ⊆ ["r", "csr_read_simple"] := by
    unfold registerRead at hs
    split at hs
    · simp only [List.mem_append, List.mem_singleton, List.mem_map] at hs
      rcases hs with (rfl | ⟨word, -, rfl⟩) | rfl
      · simp [Statement.names]
      · simp [Statement.names, Expression.names, readWord]
      · simp [Statement.names, Expression.names]
    · rw [List.mem_singleton] at hs
      simp [hs, Statement.names, Expression.names, readWord]
  exact hs hn

lemma unbroken_registerWrite (h : Unbroken function) (placed : PlacedRegister) :
    ∀ n ∈ (registerWrite function type placed).names, Unbroken n := by
  have hfixed : ∀ n ∈ ["csr_write_simple", "v"], Unbroken n := by decide
  refine Function.unbroken_names (unbroken_append.2 ⟨h, by decide⟩) ?_ fun s hs n hn => hfixed n ?_
  · intro p hp
    rw [List.mem_singleton.1 hp]
    exact (by decide : Unbroken "v")
  · obtain ⟨word, -, rfl⟩ := List.mem_map.1 hs
    simpa [Statement.names, Expression.names] using hn

lemma unbroken_fieldAccessor (hfunction : Unbroken function) (hname : Unbroken name)
    (type : IntType) (fd : Field) {accessor : Function} (h : accessor ∈ [fieldExtract name type fd,
      fieldRead function name type, fieldReplace name type fd, fieldWrite function name type]) :
    ∀ n ∈ accessor.names, Unbroken n := by
  have hnames : ∀ n ∈ ["_extract", "_read", "_replace", "_write", "oldword", "plain_value"],
    Unbroken n := by decide
  simp only [List.forall_mem_cons] at hnames
  simp only [List.mem_cons, List.not_mem_nil, or_false] at h
  rcases h with rfl | rfl | rfl | rfl
  · simp [fieldExtract, Function.names, Statement.names, Expression.names, position, hname, hnames]
  · simp [fieldRead, Function.names, Statement.names, Expression.names, hfunction, hname, hnames]
  · simp [fieldReplace, Function.names, Statement.names, Expression.names, position, hname, hnames]
  · simp [fieldWrite, Function.names, Statement.names, Expression.names, hfunction, hname, hnames]

/-- An accessor is one of the two of a register, or one of the four of a field. -/
lemma accessor_cases {placed : PlacedRegister} (h : f ∈ accessors bank r placed) :
    let function := bank ++ "_" ++ r.name
    let type := IntType.ofWidth r.width
    f ∈ [registerRead function type placed, registerWrite function type placed] ∨
      ∃ fd ∈ r.fields, f ∈ [fieldExtract (function ++ "_" ++ fd.name) type fd,
        fieldRead function (function ++ "_" ++ fd.name) type,
        fieldReplace (function ++ "_" ++ fd.name) type fd,
        fieldWrite function (function ++ "_" ++ fd.name) type] := by
  rcases List.mem_append.1 h with h | h
  · left
    unfold registerAccessors at h
    split at h
    · exact h
    · rw [List.mem_singleton.1 h]
      exact List.mem_cons_self
  · obtain ⟨fd, hfd, h⟩ := List.mem_flatMap.1 h
    right
    refine ⟨fd, hfd, ?_⟩
    unfold fieldAccessors at h
    split at h
    · exact h
    · exact List.mem_append_left _ (List.append_nil _ ▸ h)

/-- The accessors of a register have the names of the declarations and fixed ones. -/
lemma unbroken_accessors (hbank : Unbroken bank) (hr : Unbroken r.name)
    (hfields : ∀ fd ∈ r.fields, Unbroken fd.name) (placed : PlacedRegister) :
    ∀ f ∈ accessors bank r placed, ∀ n ∈ f.names, Unbroken n := by
  have hbar : Unbroken "_" := by decide
  have hfunction : Unbroken (bank ++ "_" ++ r.name) := by simp [hbank, hbar, hr]
  intro f hf
  rcases accessor_cases hf with hf | ⟨fd, hfd, hf⟩
  · rcases List.mem_pair.1 hf with rfl | rfl
    · exact unbroken_registerRead hfunction placed
    · exact unbroken_registerWrite hfunction placed
  · have hname : Unbroken (bank ++ "_" ++ r.name ++ "_" ++ fd.name) := by
      simp [hbank, hbar, hr, hfields fd hfd]
    exact unbroken_fieldAccessor hfunction hname (IntType.ofWidth r.width) fd hf

/-! ### Items -/

variable {soc : Soc} {options : Options} {bus : BusGeometry}

lemma proper_define {symbol : String} {value : Option Literal} (h : isConstantName symbol) :
    (Item.define symbol value).Proper :=
  ⟨IsWord.of_isConstantName h, fun _ hs => Option.some.inj hs ▸ h⟩

lemma proper_defineTo {symbol : String} {value : Literal} (h : isConstantName symbol) :
    (defineTo symbol value).Proper := proper_define h

/-- An item that defines nothing is proper where it is readable. -/
lemma proper_of_symbol?_eq_none {item : Item} (h : item.Readable) (hsymbol : item.symbol? = none) :
    item.Proper :=
  ⟨h, fun s hs => absurd (hsymbol ▸ hs) (Option.not_mem_none s)⟩

lemma proper_blank : Item.blank.Proper := proper_of_symbol?_eq_none trivial rfl

lemma proper_heading {title : String} (h : Unbroken title) : (Item.heading title).Proper :=
  proper_of_symbol?_eq_none h rfl

lemma readable_topItems (h : IsWord options.guardSymbol) :
    ∀ item ∈ topItems options, item.Readable := by
  intro item hitem
  rcases List.mem_append.1 hitem with hitem | hitem
  · rcases List.mem_append.1 hitem with hitem | hitem
    · obtain ⟨l, hl, rfl⟩ := List.mem_map.1 hitem
      cases htext : options.bannerText with
      | none => simp [htext] at hl
      | some text =>
        rw [htext] at hl
        exact unbroken_of_mem_lines hl
    · simp only [List.mem_cons, List.not_mem_nil, or_false] at hitem
      rcases hitem with rfl | rfl | rfl
      · exact h
      · exact h
      · exact (by decide : Unbroken "stdint.h")
  · split at hitem
    · simp only [List.mem_cons, List.not_mem_nil, or_false] at hitem
      rcases hitem with rfl | rfl | rfl
      · exact (by decide : IsWord "CSR_ACCESSORS_DEFINED")
      · exact (by decide : Unbroken "hw/common.h")
      · exact (by decide : IsWord "CSR_ACCESSORS_DEFINED")
    · simp at hitem

lemma proper_busItems (bus : BusGeometry) : ∀ item ∈ busItems bus, item.Proper := by
  intro item hitem
  simp only [busItems, List.mem_cons, List.not_mem_nil, or_false] at hitem
  rcases hitem with rfl | rfl | rfl | rfl
  · exact proper_blank
  all_goals exact proper_defineTo (by decide)

lemma proper_wordItems {stem : String} (h : isConstantName stem) (words : List Slice) :
    ∀ item ∈ wordItems stem words, item.Proper := by
  intro item hitem
  obtain ⟨⟨word, index⟩, -, hitem⟩ := List.mem_flatMap.1 hitem
  have hword : isConstantName (stem ++ "_W" ++ Numeral.decimal index) :=
    isConstantName_append (isConstantName_append h (by decide)) (isUpperWord_decimal index)
  simp only [List.mem_cons, List.not_mem_nil, or_false] at hitem
  rcases hitem with rfl | rfl | rfl
  all_goals exact proper_defineTo (isConstantName_append hword (by decide))

lemma proper_registerItems (hbank : isName bank) (hr : r.WellFormed)
    (placed : PlacedRegister) : ∀ item ∈ registerItems options bank r placed, item.Proper := by
  have hstem := isConstantName_symbolOf_csr hbank hr.name
  intro item hitem
  simp only [registerItems, List.mem_append] at hitem
  rcases hitem with ((hitem | hitem) | hitem) | hitem
  · simp only [List.mem_cons, List.not_mem_nil, or_false] at hitem
    rcases hitem with rfl | rfl
    all_goals exact proper_defineTo (isConstantName_append hstem (by decide))
  · split at hitem
    · exact proper_wordItems hstem _ item hitem
    · simp at hitem
  · obtain ⟨f, hf, hitem⟩ := List.mem_flatMap.1 hitem
    have hsymbol := isConstantName_symbolOf_pair (isConstantName_iff.1 hstem).1
      (isName_iff.1 (hr.fields f hf).name).1
    simp only [fieldItems, List.mem_cons, List.not_mem_nil, or_false] at hitem
    rcases hitem with rfl | rfl
    all_goals exact proper_defineTo (isConstantName_append hsymbol (by decide))
  · split at hitem
    · obtain ⟨f, hf, rfl⟩ := List.mem_map.1 hitem
      have hreadable := unbroken_accessors (IsWord.of_isName hbank).unbroken
        (IsWord.of_isName hr.name).unbroken
        (fun f hf => (IsWord.of_isName (hr.fields f hf).name).unbroken) placed f hf
      exact proper_of_symbol?_eq_none hreadable rfl
    · simp at hitem

lemma proper_bankItems {b : Bank} (hb : b.WellFormed) (placed : PlacedBank) :
    ∀ item ∈ bankItems options b placed, item.Proper := by
  intro item hitem
  rcases List.mem_append.1 hitem with hitem | hitem
  · simp only [List.mem_cons, List.not_mem_nil, or_false] at hitem
    rcases hitem with rfl | rfl | rfl | rfl
    · exact proper_blank
    · exact proper_heading (IsWord.of_isName hb.name).unbroken
    · exact proper_defineTo (isConstantName_symbolOf_csr hb.name (by decide))
    · exact proper_defineTo (isConstantName_symbolOf_csr hb.name (by decide))
  · obtain ⟨⟨r, p⟩, hr, hitem⟩ := List.mem_flatMap.1 hitem
    exact proper_registerItems hb.name (hb.registers r (List.of_mem_zip hr).1) p item hitem

lemma proper_interruptItems {table : InterruptTable} (h : ∀ i ∈ table.entries, isName i.name) :
    ∀ item ∈ interruptItems table, item.Proper := by
  intro item hitem
  unfold interruptItems at hitem
  split at hitem
  · simp at hitem
  · simp only [List.mem_append, List.mem_cons, List.not_mem_nil, or_false, List.mem_map] at hitem
    rcases hitem with (rfl | rfl) | ⟨i, hi, rfl⟩
    · exact proper_blank
    · exact proper_heading (by decide)
    · have hname := isConstantName_upper (isName_iff.1 (h i hi)).1
      exact proper_defineTo (isConstantName_append hname (by decide))

lemma proper_regionItems {regions : List Region} (h : ∀ region ∈ regions, isName region.name) :
    ∀ item ∈ regionItems regions, item.Proper := by
  intro item hitem
  unfold regionItems at hitem
  split at hitem
  · simp at hitem
  · simp only [List.mem_append, List.mem_cons, List.not_mem_nil, or_false, List.mem_flatMap]
      at hitem
    rcases hitem with (rfl | rfl) | ⟨region, hregion, hitem⟩
    · exact proper_blank
    · exact proper_heading (by decide)
    · have hname := (isName_iff.1 (h region hregion)).1
      rcases hitem with rfl | rfl
      all_goals
        exact proper_defineTo (isFlattened_symbolOf_pair hname (by simp)).constantName

lemma proper_constantItems {constants : List Constant}
    (h : ∀ constant ∈ constants, isConstantName constant.name) :
    ∀ item ∈ constantItems constants, item.Proper := by
  intro item hitem
  unfold constantItems at hitem
  split at hitem
  · simp at hitem
  · simp only [List.mem_append, List.mem_cons, List.not_mem_nil, or_false, List.mem_map] at hitem
    rcases hitem with (rfl | rfl) | ⟨constant, hconstant, rfl⟩
    · exact proper_blank
    · exact proper_heading (by decide)
    · exact proper_define (h constant hconstant)

/-- After the top, what a header defines is in upper case. -/
lemma proper_laterItems (h : soc.Finished) (hnamed : soc.declarations.Named)
    (hguard : IsWord options.guardSymbol) : ∀ item ∈ laterItems soc options, item.Proper := by
  intro item hitem
  simp only [laterItems, List.mem_append] at hitem
  rcases hitem with ((((hitem | hitem) | hitem) | hitem) | hitem) | hitem
  · exact proper_busItems soc.bus item hitem
  · obtain ⟨⟨b, placed⟩, hb, hitem⟩ := List.mem_flatMap.1 hitem
    exact proper_bankItems (h.fits.wellFormed b (List.of_mem_zip hb).1) placed item hitem
  · exact proper_interruptItems hnamed.interrupts item hitem
  · exact proper_regionItems hnamed.regions item hitem
  · exact proper_constantItems hnamed.constants item hitem
  · simp only [List.mem_cons, List.not_mem_nil, or_false] at hitem
    rcases hitem with rfl | rfl
    · exact proper_blank
    · exact proper_of_symbol?_eq_none hguard rfl

/-- **Every line of a header can be read**, where the guard is a word. -/
theorem readable_items (h : soc.Finished) (hnamed : soc.declarations.Named)
    (hguard : IsWord options.guardSymbol) : ∀ item ∈ items soc options, item.Readable := by
  intro item hitem
  rw [items_eq] at hitem
  rcases List.mem_append.1 hitem with hitem | hitem
  · exact readable_topItems hguard item hitem
  · exact (proper_laterItems h hnamed hguard item hitem).readable

/-- At the top a header defines its guard. -/
lemma symbol?_topItems {item : Item} (hitem : item ∈ topItems options) {symbol : String}
    (h : symbol ∈ item.symbol?) : symbol = options.guardSymbol := by
  simp only [topItems, List.mem_append, List.mem_map, List.mem_cons, List.not_mem_nil,
    or_false] at hitem
  rcases hitem with (⟨line, -, rfl⟩ | rfl | rfl | rfl) | hitem
  · cases h
  · cases h
  · exact (Option.some.inj h).symm
  · cases h
  · split at hitem
    · simp only [List.mem_cons, List.not_mem_nil, or_false] at hitem
      rcases hitem with rfl | rfl | rfl
      all_goals cases h
    · simp at hitem

/-- **What a header defines is its guard, or is in upper case.** -/
theorem symbol_of_mem_items (h : soc.Finished) (hnamed : soc.declarations.Named)
    (hguard : IsWord options.guardSymbol) {item : Item} (hitem : item ∈ items soc options)
    {symbol : String} (hsymbol : symbol ∈ item.symbol?) :
    symbol = options.guardSymbol ∨ isConstantName symbol := by
  rw [items_eq] at hitem
  rcases List.mem_append.1 hitem with hitem | hitem
  · exact .inl (symbol?_topItems hitem hsymbol)
  · exact .inr ((proper_laterItems h hnamed hguard item hitem).upper symbol hsymbol)

/-! ### The table that is read -/

/-- Where keys are apart, a pair of a table is what its key leads to. -/
lemma lookup_eq_some_of_mem {table : List (String × UInt64)} (hn : (table.map Prod.fst).Nodup)
    {key : String} {value : UInt64} (h : (key, value) ∈ table) : table.lookup key = some value := by
  obtain ⟨front, back, rfl⟩ := List.append_of_mem h
  refine List.lookup_eq_some_iff.2 ⟨front, back, rfl, fun p hp => ?_⟩
  rw [List.map_append, List.nodup_append] at hn
  have hne := hn.2.2 p.1 (List.mem_map.2 ⟨p, hp, rfl⟩) key (by simp)
  simpa using Ne.symm hne

/-- What the defines under `stem` say about a register whose first word lies at `start`. -/
structure Describes (table : List (String × UInt64)) (stem : String) (bus : BusGeometry)
    (r : Register) (start : ℕ) : Prop where
  address : table.lookup (stem ++ "_ADDR") = some start.toUInt64
  size : table.lookup (stem ++ "_SIZE") = some (bus.wordCount r.width).toUInt64
  word : 1 < bus.wordCount r.width → ∀ k < bus.wordCount r.width,
    let word := stem ++ "_W" ++ Numeral.decimal k
    table.lookup (word ++ "_ADDR") = some (bus.tile r.width start k).address ∧
      table.lookup (word ++ "_SHIFT") = some (bus.tile r.width start k).shift.toUInt64 ∧
      table.lookup (word ++ "_MASK") = some (bus.tile r.width start k).mask

lemma toWord?_shortWord (n : UInt32) : toWord? n.toNat = some n.toUInt64 := by
  have hlt : n.toNat < UInt64.size := n.toNat_lt.trans (by decide)
  rw [toWord?, if_pos hlt]
  exact congrArg some (UInt64.toNat_inj.1 (UInt64.toNat_ofNat_of_lt' hlt))

/-- The items of a register are items of the header. -/
lemma mem_items_of_register (h : soc.Finished) {i j start : ℕ} {b : Bank}
    (hosts : soc.bus.Hosts soc.banks i j b r start) {item : Item}
    (hitem : item ∈ registerItems options b.name r (soc.bus.registerAt start r)) :
    item ∈ items soc options := by
  have hbank := (Soc.getElem?_placedBanks h i).trans (congrArg _ hosts.bank)
  have hregister := (BusGeometry.getElem?_zip_registersFrom soc.bus
    (soc.bus.base.toNat + soc.bus.total (soc.banks.take i)) b.registers j).trans
    (congrArg _ hosts.register)
  rw [Option.map_some, ← hosts.start_eq] at hregister
  have hitem : item ∈ bankItems options b (soc.bus.bankAt
      (soc.bus.base.toNat + soc.bus.total (soc.banks.take i)) b) :=
    List.mem_append_right _ (List.mem_flatMap.2 ⟨_, List.mem_of_getElem? hregister, hitem⟩)
  refine List.mem_append_left _ (List.mem_append_left _ (List.mem_append_left _
    (List.mem_append_left _ (List.mem_append_right _ ?_))))
  exact List.mem_flatMap.2 ⟨_, List.mem_of_getElem? hbank, hitem⟩

/-- **The table that is read describes every register** under its bank's and its own name. -/
theorem describes_entries (h : soc.Finished) (options : Options)
    (hnamed : soc.declarations.Named) {i j start : ℕ} {b : Bank}
    (hosts : soc.bus.Hosts soc.banks i j b r start) :
    Describes ((items soc options).filterMap Item.entry?)
      (upper ("CSR_" ++ b.name ++ "_" ++ r.name)) soc.bus r start := by
  have hbank := (isName_iff.1 (h.fits.wellFormed b hosts.mem_bank).name).1.nonempty
  have hregister := (isName_iff.1 (hosts.wellFormed h.fits).name).1.nonempty
  rw [← symbolOf_register hbank hregister]
  have hn := (Soc.nodup_symbols h).sublist (map_fst_entries_sublist h hnamed options)
  -- A definition among the items of the register is what its symbol leads to.
  have hlookup {symbol : String} {w : UInt64} (value : Literal)
      (hitem : defineTo symbol value ∈ registerItems options b.name r (soc.bus.registerAt start r))
      (hw : value.amount?.bind toWord? = some w) :
      ((items soc options).filterMap Item.entry?).lookup symbol = some w := by
    refine lookup_eq_some_of_mem hn (List.mem_filterMap.2
      ⟨_, mem_items_of_register h hosts hitem, ?_⟩)
    rw [defineTo, Item.entry?, hw]
    rfl
  have hcount : soc.bus.wordCount r.width < UInt64.size :=
    (BusGeometry.wordCount_lt h.sound.dataWidth_pos).trans (by decide)
  have hsize : (soc.bus.registerAt start r).size = soc.bus.wordCount r.width :=
    BusGeometry.length_tiles soc.bus r.width start
  refine ⟨hlookup (.address start.toUInt64) ?_ (toWord?_toNat _),
    hlookup (.count (soc.bus.registerAt start r).size) ?_ ?_, fun hlt k hk => ?_⟩
  · simp [registerItems, defineTo, BusGeometry.registerAt]
  · simp [registerItems, defineTo]
  · rw [hsize]
    exact if_pos hcount
  · have hspans : (soc.bus.registerAt start r).spansWords = true := by
      rw [PlacedRegister.spansWords, hsize]
      simpa using hlt
    have hword : (soc.bus.tile r.width start k, k) ∈ (soc.bus.tiles r.width start).zipIdx := by
      rw [List.mk_mem_zipIdx_iff_getElem?, BusGeometry.tiles, List.getElem?_map,
        List.getElem?_range hk]
      rfl
    have hitem {item : Item} (h : item ∈ wordItems (symbolOf ["csr", b.name, r.name])
        (soc.bus.tiles r.width start)) :
        item ∈ registerItems options b.name r (soc.bus.registerAt start r) := by
      simp only [registerItems, hspans, if_true, List.mem_append]
      exact .inl (.inl (.inr h))
    refine ⟨hlookup (.address _) (hitem ?_) (toWord?_toNat _),
      hlookup (.count _) (hitem ?_) (toWord?_shortWord _),
      hlookup (.mask _) (hitem ?_) (toWord?_toNat _)⟩
    all_goals exact List.mem_flatMap.2 ⟨_, hword, by simp⟩

lemma forM_eq_ok {ε α : Type} {f : α → Except ε Unit} {xs : List α} (h : ∀ x ∈ xs, f x = .ok ()) :
    xs.forM f = .ok () := by
  induction xs with
  | nil => rfl
  | cons x xs ih =>
    rw [List.forM_eq_forM] at ih ⊢
    rw [List.forM_cons, h x (by simp), step_eq_ok_iff]
    exact ⟨rfl, ih fun y hy => h y (by simp [hy])⟩

/-- A finished system has a header. -/
theorem header_eq_ok {d : Declarations} (h : d.complete bus = .ok soc) (options : Options) :
    soc.header options = .ok (render (items soc options)) := by
  have hfinished := Declarations.finished_of_complete h
  obtain ⟨m, -, hsoc, hdense, -⟩ := Declarations.eq_of_complete h
  have hwidths : checkWidths soc = .ok () := by
    refine forM_eq_ok fun p hp => forM_eq_ok fun r hr => if_neg ?_
    have hb := hfinished.fits.wellFormed p.1 (List.of_mem_zip hp).1
    have hle := (hb.registers r hr).width_le
    rw [UInt32.lt_iff_toNat_lt, Nat.not_lt]
    exact hle
  have hdense : soc.interrupts.checkDense = .ok () := by
    rw [hsoc]
    exact hdense
  rw [Soc.header, hwidths, hdense]
  rfl

end Header

/-- What calls have declared has names that are checked. -/
lemma Soc.named_of_calls {bus : BusGeometry} {calls : List Call}
    (h : (Declarations.after {} calls).complete bus = .ok soc) : soc.declarations.Named := by
  rw [Declarations.declarations_of_complete h]
  exact (Declarations.wellFormed_after calls).toNamed

end CsrMap
