import CsrMap.Export.Rows
import CsrMap.Proofs.Declaration.Calls
import CsrMap.Proofs.Header.Symbols
import CsrMap.Proofs.Soc.Places

/-!
The rows of a system as a table that can be read back.

Cells are written as they are. All of them are words but the texts that constants stand for, so
the lines of the rows split into five cells each where no such text has a comma or a line feed,
and nowhere else. What the rows say is then found in their text alone. The name of a register
stands behind that of its bank, which is the last bank that does not start after the register.
-/

namespace CsrMap

open Header Numeral Text

namespace Export

variable {row : Row} {s : String} {kind : String}

/-! ### Cells -/

/-- The cells of a line: what stands between its commas. -/
def cells (line : String) : List String := (line.toList.splitOn ',').map String.ofList

lemma cells_line (h : ∀ s ∈ row.cells, ',' ∉ s.toList) : cells row.line = row.cells := by
  have hline : row.line.toList = [','].intercalate (row.cells.map String.toList) :=
    String.toList_intercalate
  rw [cells, hline, List.splitOn_intercalate, List.map_map]
  · exact (List.map_congr_left fun s _ => String.ofList_toList).trans (List.map_id _)
  · intro cs hcs
    obtain ⟨s, hs, rfl⟩ := List.mem_map.1 hcs
    exact h s hs
  · simp [Row.cells]

/-- A piece of a split has no separator, and what it has is in the whole. -/
lemma notMem_and_subset_of_mem_splitOn {α : Type} [DecidableEq α] {x : α} {xs piece : List α}
    (h : piece ∈ xs.splitOn x) : x ∉ piece ∧ piece ⊆ xs := by
  induction xs generalizing piece with
  | nil =>
    rw [List.splitOn_nil, List.mem_singleton] at h
    simp [h]
  | cons y xs ih =>
    rw [List.splitOn_cons_eq_if_modifyHead] at h
    split at h
    · rcases List.mem_cons.1 h with rfl | h
      · simp
      · exact ⟨(ih h).1, List.subset_cons_of_subset y (ih h).2⟩
    · rename_i hne
      obtain ⟨first, rest, hsplit⟩ := List.exists_cons_of_ne_nil (List.splitOn_ne_nil x xs)
      rw [hsplit] at ih
      rw [hsplit, List.modifyHead_cons] at h
      rcases List.mem_cons.1 h with rfl | h
      · obtain ⟨hnot, hsub⟩ := ih List.mem_cons_self
        have hxy : x ≠ y := fun heq => hne (by simp [heq])
        exact ⟨by simpa [hxy] using hnot, List.cons_subset_cons y hsub⟩
      · obtain ⟨hnot, hsub⟩ := ih (List.mem_cons_of_mem first h)
        exact ⟨hnot, List.subset_cons_of_subset y hsub⟩

/-- The text fits in one cell. -/
structure Plain (s : String) : Prop where
  comma : ',' ∉ s.toList
  unbroken : Unbroken s

/-- The cells of the lines of a text are plain. -/
lemma plain_of_mem_cells {text : String} {row : List String}
    (hrow : row ∈ (lines text).map cells) (hs : s ∈ row) : Plain s := by
  obtain ⟨line, hline, rfl⟩ := List.mem_map.1 hrow
  obtain ⟨piece, hpiece, rfl⟩ := List.mem_map.1 hs
  obtain ⟨hcomma, hsub⟩ := notMem_and_subset_of_mem_splitOn hpiece
  constructor
  · rwa [String.toList_ofList]
  · rw [Unbroken, String.toList_ofList]
    exact fun hmem => unbroken_of_mem_lines hline (hsub hmem)

lemma plain_of_isWord (h : IsWord s) : Plain s :=
  ⟨fun hc => absurd (h _ hc) (by decide), h.unbroken⟩

/-- A row whose cells are plain is a line and splits into its cells. -/
lemma line_of_plain (h : ∀ s ∈ row.cells, Plain s) (hmode : IsWord row.mode) :
    IsLine row.line ∧ cells row.line = row.cells := by
  refine ⟨?_, cells_line fun s hs => (h s hs).comma⟩
  have hline : row.line = row.kind ++ "," ++ row.name ++ "," ++ row.value ++ "," ++ row.size
      ++ ("," ++ row.mode) := by
    simp [Row.line, Row.cells, String.intercalate_cons_cons, String.append_assoc]
  have hcomma : IsLine "," := ⟨by decide, by decide⟩
  have hsimple : Unbroken "," := hcomma.unbroken
  have hcells : Unbroken row.kind ∧ Unbroken row.name ∧ Unbroken row.value ∧
      Unbroken row.size := by
    simp only [Row.cells, List.forall_mem_cons] at h
    exact ⟨h.1.unbroken, h.2.1.unbroken, h.2.2.1.unbroken, h.2.2.2.1.unbroken⟩
  rw [hline]
  refine Unbroken.append_isLine ?_ (hcomma.append hmode.isLine) (by simp)
  simp only [unbroken_append]
  exact ⟨⟨⟨⟨⟨⟨hcells.1, hsimple⟩, hcells.2.1⟩, hsimple⟩, hcells.2.2.1⟩, hsimple⟩, hcells.2.2.2⟩

/-! ### Words in cells -/

lemma isWord_of_spells {n : ℕ} (h : Spells s.toList n) : IsWord s := by
  have hall : (digits ++ ['x', 'U', 'L']).all isWordChar = true := by decide
  exact fun c hc => List.all_eq_true.1 hall c (h.mem hc)

lemma isWord_decimal (n : ℕ) : IsWord (decimal n) := isWord_of_spells (spells_decimal n)

lemma isWord_markedWide (n : ℕ) : IsWord (markedWide n) := isWord_of_spells (spells_markedWide n)

lemma toList_toLower (s : String) : s.toLower.toList = s.toList.map Char.toLower :=
  String.toList_map

/-- The name of a constant comes back from its lower case. -/
lemma toUpper_toLower (h : isConstantName s) : s.toLower.toUpper = s := by
  have hall : ∀ n < 128, isUpperWordChar (Char.ofNat n) →
      (Char.ofNat n).toLower.toUpper = Char.ofNat n := by decide +kernel
  have hchar : ∀ c ∈ s.toList, c.toLower.toUpper = c := by
    intro c hc
    have hupper := (isConstantName_iff.1 h).2 c hc
    have hlt := toNat_lt_of_isWordChar (isWordChar_of_isUpperWordChar hupper)
    have hc := hall c.toNat hlt
    rw [Char.ofNat_toNat] at hc
    exact hc hupper
  rw [← String.toList_inj, String.toUpper, String.toList_map, toList_toLower, List.map_map]
  exact (List.map_congr_left hchar).trans (List.map_id _)

lemma isWord_toLower (h : isConstantName s) : IsWord s.toLower := by
  have hall : ∀ n < 128, isUpperWordChar (Char.ofNat n) → isWordChar (Char.ofNat n).toLower := by
    decide +kernel
  intro c hc
  rw [toList_toLower] at hc
  obtain ⟨d, hd, rfl⟩ := List.mem_map.1 hc
  have hupper := (isConstantName_iff.1 h).2 d hd
  have hlt := toNat_lt_of_isWordChar (isWordChar_of_isUpperWordChar hupper)
  have hlower := hall d.toNat hlt
  rw [Char.ofNat_toNat] at hlower
  exact hlower hupper

end Export

/-! ### The table of a system -/

namespace Soc

open Export

variable {soc : Soc}

/-- The cells of a bank after the first. -/
def bankCells : Bank × PlacedBank → List String
  | (b, placed) => [b.name, markedWide placed.base.toNat, "", ""]

def registerCells (bus : BusGeometry) : Bank × Register × PlacedRegister → List String
  | (b, r, p) =>
    [b.name ++ "_" ++ r.name, markedWide p.address.toNat, decimal (bus.wordCount r.width),
      match r.access with | .status => "ro" | .storage => "rw"]

def interruptCells (i : Interrupt) : List String := [i.name, decimal i.bit.toNat, "", ""]

def constantCells (c : Constant) : List String :=
  [c.name.toLower, match c.value with | .int v => decimal v.toNat | .str s => s | .flag => "None",
    "", ""]

def regionCells (region : Region) : List String :=
  [region.name, markedWide region.origin.toNat, decimal region.size.toNat,
    match region.kind with | .cached => "cached" | .io => "io"]

/-- What the cells say, row by row: banks, registers, interrupts, constants and regions, each kind
in the order of declaration. -/
def table (soc : Soc) : List (List String) :=
  soc.placedBanks.map (fun x => "csr_base" :: bankCells x)
    ++ soc.placedRegisters.map (fun x => "csr_register" :: registerCells soc.bus x)
    ++ soc.interrupts.entries.map (fun i => "interrupt" :: interruptCells i)
    ++ soc.constants.map (fun c => "constant" :: constantCells c)
    ++ soc.regions.map (fun region => "memory_region" :: regionCells region)

lemma map_cells_rows (h : soc.Finished) : (rows soc).map Row.cells = soc.table := by
  have hregisters : (soc.placedBanks.flatMap fun (bank, placed) =>
      placed.registers.map (registerRow bank)).map Row.cells
        = soc.placedRegisters.map fun x => "csr_register" :: registerCells soc.bus x := by
    rw [flatMap_placedBanks h registerRow, List.map_map]
    refine List.map_congr_left fun (b, r, p) hmem => ?_
    have hp := placesRegister_of_mem h hmem
    simp only [Function.comp_apply, registerRow, Row.cells, hp.name, hp.size, hp.access]
    rfl
  simp only [rows, table, List.map_append, List.map_map, hregisters]
  rfl

/-- The cells are words, but for the texts of constants. -/
lemma isWord_of_mem_table (h : soc.Finished) (hnamed : soc.declarations.Named) {row : List String}
    (hrow : row ∈ soc.table) {s : String} (hs : s ∈ row) :
    IsWord s ∨ ∃ c ∈ soc.constants, c.value = .str s := by
  simp only [table, List.mem_append] at hrow
  rcases hrow with (((hrow | hrow) | hrow) | hrow) | hrow
  all_goals
    obtain ⟨x, hx, rfl⟩ := List.mem_map.1 hrow
    simp only [bankCells, registerCells, interruptCells, constantCells, regionCells, List.mem_cons,
      List.not_mem_nil, or_false] at hs
  · have hb := h.fits.wellFormed x.1 (List.of_mem_zip hx).1
    rcases hs with rfl | rfl | rfl | rfl | rfl
    · exact .inl (by decide)
    · exact .inl (IsWord.of_isName hb.name)
    · exact .inl (isWord_markedWide _)
    · exact .inl (by decide)
    · exact .inl (by decide)
  · obtain ⟨i, j, start, hosts, -⟩ := exists_hosts_of_mem h hx
    have hb := IsWord.of_isName (h.fits.wellFormed x.1 hosts.mem_bank).name
    have hr := IsWord.of_isName (hosts.wellFormed h.fits).name
    rcases hs with rfl | rfl | rfl | rfl | rfl
    · exact .inl (by decide)
    · exact .inl ((hb.append (by decide)).append hr)
    · exact .inl (isWord_markedWide _)
    · exact .inl (isWord_decimal _)
    · cases x.2.1.access <;> exact .inl (by decide)
  · rcases hs with rfl | rfl | rfl | rfl | rfl
    · exact .inl (by decide)
    · exact .inl (IsWord.of_isName (hnamed.interrupts x hx))
    · exact .inl (isWord_decimal _)
    · exact .inl (by decide)
    · exact .inl (by decide)
  · rcases hs with rfl | rfl | rfl | rfl | rfl
    · exact .inl (by decide)
    · exact .inl (isWord_toLower (hnamed.constants x hx))
    · cases hvalue : x.value with
      | int v => exact .inl (isWord_decimal _)
      | str s => exact .inr ⟨x, hx, hvalue⟩
      | flag => exact .inl (by decide)
    · exact .inl (by decide)
    · exact .inl (by decide)
  · rcases hs with rfl | rfl | rfl | rfl | rfl
    · exact .inl (by decide)
    · exact .inl (IsWord.of_isName (hnamed.regions x hx))
    · exact .inl (isWord_markedWide _)
    · exact .inl (isWord_decimal _)
    · cases x.kind <;> exact .inl (by decide)

lemma isWord_mode {row : Row} (hrow : row ∈ rows soc) : IsWord row.mode := by
  simp only [rows, List.mem_append] at hrow
  rcases hrow with (((hrow | hrow) | hrow) | hrow) | hrow
  · obtain ⟨x, -, rfl⟩ := List.mem_map.1 hrow
    exact (by decide : IsWord "")
  · obtain ⟨x, -, hrow⟩ := List.mem_flatMap.1 hrow
    obtain ⟨p, -, rfl⟩ := List.mem_map.1 hrow
    have htag : ∀ access : Access, IsWord access.tag := by
      rintro (_ | _) <;> decide
    exact htag p.access
  · obtain ⟨x, -, rfl⟩ := List.mem_map.1 hrow
    exact (by decide : IsWord "")
  · obtain ⟨x, -, rfl⟩ := List.mem_map.1 hrow
    exact (by decide : IsWord "")
  · obtain ⟨region, -, rfl⟩ := List.mem_map.1 hrow
    have hlabel : ∀ kind : Region.Kind, IsWord kind.label := by
      rintro (_ | _) <;> decide
    exact hlabel region.kind

/-- **The text splits into the table** where the texts of constants fit in one cell, and only
there. -/
theorem map_cells_lines_csv_iff (h : soc.Finished) (hnamed : soc.declarations.Named) :
    (lines soc.csv).map cells = soc.table ↔
      ∀ c ∈ soc.constants, ∀ s, c.value = .str s → Plain s := by
  constructor
  · intro htable c hc s hvalue
    have hrow : ["constant", c.name.toLower, s, "", ""] ∈ soc.table := by
      refine List.mem_append_left _ (List.mem_append_right _ (List.mem_map.2 ⟨c, hc, ?_⟩))
      rw [constantCells, hvalue]
    exact plain_of_mem_cells (htable ▸ hrow) (by simp)
  · intro hplain
    have hrow : ∀ row ∈ rows soc, IsLine row.line ∧ cells row.line = row.cells := by
      intro row hrow
      have hmem : row.cells ∈ soc.table := by
        rw [← map_cells_rows h]
        exact List.mem_map_of_mem hrow
      refine line_of_plain (fun s hs => ?_) (isWord_mode hrow)
      rcases isWord_of_mem_table h hnamed hmem hs with hword | ⟨c, hc, hvalue⟩
      · exact plain_of_isWord hword
      · exact hplain c hc s hvalue
    have hlines : ∀ l ∈ (rows soc).map Row.line, IsLine l := by
      intro l hl
      obtain ⟨row, hmem, rfl⟩ := List.mem_map.1 hl
      exact (hrow row hmem).1
    rw [csv, lines_unlines hlines, List.map_map, ← map_cells_rows h]
    exact List.map_congr_left fun row hmem => (hrow row hmem).2

end Soc

/-! ### Reading the table back -/

namespace Export

/-- What the text of a table says. -/
structure Listing where
  /-- Names and bases. -/
  banks : List (String × UInt64)
  /-- The names of the bank and of the register, its address, its number of words and access. -/
  registers : List (String × String × UInt64 × ℕ × Access)
  /-- Names and bits. -/
  interrupts : List (String × ℕ)
  /-- Names and the texts of the values. -/
  constants : List (String × String)
  regions : List Region
  deriving DecidableEq, Repr

/-- The rows of one kind, without the cell that tells the kind. -/
def rowsOf (kind : String) (table : List (List String)) : List (List String) :=
  table.filterMap fun
    | [] => none
    | first :: row => if first = kind then some row else none

def readBank? : List String → Option (String × UInt64)
  | [name, base, _, _] => do pure (name, ← number? base.toList)
  | _ => none

/-- The register belongs to the last bank that does not start after it. -/
def readRegister? (banks : List (String × UInt64)) :
    List String → Option (String × String × UInt64 × ℕ × Access)
  | [name, address, size, mode] => do
    let address ← number? address.toList
    let bank ← (banks.filter (·.2 ≤ address)).getLast?
    let own ← (bank.1 ++ "_").toList.isPrefixOf? name.toList
    let size ← number? size.toList
    let access ← if mode = "ro" then some .status else if mode = "rw" then some .storage else none
    pure (bank.1, String.ofList own, address, size.toNat, access)
  | _ => none

def readInterrupt? : List String → Option (String × ℕ)
  | [name, bit, _, _] => do pure (name, (← number? bit.toList).toNat)
  | _ => none

def readConstant? : List String → Option (String × String)
  | [name, value, _, _] => some (name.toUpper, value)
  | _ => none

def readRegion? : List String → Option Region
  | [name, origin, size, label] => do
    let origin ← number? origin.toList
    let size ← number? size.toList
    let kind ← if label = "cached" then some .cached else if label = "io" then some .io else none
    pure ⟨name, origin, size, kind⟩
  | _ => none

def listing? (text : String) : Option Listing := do
  let table := (lines text).map cells
  let banks ← (rowsOf "csr_base" table).mapM readBank?
  let registers ← (rowsOf "csr_register" table).mapM (readRegister? banks)
  let interrupts ← (rowsOf "interrupt" table).mapM readInterrupt?
  let constants ← (rowsOf "constant" table).mapM readConstant?
  let regions ← (rowsOf "memory_region" table).mapM readRegion?
  pure ⟨banks, registers, interrupts, constants, regions⟩

lemma rowsOf_append (kind : String) (xs ys : List (List String)) :
    rowsOf kind (xs ++ ys) = rowsOf kind xs ++ rowsOf kind ys :=
  List.filterMap_append

lemma rowsOf_map {δ : Type} (kind first : String) (xs : List δ) (f : δ → List String) :
    rowsOf kind (xs.map fun x => first :: f x) = if first = kind then xs.map f else [] := by
  rw [rowsOf, List.filterMap_map]
  split
  · rename_i heq
    rw [← List.filterMap_eq_map]
    exact List.filterMap_congr fun x _ => by simp [heq]
  · rename_i hne
    exact List.filterMap_eq_nil_iff.2 fun x _ => by simp [hne]

lemma number?_markedWide (v : UInt64) : number? (markedWide v.toNat).toList = some v := by
  rw [(spells_markedWide _).number?, toWord?_toNat]

lemma number?_decimal {n : ℕ} (h : n < UInt64.size) :
    number? (decimal n).toList = some n.toUInt64 := by
  rw [(spells_decimal n).number?, toWord?, if_pos h]

/-- Rows that each have a reading give the list of the readings. -/
lemma mapM_map_eq {δ ρ β : Type} {xs : List δ} {row : δ → ρ} {read : ρ → Option β} {f : δ → β}
    (h : ∀ x ∈ xs, read (row x) = some (f x)) : (xs.map row).mapM read = some (xs.map f) := by
  rw [List.mapM_map]
  exact mapM_eq_pure h

end Export

namespace Soc

open Export BusGeometry

variable {soc : Soc} {b : Bank} {r : Register} {p : PlacedRegister}

lemma toNat_base_of_getElem? (h : soc.Finished) {k : ℕ} {x : Bank × PlacedBank}
    (hk : soc.placedBanks[k]? = some x) :
    x.2.base.toNat = soc.bus.base.toNat + soc.bus.total (soc.banks.take k) := by
  rw [getElem?_placedBanks h, Option.map_eq_some_iff] at hk
  obtain ⟨c, -, rfl⟩ := hk
  have hle := soc.bus.total_take_le soc.banks k
  have hend := h.fits.end_lt
  exact UInt64.toNat_ofNat_of_lt' (by simp only [UInt64.size]; omega)

/-- The banks by their names, with their bases. -/
def bases (soc : Soc) : List (String × UInt64) :=
  soc.placedBanks.map fun x => (x.1.name, x.2.base)

/-- A register stands in the last bank that does not start after it. -/
lemma getLast?_bases_of_mem (h : soc.Finished) (hmem : (b, r, p) ∈ soc.placedRegisters) :
    ∃ base, (soc.bases.filter (·.2 ≤ p.address)).getLast? = some (b.name, base) := by
  obtain ⟨i, j, start, hosts, rfl⟩ := exists_hosts_of_mem h hmem
  have hspan := span_pos h.sound (hosts.wellFormed h.fits)
  have hle := hosts.end_le h.fits
  have hend := hosts.end_lt h.fits
  have hstart := hosts.start_eq
  have haddress : (soc.bus.registerAt start r).address.toNat = start :=
    UInt64.toNat_ofNat_of_lt' (by simp only [UInt64.size]; omega)
  have hi := getElem?_placedBanks h i
  rw [hosts.bank, Option.map_some] at hi
  have hbase := toNat_base_of_getElem? h hi
  obtain ⟨hlt, heq⟩ := List.getElem?_eq_some_iff.1 hi
  have hsplit := List.take_append_drop i soc.placedBanks
  rw [List.drop_eq_getElem_cons hlt, heq] at hsplit
  -- Banks behind the one of the register start behind its end.
  have hback : ((soc.placedBanks.drop (i + 1)).map fun x => (x.1.name, x.2.base)).filter
      (·.2 ≤ (soc.bus.registerAt start r).address) = [] := by
    refine List.filter_eq_nil_iff.2 fun y hy => ?_
    obtain ⟨x, hx, rfl⟩ := List.mem_map.1 hy
    obtain ⟨k, hk⟩ := List.mem_iff_getElem?.1 hx
    rw [List.getElem?_drop] at hk
    have hnext := toNat_base_of_getElem? h hk
    have hmono := soc.bus.total_take_mono soc.banks (Nat.le_add_right (i + 1) k)
    rw [decide_eq_true_eq, UInt64.le_iff_toNat_le, haddress]
    show ¬ x.2.base.toNat ≤ start
    omega
  have hhere : (soc.bus.bankAt (soc.bus.base.toNat + soc.bus.total (soc.banks.take i)) b).base
      ≤ (soc.bus.registerAt start r).address := by
    rw [UInt64.le_iff_toNat_le, haddress, hbase]
    omega
  refine ⟨(soc.bus.bankAt (soc.bus.base.toNat + soc.bus.total (soc.banks.take i)) b).base, ?_⟩
  rw [bases, ← hsplit, List.map_append, List.map_cons, List.filter_append,
    List.filter_cons_of_pos (by simpa using hhere), hback, List.getLast?_concat]

/-! ### The rows of each kind -/

lemma mapM_readBank? (soc : Soc) : (rowsOf "csr_base" soc.table).mapM readBank?
    = some soc.bases := by
  have hrows : rowsOf "csr_base" soc.table = soc.placedBanks.map bankCells := by
    simp [table, rowsOf_append, rowsOf_map]
  rw [hrows]
  refine mapM_map_eq fun (b, placed) _ => ?_
  simp [bankCells, readBank?, number?_markedWide]

lemma mapM_readRegister? (h : soc.Finished) :
    (rowsOf "csr_register" soc.table).mapM (readRegister? soc.bases)
      = some (soc.placedRegisters.map fun (b, r, p) =>
        (b.name, r.name, p.address, soc.bus.wordCount r.width, r.access)) := by
  have hrows : rowsOf "csr_register" soc.table
      = soc.placedRegisters.map (registerCells soc.bus) := by
    simp [table, rowsOf_append, rowsOf_map]
  rw [hrows]
  refine mapM_map_eq fun (b, r, p) hmem => ?_
  obtain ⟨base, hbank⟩ := getLast?_bases_of_mem h hmem
  have hcount : soc.bus.wordCount r.width < UInt64.size :=
    (wordCount_lt h.sound.dataWidth_pos).trans (by decide)
  have hnat : (soc.bus.wordCount r.width).toUInt64.toNat = soc.bus.wordCount r.width :=
    UInt64.toNat_ofNat_of_lt' hcount
  have hown : (b.name ++ "_").toList.isPrefixOf? (b.name ++ "_" ++ r.name).toList
      = some r.name.toList := by
    have hkey : (b.name ++ "_" ++ r.name).toList = (b.name ++ "_").toList ++ r.name.toList :=
      String.toList_append
    rw [hkey]
    exact isPrefixOf?_append _ _
  rw [registerCells, readRegister?, number?_markedWide, number?_decimal hcount]
  simp only [Option.bind_eq_bind, Option.bind_some, hbank, hown, hnat, String.ofList_toList]
  cases r.access <;> simp

lemma mapM_readInterrupt? (soc : Soc) : (rowsOf "interrupt" soc.table).mapM readInterrupt?
    = some (soc.interrupts.entries.map fun i => (i.name, i.bit.toNat)) := by
  have hrows : rowsOf "interrupt" soc.table = soc.interrupts.entries.map interruptCells := by
    simp [table, rowsOf_append, rowsOf_map]
  rw [hrows]
  refine mapM_map_eq fun i _ => ?_
  have hbit : i.bit.toNat < UInt64.size := i.bit.toNat_lt.trans (by decide)
  have hnat : i.bit.toNat.toUInt64.toNat = i.bit.toNat := UInt64.toNat_ofNat_of_lt' hbit
  simp only [interruptCells, readInterrupt?, number?_decimal hbit, Option.bind_eq_bind,
    Option.bind_some, hnat]
  rfl

lemma mapM_readConstant? (hnamed : soc.declarations.Named) :
    (rowsOf "constant" soc.table).mapM readConstant?
      = some (soc.constants.map fun c => (c.name, constantCell c.value)) := by
  have hrows : rowsOf "constant" soc.table = soc.constants.map constantCells := by
    simp [table, rowsOf_append, rowsOf_map]
  rw [hrows]
  refine mapM_map_eq fun c hc => ?_
  rw [constantCells, readConstant?, toUpper_toLower (hnamed.constants c hc)]
  rfl

lemma mapM_readRegion? (soc : Soc) :
    (rowsOf "memory_region" soc.table).mapM readRegion? = some soc.regions := by
  have hrows : rowsOf "memory_region" soc.table = soc.regions.map regionCells := by
    simp [table, rowsOf_append, rowsOf_map]
  have hread : (soc.regions.map regionCells).mapM readRegion? = some (soc.regions.map id) := by
    refine mapM_map_eq fun region _ => ?_
    have hsize := number?_decimal region.size.toNat_lt
    rw [regionCells, readRegion?, number?_markedWide, hsize]
    cases region with
    | mk name origin size kind => cases kind <;> simp
  rw [hrows, hread, List.map_id]

/-- What the rows say is found in a text that splits into them. -/
theorem listing?_csv (h : soc.Finished) (hnamed : soc.declarations.Named)
    (htable : (lines soc.csv).map cells = soc.table) :
    listing? soc.csv = some
      { banks := soc.placedBanks.map fun (b, placed) => (b.name, placed.base)
        registers := soc.placedRegisters.map fun (b, r, p) =>
          (b.name, r.name, p.address, soc.bus.wordCount r.width, r.access)
        interrupts := soc.interrupts.entries.map fun i => (i.name, i.bit.toNat)
        constants := soc.constants.map fun c => (c.name, constantCell c.value)
        regions := soc.regions } := by
  simp only [listing?, htable, mapM_readBank?, mapM_readRegister? h, mapM_readInterrupt?,
    mapM_readConstant? hnamed, mapM_readRegion?, Option.bind_eq_bind, Option.bind_some]
  rfl

/-! ### Finished systems -/

variable {calls : List Call} {bus : BusGeometry}

/-- **The text of the rows is a table of the declarations** in their order, five cells a line,
exactly where no text of a constant has a comma or a line feed. Then the banks, the registers, the
interrupts, the constants with their numbers and texts, and the regions are read back from it. -/
theorem csv_lists (h : (Declarations.after {} calls).complete bus = .ok soc) :
    soc.declarations = Declarations.after {} calls ∧
    soc.placedBanks.map Prod.fst = soc.banks ∧
    soc.placedRegisters.map (fun (b, r, _) => (b, r))
      = soc.banks.flatMap (fun b => b.registers.map (b, ·)) ∧
    (∀ b r p, (b, r, p) ∈ soc.placedRegisters →
      soc.register? b.name r.name = some (r, p)) ∧
    ((lines soc.csv).map cells = soc.table ↔
      ∀ c ∈ soc.constants, ∀ s, c.value = .str s → ',' ∉ s.toList ∧ '\n' ∉ s.toList) ∧
    ((lines soc.csv).map cells = soc.table → listing? soc.csv = some
      { banks := soc.placedBanks.map fun (b, placed) => (b.name, placed.base)
        registers := soc.placedRegisters.map fun (b, r, p) =>
          (b.name, r.name, p.address, soc.bus.wordCount r.width, r.access)
        interrupts := soc.interrupts.entries.map fun i => (i.name, i.bit.toNat)
        constants := soc.constants.map fun c => (c.name, constantCell c.value)
        regions := soc.regions }) ∧
    (∀ n : UInt64, readWord? 10 (constantCell (.int n)).toList = some n) ∧
    ∀ s, constantCell (.str s) = s := by
  have hfinished := Declarations.finished_of_complete h
  have hdeclared := Declarations.declarations_of_complete h
  have hnamed : soc.declarations.Named := by
    rw [hdeclared]
    exact (Declarations.wellFormed_after calls).toNamed
  refine ⟨hdeclared, map_fst_placedBanks hfinished, map_placedRegisters hfinished,
    fun b r p => register?_of_mem hfinished,
    (map_cells_lines_csv_iff hfinished hnamed).trans ?_, listing?_csv hfinished hnamed,
    fun n => ?_, fun s => rfl⟩
  · exact forall₂_congr fun c _ => forall₂_congr fun s _ =>
      ⟨fun hplain => ⟨hplain.comma, hplain.unbroken⟩, fun hplain => ⟨hplain.1, hplain.2⟩⟩
  · rw [constantCell, toList_decimal, readWord?_eq Nat.toDigits_ne_nil
      (fun _ => mem_digits_of_mem_decimal) (value?_toDigits (by decide) (by decide) n.toNat),
      if_pos n.toNat_lt]
    simp

/-- Two banks, an interrupt, a text without a comma and a region. -/
theorem csv_lists_two_banks : ∃ soc,
    (Declarations.after {}
      [.bank "a" [⟨"b_c", 40, .storage, [], 7, none⟩], .bank "b" [⟨"c", 8, .status, [], 1, none⟩],
        .interrupt "ev" "a", .constant "NAME" (.str "x y"),
        .region ⟨"ram", 4096, 64, .cached⟩]).complete {} = .ok soc ∧
    (lines soc.csv).map cells = soc.table ∧
    listing? soc.csv = some
      { banks := [("a", 0), ("b", 8)]
        registers := [("a", "b_c", 0, 2, .storage), ("b", "c", 8, 1, .status)]
        interrupts := [("ev", 0)]
        constants := [("NAME", "x y")]
        regions := [⟨"ram", 4096, 64, .cached⟩] } := by
  have h : (Declarations.after {}
      [.bank "a" [⟨"b_c", 40, .storage, [], 7, none⟩], .bank "b" [⟨"c", 8, .status, [], 1, none⟩],
        .interrupt "ev" "a", .constant "NAME" (.str "x y"),
        .region ⟨"ram", 4096, 64, .cached⟩]).complete {}
      = .ok ⟨{}, [⟨"a", [⟨"b_c", 40, .storage, [], 7, none⟩]⟩,
          ⟨"b", [⟨"c", 8, .status, [], 1, none⟩]⟩],
        ⟨0, 12, [⟨"a", 0, 8, [⟨"b_c", .storage, 40, 0, [⟨0, 32, 8⟩, ⟨4, 0, 32⟩]⟩]⟩,
          ⟨"b", 8, 4, [⟨"c", .status, 8, 8, [⟨8, 0, 8⟩]⟩]⟩]⟩,
        ⟨[⟨"ev", "a", 0⟩]⟩, [⟨"ram", 4096, 64, .cached⟩], [⟨"NAME", .str "x y"⟩]⟩ := by
    decide +kernel
  obtain ⟨-, -, -, -, hiff, hlisting, -, -⟩ := csv_lists h
  have htable := hiff.2 fun c hc s hvalue => by
    rw [List.mem_singleton.1 hc] at hvalue
    cases hvalue
    decide
  exact ⟨_, h, htable, (hlisting htable).trans (by decide +kernel)⟩

/-- A line feed in the text of a constant breaks its row. -/
theorem csv_broken : ∃ soc,
    (Declarations.after {} [.constant "N" (.str "a\nb")]).complete {} = .ok soc ∧
    (lines soc.csv).map cells ≠ soc.table :=
  ⟨⟨{}, [], ⟨0, 0, []⟩, ⟨[]⟩, [], [⟨"N", .str "a\nb"⟩]⟩, by decide +kernel, by decide +kernel⟩

end Soc

end CsrMap
