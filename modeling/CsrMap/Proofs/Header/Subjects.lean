import CsrMap.Proofs.Header.Symbols
import CsrMap.Proofs.Soc.Completion
import Mathlib.Data.List.Perm.Basic

/-!
What the symbols of a system are about.

A symbol of a number is a flattened name in upper case with an ending for what it says of it, and
an accessor is a flattened name with an ending for what it does. No ending ends another one, so a
symbol tells its name and its ending. Sorted by what they are about, the symbols are those of the
declarations, which are the same on every bus, and those of the words of registers.
-/

namespace CsrMap

open Text
open scoped List

namespace Header

variable {s t : String} {c : Char}

/-! ### Names and endings -/

lemma toLower_toUpper (h : isLowerWordChar c) : c.toUpper.toLower = c := by
  have hall : ∀ n < 128, isLowerWordChar (Char.ofNat n) →
      (Char.ofNat n).toUpper.toLower = Char.ofNat n := by
    decide +kernel
  have hlower := hall c.toNat (toNat_lt_of_isWordChar (isWordChar_of_isLowerWordChar h))
  rw [Char.ofNat_toNat] at hlower
  exact hlower h

/-- Names that are the same in upper case are the same. -/
lemma eq_of_upper_eq (hs : isName s) (ht : isName t) (h : upper s = upper t) : s = t := by
  have hback {u : String} (hu : isName u) : (upper u).toList.map Char.toLower = u.toList := by
    rw [toList_upper (IsWord.of_isName hu), List.map_map]
    exact (List.map_congr_left fun c hc => toLower_toUpper ((isName_iff.1 hu).2 c hc)).trans
      (List.map_id _)
  rw [← String.toList_inj, ← hback hs, h, hback ht]

/-- Where no ending ends another one, a text tells its ending and what stands before it. -/
lemma eq_of_append_eq {es : List String}
    (hes : ∀ e ∈ es, ∀ f ∈ es, e.toList <:+ f.toList → e = f) {e f : String} (he : e ∈ es)
    (hf : f ∈ es) (h : s ++ e = t ++ f) : s = t ∧ e = f := by
  have hlists : s.toList ++ e.toList = t.toList ++ f.toList := by
    rw [← String.toList_append, h, String.toList_append]
  have heq : e = f := by
    have hsuffix : e.toList <:+ t.toList ++ f.toList := ⟨s.toList, hlists⟩
    rcases List.suffix_or_suffix_of_suffix hsuffix (List.suffix_append _ _) with hef | hfe
    · exact hes e he f hf hef
    · exact (hes f hf e he hfe).symm
  subst heq
  exact ⟨(String.append_left_inj e).1 h, rfl⟩

/-- The number at the end of a name is the one that was put there. -/
lemma eq_of_word_eq {i j : ℕ}
    (h : s ++ "_w" ++ Numeral.decimal i = t ++ "_w" ++ Numeral.decimal j) : s = t ∧ i = j := by
  have hdigits {n : ℕ} : ∀ d ∈ (Nat.toDigits 10 n).reverse, d.isDigit = true := fun d hd =>
    Nat.isDigit_of_mem_toDigits (by decide) (by decide) (List.mem_reverse.1 hd)
  have htake (u : String) (n : ℕ) :
      ((u ++ "_w" ++ Numeral.decimal n).toList.reverse).takeWhile Char.isDigit
        = (Nat.toDigits 10 n).reverse := by
    rw [String.toList_append, String.toList_append, Numeral.toList_decimal, List.reverse_append,
      List.reverse_append, List.takeWhile_append_of_pos hdigits]
    exact List.append_nil _
  obtain rfl : i = j := Numeral.toDigits_injective (by decide : 1 < 10) (by decide)
    (List.reverse_injective ((htake s i).symm.trans ((h ▸ rfl : _ = _).trans (htake t j))))
  exact ⟨(String.append_left_inj _).1 ((String.append_left_inj _).1 h), rfl⟩

def EndsWithDigit (s : String) : Prop := s.toList.getLast?.any Char.isDigit

instance (s : String) : Decidable (EndsWithDigit s) := by
  unfold EndsWithDigit
  infer_instance

lemma endsWithDigit_append (ht : t ≠ "") : EndsWithDigit (s ++ t) ↔ EndsWithDigit t := by
  rw [EndsWithDigit, String.toList_append, List.getLast?_append_of_ne_nil _ (by simpa using ht),
    EndsWithDigit]

/-- The name of a word ends with a digit. -/
lemma endsWithDigit_append_decimal (s : String) (i : ℕ) :
    EndsWithDigit (s ++ Numeral.decimal i) := by
  have hne : Nat.toDigits 10 i ≠ [] := Nat.toDigits_ne_nil
  rw [EndsWithDigit, String.toList_append, Numeral.toList_decimal,
    List.getLast?_append_of_ne_nil _ hne, List.getLast?_eq_some_getLast hne]
  exact Nat.isDigit_of_mem_toDigits (by decide) (by decide) (List.getLast_mem hne)

/-! ### Subjects -/

/-- What symbols are about: a flattened name, and the endings that come after it. -/
structure Subject where
  name : String
  endings : List String

namespace Subject

variable {xs : List Subject}

/-- The name with each ending. -/
def labels (x : Subject) : List (String × String) := x.endings.map (x.name, ·)

/-- The names with their endings, spelled by `f`. -/
def symbols (f : String → String) (x : Subject) : List String := x.endings.map (f x.name ++ ·)

/-- The symbols of numbers are in upper case. -/
def numbers : Subject → List String := symbols upper

/-- The names of accessors are spelled as they are. -/
def accessors : Subject → List String := symbols id

lemma mem_labels {x : Subject} {l : String × String} :
    l ∈ x.labels ↔ l.1 = x.name ∧ l.2 ∈ x.endings := by
  rw [labels, List.mem_map]
  constructor
  · rintro ⟨e, he, rfl⟩
    exact ⟨rfl, he⟩
  · rintro ⟨hname, he⟩
    exact ⟨l.2, he, Prod.ext hname.symm rfl⟩

lemma nodup_labels (hnames : (xs.map (·.name)).Nodup) (hendings : ∀ x ∈ xs, x.endings.Nodup) :
    (xs.flatMap labels).Nodup := by
  rw [List.nodup_flatMap]
  refine ⟨fun x hx => (hendings x hx).map fun e f h => (Prod.mk.inj h).2, ?_⟩
  refine (List.pairwise_map.1 hnames).imp fun hne l hx hy => hne ?_
  exact (mem_labels.1 hx).1.symm.trans (mem_labels.1 hy).1

/-- Where no ending ends another one, symbols are apart where the names with their endings are. -/
lemma nodup_symbols {f : String → String} {es : List String}
    (hes : ∀ e ∈ es, ∀ e' ∈ es, e.toList <:+ e'.toList → e = e')
    (hf : ∀ x ∈ xs, ∀ y ∈ xs, f x.name = f y.name → x.name = y.name)
    (hendings : ∀ x ∈ xs, ∀ e ∈ x.endings, e ∈ es) (h : (xs.flatMap labels).Nodup) :
    (xs.flatMap (symbols f)).Nodup := by
  have hmap : xs.flatMap (symbols f) = (xs.flatMap labels).map fun l => f l.1 ++ l.2 := by
    rw [List.map_flatMap]
    refine List.flatMap_congr fun x _ => ?_
    rw [labels, List.map_map]
    rfl
  rw [hmap]
  refine h.map_on fun l hl k hk heq => ?_
  obtain ⟨x, hx, hl⟩ := List.mem_flatMap.1 hl
  obtain ⟨y, hy, hk⟩ := List.mem_flatMap.1 hk
  obtain ⟨hxname, hxending⟩ := mem_labels.1 hl
  obtain ⟨hyname, hyending⟩ := mem_labels.1 hk
  obtain ⟨hname, hending⟩ := eq_of_append_eq hes (hendings x hx _ hxending)
    (hendings y hy _ hyending) heq
  rw [hxname, hyname] at hname
  exact Prod.ext (hxname.trans ((hf x hx y hy hname).trans hyname.symm)) hending

/-- The endings of the symbols of numbers. -/
def numberEndings : List String := "_WIDTH" :: Header.endings

/-- The endings of the names of accessors. -/
def accessorEndings : List String := ["_read", "_write", "_extract", "_replace"]

lemma nodup_numbers (h : (xs.flatMap labels).Nodup) (hnames : ∀ x ∈ xs, isName x.name)
    (hendings : ∀ x ∈ xs, ∀ e ∈ x.endings, e ∈ numberEndings) : (xs.flatMap numbers).Nodup :=
  nodup_symbols (by decide) (fun x hx y hy => eq_of_upper_eq (hnames x hx) (hnames y hy)) hendings h

lemma nodup_accessors (h : (xs.flatMap labels).Nodup)
    (hendings : ∀ x ∈ xs, ∀ e ∈ x.endings, e ∈ accessorEndings) :
    (xs.flatMap accessors).Nodup :=
  nodup_symbols (by decide) (fun _ _ _ _ => id) hendings h

end Subject

/-! ### The subjects of a register -/

def fieldSubject (register : String) (f : Field) : Subject :=
  ⟨register ++ "_" ++ f.name, ["_OFFSET", "_SIZE"]⟩

/-- A register of this flattened name, and its fields. -/
def registerSubjects (name : String) (r : Register) : List Subject :=
  ⟨name, ["_ADDR", "_SIZE"]⟩ :: r.fields.map (fieldSubject name)

/-- The words of a register that takes several. -/
def wordSubjects (name : String) (placed : PlacedRegister) : List Subject :=
  if placed.spansWords then
    (List.range placed.size).map fun i =>
      ⟨name ++ "_w" ++ Numeral.decimal i, ["_ADDR", "_SHIFT", "_MASK"]⟩
  else []

/-- The accessors of a register and of its fields. -/
def accessorSubjects (name : String) (r : Register) : List Subject :=
  ⟨name, if r.access.writable then ["_read", "_write"] else ["_read"]⟩ ::
    r.fields.map fun f => ⟨name ++ "_" ++ f.name,
      if r.access.writable then ["_extract", "_read", "_replace", "_write"]
        else ["_extract", "_read"]⟩

variable {bank : String} {r : Register}

lemma symbolOf_csr_register (hs : s ≠ "") (ht : t ≠ "") :
    symbolOf ["csr", s, t] = upper ("csr_" ++ s ++ "_" ++ t) := by
  have hcsr : upper "CSR_" = upper "csr_" := by decide
  rw [symbolOf_register hs ht]
  simp only [upper_append, hcsr]

/-- What is in upper case stays as it is. -/
lemma upper_of_isUpperWord (h : IsUpperWord s) : upper s = s := by
  have hall : ∀ n < 128, isUpperWordChar (Char.ofNat n) →
      (Char.ofNat n).toUpper = Char.ofNat n := by
    decide +kernel
  have hword : IsWord s := fun c hc => isWordChar_of_isUpperWordChar (h c hc)
  rw [← String.toList_inj, toList_upper hword]
  refine (List.map_congr_left fun c hc => ?_).trans (List.map_id _)
  have hchar := hall c.toNat (toNat_lt_of_isWordChar (hword c hc))
  rw [Char.ofNat_toNat] at hchar
  exact hchar (h c hc)

/-- The flattened name of a register. -/
lemma isName_register (hbank : isName bank) (hr : r.WellFormed) :
    isName ("csr_" ++ bank ++ "_" ++ r.name) := by
  have hlower {s : String} (h : isName s) : s.toList.all isLowerWordChar :=
    List.all_eq_true.2 (isName_iff.1 h).2
  have hcsr : isName "csr_" := by decide
  exact isName_append (isName_append (isName_append hcsr (hlower hbank)) (by decide))
    (hlower hr.name)

lemma map_wordSymbols (owner name : String) (placed : PlacedRegister) :
    (if placed.spansWords then wordSymbols owner (upper name) placed.size else []).map (·.symbol)
      = (wordSubjects name placed).flatMap Subject.numbers := by
  have hdecimal (n : ℕ) : upper (Numeral.decimal n) = Numeral.decimal n :=
    upper_of_isUpperWord (isUpperWord_decimal n)
  have hw : upper "_w" = "_W" := by decide
  unfold wordSubjects
  split
  · simp [wordSymbols, Subject.numbers, Subject.symbols, upper_append, hdecimal, hw,
      List.map_flatMap, List.flatMap_map, String.append_assoc]
  · rfl

lemma map_fieldSymbols (owner : String) {name : String} (hname : isName name) {fields : List Field}
    (hfields : ∀ f ∈ fields, isName f.name) :
    (fields.flatMap (fieldSymbols owner (upper name))).map (·.symbol)
      = (fields.map (fieldSubject name)).flatMap Subject.numbers := by
  rw [List.map_flatMap, List.flatMap_map]
  refine List.flatMap_congr fun f hf => ?_
  have hstem : symbolOf [upper name, f.name] = upper (name ++ "_" ++ f.name) := by
    have hne := (isName_iff.1 (hfields f hf)).1.nonempty
    have hupper := isConstantName_iff.1 (isConstantName_upper (isName_iff.1 hname).1)
    have hbar : upper "_" = "_" := by decide
    rw [symbolOf_pair hupper.1.nonempty hne, upper_of_isUpperWord hupper.2, upper_append,
      upper_append, hbar]
  rw [fieldSymbols, hstem]
  rfl

/-- The symbols of the numbers of a register, but for their order. -/
lemma numberSymbols_perm (hbank : isName bank) (hr : r.WellFormed) (placed : PlacedRegister) :
    (numberSymbols bank r placed).map (·.symbol) ~
      (registerSubjects ("csr_" ++ bank ++ "_" ++ r.name) r
        ++ wordSubjects ("csr_" ++ bank ++ "_" ++ r.name) placed).flatMap Subject.numbers := by
  have hstem := symbolOf_csr_register (isName_iff.1 hbank).1.nonempty
    (isName_iff.1 hr.name).1.nonempty
  rw [numberSymbols, hstem, List.map_append, List.map_append, map_wordSymbols,
    map_fieldSymbols _ (isName_register hbank hr) fun f hf => (hr.fields f hf).name,
    List.flatMap_append, registerSubjects, List.flatMap_cons, List.append_assoc, List.append_assoc]
  exact List.perm_append_comm.append_left _

lemma map_accessorSymbols (bank : String) (r : Register) :
    (accessorSymbols bank r).map (·.symbol)
      = (accessorSubjects (bank ++ "_" ++ r.name) r).flatMap Subject.accessors := by
  rw [accessorSymbols, accessorSubjects, List.flatMap_cons, List.map_append, List.flatMap_map,
    List.map_flatMap]
  cases r.access with
  | status => rfl
  | storage => rfl

/-- Lists for pairs, of which some depend on the first of a pair only, but for their order. -/
lemma flatMap_zip_perm {α β γ : Type} {xs : List α} {ys : List β} (hlen : xs.length ≤ ys.length)
    {k g : α × β → List γ} {f h : α → List γ}
    (hk : ∀ x ∈ xs.zip ys, k x ~ f x.1 ++ g x ++ h x.1) :
    (xs.zip ys).flatMap k ~ xs.flatMap f ++ (xs.zip ys).flatMap g ++ xs.flatMap h := by
  have hfst (f : α → List γ) : (xs.zip ys).flatMap (fun x => f x.1) = xs.flatMap f := by
    rw [← List.flatMap_map, List.map_fst_zip hlen]
  calc (xs.zip ys).flatMap k
      ~ (xs.zip ys).flatMap fun x => f x.1 ++ g x ++ h x.1 := List.Perm.flatMap_left _ hk
    _ ~ (xs.zip ys).flatMap (fun x => f x.1 ++ g x) ++ (xs.zip ys).flatMap fun x => h x.1 :=
        (List.flatMap_append_perm _ _ _).symm
    _ ~ (xs.zip ys).flatMap (fun x => f x.1) ++ (xs.zip ys).flatMap g
        ++ (xs.zip ys).flatMap fun x => h x.1 :=
      (List.flatMap_append_perm _ _ _).symm.append_right _
    _ = xs.flatMap f ++ (xs.zip ys).flatMap g ++ xs.flatMap h := by rw [hfst, hfst]

def busSubjects : List Subject :=
  [⟨"csr", ["_BASE"]⟩, ⟨"csr_data", ["_WIDTH"]⟩, ⟨"csr_slot", ["_SIZE"]⟩]

def regionSubject (region : Region) : Subject := ⟨region.name, ["_BASE", "_SIZE"]⟩

def interruptSubject (i : Interrupt) : Subject := ⟨i.name, ["_INTERRUPT"]⟩

/-- A bank and its registers with their fields. -/
def bankSubjects (b : Bank) : List Subject :=
  ⟨"csr_" ++ b.name, ["_BASE", "_SIZE"]⟩ ::
    b.registers.flatMap fun r => registerSubjects ("csr_" ++ b.name ++ "_" ++ r.name) r

def bankAccessorSubjects (b : Bank) : List Subject :=
  b.registers.flatMap fun r => accessorSubjects (b.name ++ "_" ++ r.name) r

/-- The words of the registers of a bank that take several. -/
def bankWords (bank : Bank) (placed : PlacedBank) : List Subject :=
  (bank.registers.zip placed.registers).flatMap fun x =>
    wordSubjects ("csr_" ++ bank.name ++ "_" ++ x.1.name) x.2

end Header

/-! ### The subjects of declarations -/

namespace Declarations

open Header

/-- What numbers are about, without words of registers. -/
def subjects (d : Declarations) : List Subject :=
  busSubjects ++ d.banks.flatMap bankSubjects ++ d.regions.map regionSubject

/-- What accessors are about. -/
def accessorSubjects (d : Declarations) : List Subject := d.banks.flatMap bankAccessorSubjects

end Declarations

namespace Header

variable {b : Bank}

/-- The symbols of a bank, but for their order. -/
lemma bankSymbols_perm (hb : b.WellFormed) {placed : PlacedBank}
    (hlen : b.registers.length ≤ placed.registers.length) :
    (bankSymbols b placed).map (·.symbol) ~
      (bankSubjects b).flatMap Subject.numbers ++ (bankWords b placed).flatMap Subject.numbers
        ++ (bankAccessorSubjects b).flatMap Subject.accessors := by
  have hregisters := flatMap_zip_perm hlen
    (k := fun x => (registerSymbols b.name x.1 x.2).map (·.symbol))
    (f := fun r => (registerSubjects ("csr_" ++ b.name ++ "_" ++ r.name) r).flatMap Subject.numbers)
    (g := fun x =>
      (wordSubjects ("csr_" ++ b.name ++ "_" ++ x.1.name) x.2).flatMap Subject.numbers)
    (h := fun r => (accessorSubjects (b.name ++ "_" ++ r.name) r).flatMap Subject.accessors)
    fun x hmem => by
      have hr := hb.registers x.1 (List.of_mem_zip hmem).1
      rw [registerSymbols_eq, List.map_append, map_accessorSymbols, ← List.flatMap_append]
      exact (numberSymbols_perm hb.name hr x.2).append_right _
  have hname := (isName_iff.1 hb.name).1.nonempty
  have hcsr : "csr_" ++ b.name ≠ "" := (isIdentifier_csr hb.name).nonempty
  rw [bankSymbols, List.map_append, List.map_flatMap, bankSubjects, bankWords, bankAccessorSubjects,
    List.flatMap_cons, List.flatMap_assoc, List.flatMap_assoc, List.flatMap_assoc,
    List.append_assoc, List.append_assoc]
  rw [List.append_assoc] at hregisters
  refine List.Perm.append (.of_eq ?_) hregisters
  have hbase : upper "base" = "BASE" := by decide
  have hsize : upper "size" = "SIZE" := by decide
  rw [symbolOf_csr hname (by decide), symbolOf_csr hname (by decide),
    symbolOf_pair hcsr (by decide), symbolOf_pair hcsr (by decide), hbase, hsize,
    String.append_assoc, String.append_assoc]
  rfl

end Header

namespace Soc

open Header

variable {soc : Soc}

/-- The words of all registers that take several. -/
def words (soc : Soc) : List Subject := soc.placedBanks.flatMap fun x => bankWords x.1 x.2

/-- In a layout each register has a place. -/
lemma length_registers_of_mem_zip {bus : BusGeometry} {banks : List Bank} {start : ℕ} {b : Bank}
    {placed : PlacedBank} (h : (b, placed) ∈ banks.zip (bus.banksFrom start banks)) :
    b.registers.length ≤ placed.registers.length := by
  induction banks generalizing start with
  | nil => cases h
  | cons c banks ih =>
    rw [BusGeometry.banksFrom, List.zip_cons_cons, List.mem_cons] at h
    rcases h with heq | h
    · cases heq
      exact (BusGeometry.length_registersFrom _ _ _).ge
    · exact ih h

/-- The symbols of a system, but for their order. -/
theorem symbols_perm (hbanks : ∀ b ∈ soc.banks, b.WellFormed) (hnamed : soc.declarations.Named)
    (hmap : soc.map = soc.bus.layout soc.banks) :
    soc.symbols.map (·.symbol) ~
      (soc.declarations.subjects ++ soc.words
          ++ soc.interrupts.entries.map interruptSubject).flatMap Subject.numbers
        ++ (soc.declarations.accessorSubjects.flatMap Subject.accessors
          ++ soc.constants.map (·.name)) := by
  have hbank : (soc.placedBanks.flatMap fun x => bankSymbols x.1 x.2).map (·.symbol) ~
      (soc.banks.flatMap bankSubjects).flatMap Subject.numbers
        ++ soc.words.flatMap Subject.numbers
        ++ (soc.banks.flatMap bankAccessorSubjects).flatMap Subject.accessors := by
    have hlen : soc.banks.length ≤ soc.map.banks.length := by
      rw [hmap, BusGeometry.layout, BusGeometry.length_banksFrom]
    rw [List.map_flatMap, words, List.flatMap_assoc, List.flatMap_assoc, List.flatMap_assoc]
    refine flatMap_zip_perm hlen (h := fun b => (bankAccessorSubjects b).flatMap Subject.accessors)
      fun x hx => bankSymbols_perm (hbanks x.1 (List.of_mem_zip hx).1) ?_
    rw [hmap] at hx
    exact length_registers_of_mem_zip hx
  have hbus : busSymbols.map (·.symbol) = busSubjects.flatMap Subject.numbers := by decide
  have hinterrupts : (soc.interrupts.entries.flatMap interruptSymbols).map (·.symbol)
      = (soc.interrupts.entries.map interruptSubject).flatMap Subject.numbers := by
    rw [List.map_flatMap, List.flatMap_map]
    refine List.flatMap_congr fun i hi => ?_
    have hname := (isName_iff.1 (hnamed.interrupts i hi)).1.nonempty
    have hinterrupt : upper "interrupt" = "INTERRUPT" := by decide
    rw [interruptSymbols, symbolOf_pair hname (by decide), hinterrupt, String.append_assoc]
    rfl
  have hregions : (soc.regions.flatMap regionSymbols).map (·.symbol)
      = (soc.regions.map regionSubject).flatMap Subject.numbers := by
    rw [List.map_flatMap, List.flatMap_map]
    refine List.flatMap_congr fun r hr => ?_
    have hname := (isName_iff.1 (hnamed.regions r hr)).1.nonempty
    have hbase : upper "base" = "BASE" := by decide
    have hsize : upper "size" = "SIZE" := by decide
    rw [regionSymbols, symbolOf_pair hname (by decide), symbolOf_pair hname (by decide), hbase,
      hsize, String.append_assoc, String.append_assoc]
    rfl
  have hconstants : (soc.constants.flatMap constantSymbols).map (·.symbol)
      = soc.constants.map (·.name) := by
    rw [List.map_flatMap, List.map_eq_flatMap]
    rfl
  rw [symbols, List.map_append, List.map_append, List.map_append, List.map_append, hbus,
    hinterrupts, hregions, hconstants, Declarations.subjects, Declarations.accessorSubjects]
  simp only [List.flatMap_append]
  rw [List.perm_iff_count] at hbank ⊢
  intro x
  have hcount := hbank x
  simp only [List.count_append, declarations] at hcount ⊢
  omega

end Soc

end CsrMap
