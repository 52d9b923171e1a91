import CsrMap.Proofs.Declaration.Within

/-!
Rows of declarations, and how they end.

What an operation adds does not depend on what is declared before it, and it is accepted exactly
where the declarations that it leaves are well formed. A row makes its declarations up to the first
that its operation refuses. A beginning of well-formed declarations is well formed, so a row
succeeds exactly where all of its declarations together are well formed: the order matters for the
answer to a bad row, but not for whether there is one.
-/

namespace CsrMap

/-- Something to declare. -/
inductive Declaration where
  | bank (b : Bank)
  | interrupt (name peripheral : String)
  | region (r : Region)
  | constant (c : Constant)

namespace Declaration

@[simp] def bank? : Declaration → Option Bank
  | bank b => some b
  | _ => none

/-- The name of an interrupt and its peripheral. -/
@[simp] def interrupt? : Declaration → Option (String × String)
  | interrupt name peripheral => some (name, peripheral)
  | _ => none

@[simp] def region? : Declaration → Option Region
  | region r => some r
  | _ => none

@[simp] def constant? : Declaration → Option Constant
  | constant c => some c
  | _ => none

end Declaration

namespace Declarations

variable {d next last : Declarations}

/-- With one more at the end of its list, whether or not it is acceptable. -/
def including (d : Declarations) : Declaration → Declarations
  | .bank b => { d with banks := d.banks ++ [b] }
  | .interrupt name peripheral =>
    { d with
      interrupts := ⟨d.interrupts.entries ++
        [⟨name, peripheral, d.interrupts.entries.length.toUInt32⟩]⟩ }
  | .region r => { d with regions := d.regions ++ [r] }
  | .constant c => { d with constants := d.constants ++ [c] }

def includingAll (d : Declarations) (xs : List Declaration) : Declarations :=
  xs.foldl including d

@[simp] lemma includingAll_nil : d.includingAll [] = d := rfl

@[simp] lemma includingAll_cons (x : Declaration) (xs : List Declaration) :
    d.includingAll (x :: xs) = (d.including x).includingAll xs := rfl

@[simp] lemma includingAll_append (xs ys : List Declaration) :
    d.includingAll (xs ++ ys) = (d.includingAll xs).includingAll ys :=
  List.foldl_append

/-- Interrupts on the bits from `start` on. -/
def numbered (start : ℕ) (pairs : List (String × String)) : List Interrupt :=
  (pairs.zipIdx start).map fun (pair, bit) => ⟨pair.1, pair.2, bit.toUInt32⟩

@[simp] lemma length_numbered (start : ℕ) (pairs : List (String × String)) :
    (numbered start pairs).length = pairs.length := by
  simp [numbered]

lemma getElem?_numbered (start k : ℕ) (pairs : List (String × String)) :
    (numbered start pairs)[k]? =
      pairs[k]?.map fun pair => ⟨pair.1, pair.2, (start + k).toUInt32⟩ := by
  simp [numbered, List.getElem?_zipIdx, Function.comp_def]

/-- The interrupts have the names and the peripherals that are numbered. -/
@[simp] lemma map_pair_numbered (start : ℕ) (pairs : List (String × String)) :
    (numbered start pairs).map (fun i => (i.name, i.peripheral)) = pairs := by
  refine List.ext_getElem? fun k => ?_
  rw [List.getElem?_map, getElem?_numbered, Option.map_map]
  exact Option.map_id'

/-- **Each kind of declarations** is added at the end of its list, in the order of the row. -/
lemma includingAll_eq (d : Declarations) (xs : List Declaration) : d.includingAll xs =
    { banks := d.banks ++ xs.filterMap Declaration.bank?
      interrupts := ⟨d.interrupts.entries
        ++ numbered d.interrupts.entries.length (xs.filterMap Declaration.interrupt?)⟩
      regions := d.regions ++ xs.filterMap Declaration.region?
      constants := d.constants ++ xs.filterMap Declaration.constant? } := by
  induction xs generalizing d with
  | nil => simp [numbered]
  | cons x xs ih =>
    rw [includingAll_cons, ih]
    cases x with
    | interrupt name peripheral =>
      simp [including, numbered, List.filterMap_cons]
    | _ => simp [including, List.filterMap_cons]

lemma includingAll_banks (d : Declarations) (bs : List Bank) :
    d.includingAll (bs.map .bank) = { d with banks := d.banks ++ bs } := by
  simp [includingAll_eq, numbered, List.filterMap_map, Function.comp_def]

/-! ### Beginnings -/

lemma startOf_including (d : Declarations) (x : Declaration) : d.StartOf (d.including x) := by
  have h := StartOf.refl d
  cases x with
  | bank b => exact { h with banks := List.prefix_append _ _ }
  | interrupt name peripheral => exact { h with interrupts := List.prefix_append _ _ }
  | region r => exact { h with regions := List.prefix_append _ _ }
  | constant c => exact { h with constants := List.prefix_append _ _ }

lemma startOf_includingAll (d : Declarations) (xs : List Declaration) :
    d.StartOf (d.includingAll xs) := by
  induction xs generalizing d with
  | nil => exact .refl d
  | cons x xs ih => exact (startOf_including d x).trans (ih _)

/-! ### What well-formed declarations say about the last -/

section Snoc

variable {α β : Type} {key : α → β} {xs : List α} {x : α}

lemma not_mem_of_nodup_map_snoc (h : ((xs ++ [x]).map key).Nodup) : key x ∉ xs.map key := by
  rw [List.map_append, List.map_singleton, List.nodup_append] at h
  intro hmem
  exact h.2.2 _ hmem _ (by simp) rfl

end Snoc

/-- What the operations ask of one more declaration. -/
def Admits (d : Declarations) : Declaration → Prop
  | .bank b => b.WellFormed ∧ b.name ∉ d.banks.map (·.name)
  | .interrupt name peripheral =>
    isName name ∧ isName peripheral ∧ name ∉ d.interrupts.entries.map (·.name) ∧
      d.interrupts.entries.length < 32
  | .region r =>
    isName r.name ∧ r.size ≠ 0 ∧ r.name ∉ d.regions.map (·.name) ∧
      ∀ s ∈ d.regions, ¬ s.meets r.origin r.size
  | .constant c => isConstantName c.name ∧ c.name ∉ d.constants.map (·.name)

lemma Admits.adds {x : Declaration} (h : d.Admits x) : d.Adds (d.including x) := by
  cases x with
  | bank b => exact .bank h.1 h.2
  | interrupt name peripheral =>
    obtain ⟨hname, hperipheral, hnew, hroom⟩ := h
    exact .interrupt hname hperipheral hnew (UInt32.toNat_ofNat_of_lt' (hroom.trans (by decide)))
      hroom
  | region r =>
    obtain ⟨hname, hsize, hnew, hapart⟩ := h
    exact .region hname hsize hnew hapart
  | constant c => exact .constant h.1 h.2

/-- **One more is admitted** exactly where the declarations stay well formed. -/
lemma WellFormed.including_iff (hd : d.WellFormed) (x : Declaration) :
    (d.including x).WellFormed ↔ d.Admits x := by
  constructor
  · intro h
    cases x with
    | bank b => exact ⟨h.banks b List.mem_concat_self, not_mem_of_nodup_map_snoc h.bankNames⟩
    | interrupt name peripheral =>
      have hmem : ⟨name, peripheral, d.interrupts.entries.length.toUInt32⟩ ∈
          (d.including (.interrupt name peripheral)).interrupts.entries := List.mem_concat_self
      have hroom : (d.interrupts.entries ++ [_]).length ≤ 32 := h.vector
      rw [List.length_append, List.length_singleton] at hroom
      exact ⟨h.interrupts _ hmem, h.peripherals _ hmem,
        not_mem_of_nodup_map_snoc h.interruptNames, hroom⟩
    | region r =>
      have hmem : r ∈ (d.including (.region r)).regions := List.mem_concat_self
      refine ⟨h.regions r hmem, h.regionSizes r hmem, not_mem_of_nodup_map_snoc h.regionNames, ?_⟩
      intro s hs
      exact (List.pairwise_append.1 h.regionsApart).2.2 s hs r (by simp)
    | constant c =>
      exact ⟨h.constants c List.mem_concat_self, not_mem_of_nodup_map_snoc h.constantNames⟩
  · intro h
    exact hd.adds h.adds

/-- The operation that makes a declaration. -/
def operate (d : Declarations) : Declaration → Except ConfigError Declarations
  | .bank b => Prod.fst <$> d.withBank b.name b.registers
  | .interrupt name peripheral => Prod.fst <$> d.withInterrupt name peripheral
  | .region r => d.withRegion r
  | .constant c => d.withConstant c.name c.value

/-- An operation adds what it admits, and refuses the rest. -/
lemma operate_eq_ok_iff {x : Declaration} :
    d.operate x = .ok next ↔ next = d.including x ∧ d.Admits x := by
  have hfirst {α : Type} (y : Except ConfigError (Declarations × α)) :
      Prod.fst <$> y = .ok next ↔ ∃ a, y = .ok (next, a) := by
    cases y with
    | error cause => simp [Functor.map, Except.map]
    | ok made => simp [Functor.map, Except.map, Prod.ext_iff, eq_comm]
  cases x with
  | bank b =>
    simp only [operate, hfirst, withBank_eq_ok_iff, exists_and_left, exists_eq, and_true]
    exact and_comm
  | interrupt name peripheral =>
    simp only [operate, hfirst, withInterrupt_eq_ok_iff]
    constructor
    · rintro ⟨bit, hadmits, rfl, rfl⟩
      exact ⟨rfl, hadmits⟩
    · rintro ⟨rfl, hadmits⟩
      exact ⟨_, hadmits, rfl, rfl⟩
  | region r => exact withRegion_eq_ok_iff.trans and_comm
  | constant c => exact withConstant_eq_ok_iff.trans and_comm

end Declarations

/-! ### Rows -/

namespace Declaring

open Declarations

variable {α β : Type} {row : Declaring α} {rest : α → Declaring β} {d next last : Declarations}
  {xs ys : List Declaration} {cause : ConfigError}

/-- How a row of the declarations `xs` ends: with all of them, or before the first that its
operation refuses. -/
inductive Ends (d : Declarations) (xs : List Declaration) :
    Outcome ConfigError α × Declarations → Prop
  | made (a : α) (wellFormed : (d.includingAll xs).WellFormed) :
    Ends d xs (.ok a, d.includingAll xs)
  | refused {front : List Declaration} {x : Declaration} {back : List Declaration}
    {cause : ConfigError} (split : xs = front ++ x :: back)
    (wellFormed : (d.includingAll front).WellFormed)
    (refuses : (d.includingAll front).operate x = .error cause) :
    Ends d xs (refuse cause, d.includingAll front)

/-- The row makes the declarations `xs`, one after another. -/
def Performs (row : Declaring α) (xs : List Declaration) : Prop :=
  ∀ d : Declarations, d.WellFormed → Ends d xs (row.run d)

lemma performs_pure (a : α) : (pure a : Declaring α).Performs [] := fun _ hd => .made a hd

/-- An answer that is there already declares nothing. -/
lemma Performs.lift_bind {x : Outcome ConfigError β} {b : β} {rest : β → Declaring α}
    (h : (rest b).Performs xs) (hx : x = .ok b) :
    ((liftM x : Declaring β) >>= rest).Performs xs := by
  subst hx
  exact h

/-- One row after another makes the declarations of both. -/
lemma Performs.bind (h : row.Performs xs) (hrest : ∀ a, (rest a).Performs ys) :
    (row >>= rest).Performs (xs ++ ys) := by
  intro d hd
  have hrow := h d hd
  rw [run_bind]
  generalize row.run d = out at hrow ⊢
  cases hrow with
  | made a hwf =>
    have hlater := hrest a _ hwf
    generalize hout : (rest a).run (d.includingAll xs) = out at hlater
    simp only [hout]
    cases hlater with
    | made b hwf' =>
      rw [← includingAll_append] at hwf' ⊢
      exact .made b hwf'
    | @refused front x back cause hsplit hwf' hrefuses =>
      rw [← includingAll_append] at hwf' hrefuses ⊢
      exact .refused (by rw [hsplit, List.append_assoc]) hwf' hrefuses
  | @refused front x back cause hsplit hwf hrefuses =>
    exact .refused (by rw [hsplit, List.append_assoc, List.cons_append]) hwf hrefuses

/-! ### Single operations -/

/-- An operation makes the declaration that it is for. -/
lemma performs_ofOperation {operation : Declarations → Except ConfigError (Declarations × α)}
    {x : Declaration} (h : ∀ d, Prod.fst <$> operation d = d.operate x) :
    (ofOperation operation).Performs [x] := by
  intro d hd
  change Ends d [x] (ofOperation operation d)
  cases hop : operation d with
  | error cause =>
    have hrefuses : d.operate x = .error cause := by
      rw [← h, hop]
      rfl
    rw [ofOperation_error hop]
    have hsplit : [x] = [] ++ x :: [] := rfl
    exact .refused hsplit hd hrefuses
  | ok made =>
    have hmakes : d.operate x = .ok made.1 := by
      rw [← h, hop]
      rfl
    obtain ⟨hnext, hadmits⟩ := operate_eq_ok_iff.1 hmakes
    obtain ⟨next, a⟩ := made
    obtain rfl : next = d.including x := hnext
    rw [ofOperation_ok hop]
    exact .made a ((hd.including_iff x).2 hadmits)

lemma performs_bank (name : String) (registers : List Register) :
    (bank name registers).Performs [.bank ⟨name, registers⟩] :=
  performs_ofOperation fun _ => rfl

lemma performs_interrupt (name peripheral : String) :
    (interrupt name peripheral).Performs [.interrupt name peripheral] :=
  performs_ofOperation fun _ => rfl

lemma performs_region (r : Region) : (region r).Performs [.region r] := by
  refine performs_ofOperation fun d => ?_
  rw [operate]
  cases d.withRegion r <;> rfl

lemma performs_constant (name : String) (value : Payload) :
    (constant name value).Performs [.constant ⟨name, value⟩] := by
  refine performs_ofOperation fun d => ?_
  rw [operate]
  cases d.withConstant name value <;> rfl

/-- The same for each of a list, one after another. -/
lemma performs_forM {ι : Type} {act : ι → Declaring Unit} {listed : ι → List Declaration}
    (h : ∀ i, (act i).Performs (listed i)) (is : List ι) :
    (is.forM act).Performs (is.flatMap listed) := by
  induction is with
  | nil => exact performs_pure ()
  | cons i is ih => exact (h i).bind fun _ => ih

/-! ### Rows that succeed -/

/-- The row succeeds on `d` and leaves `next`. -/
def Makes (row : Declaring α) (d next : Declarations) : Prop := ∃ a, row.run d = (.ok a, next)

lemma makes_pure (a : α) : (pure a : Declaring α).Makes d next ↔ next = d := by
  constructor
  · rintro ⟨b, hb⟩
    cases hb
    rfl
  · rintro rfl
    exact ⟨a, rfl⟩

/-- **A row of declarations succeeds** exactly where they are well formed together. -/
theorem Performs.makes_iff (h : row.Performs xs) (hd : d.WellFormed) :
    row.Makes d next ↔ next = d.includingAll xs ∧ next.WellFormed := by
  have hends := h d hd
  unfold Makes
  generalize row.run d = out at hends ⊢
  cases hends with
  | made a hwf =>
    constructor
    · rintro ⟨b, heq⟩
      cases heq
      exact ⟨rfl, hwf⟩
    · rintro ⟨rfl, -⟩
      exact ⟨a, rfl⟩
  | @refused front x back cause hsplit hwf hrefuses =>
    refine iff_of_false nofun ?_
    rintro ⟨rfl, hnext⟩
    -- The refused declaration would be admitted.
    rw [hsplit, includingAll_append, includingAll_cons] at hnext
    have hwith := (startOf_includingAll _ back).within.wellFormed hnext
    rw [operate_eq_ok_iff.2 ⟨rfl, (hwf.including_iff x).1 hwith⟩] at hrefuses
    cases hrefuses

lemma all_eq_ok_iff {row : Declaring Unit} : row.all = .ok next ↔ row.Makes {} next := by
  unfold all Makes
  rcases row.run {} with ⟨failure | ⟨⟩, last⟩
  · exact iff_of_false nofun nofun
  · constructor
    · rintro h
      cases h
      exact ⟨(), rfl⟩
    · rintro ⟨u, h⟩
      cases h
      rfl

theorem Performs.all_eq_ok_iff {row : Declaring Unit} (h : row.Performs xs) :
    row.all = .ok next ↔ next = includingAll {} xs ∧ next.WellFormed := by
  rw [Declaring.all_eq_ok_iff]
  exact h.makes_iff wellFormed_empty

/-- A row that is refused is refused for one of its declarations, after those before it. -/
lemma Performs.all_eq_refuse {row : Declaring Unit} (h : row.Performs xs)
    (hrefused : row.all = refuse cause) : ∃ front x back, xs = front ++ x :: back ∧
      (includingAll {} front).WellFormed ∧ (includingAll {} front).operate x = .error cause := by
  have hends := h {} wellFormed_empty
  unfold all at hrefused
  generalize row.run {} = out at hends hrefused
  cases hends with
  | made a hwf => cases hrefused
  | refused hsplit hwf hrefuses =>
    cases hrefused
    exact ⟨_, _, _, hsplit, hwf, hrefuses⟩

/-! ### Banks one after another -/

/-- Banks declared in their order. -/
def banks (banks : List Bank) : Declaring Unit :=
  banks.forM fun b => do
    let _ ← bank b.name b.registers

lemma performs_banks (bs : List Bank) : (banks bs).Performs (bs.map .bank) := by
  have hbank (b : Bank) :
      (do let _ ← bank b.name b.registers : Declaring Unit).Performs [.bank b] :=
    (performs_bank b.name b.registers).bind fun _ => performs_pure ()
  rw [List.map_eq_flatMap]
  exact performs_forM hbank bs

/-- **Banks can be declared** where each is well formed and no two have one name. -/
theorem exists_banks_iff (bs : List Bank) : (∃ d, (banks bs).all = .ok d) ↔
    (∀ b ∈ bs, b.WellFormed) ∧ (bs.map (·.name)).Nodup := by
  simp only [(performs_banks bs).all_eq_ok_iff, includingAll_banks, List.nil_append]
  constructor
  · rintro ⟨d, rfl, hd⟩
    exact ⟨hd.banks, hd.bankNames⟩
  · rintro ⟨hwf, hnames⟩
    exact ⟨_, rfl, { wellFormed_empty with banks := hwf, bankNames := hnames }⟩

end Declaring

end CsrMap
