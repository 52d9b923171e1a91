import CsrMap.Blueprint
import CsrMap.Proofs.Declaration.Making
import CsrMap.Proofs.Soc.Warnings

/-!
Which blueprints are accepted, and what they declare.

A blueprint is declared section by section, and each declaration is checked against those before
it. Whether all are accepted depends on the whole only: on its names, its numbers and on the banks
that its interrupts ask for.
-/

namespace CsrMap

open Declaring Declarations

namespace Declaring

variable {d next : Declarations} {α : Type} {is : List α} {act : α → Declaring Unit}

lemma makes_bind_iff {row rest : Declaring Unit} :
    (row >>= fun _ => rest).Makes d next ↔ ∃ made, row.Makes d made ∧ rest.Makes made next := by
  simp only [Makes, run_bind]
  constructor
  · rintro ⟨a, h⟩
    rcases hrow : row.run d with ⟨failure | u, made⟩
    · rw [hrow] at h
      cases h
    · rw [hrow] at h
      exact ⟨made, ⟨u, rfl⟩, a, h⟩
  · rintro ⟨made, ⟨u, hrow⟩, a, hrest⟩
    exact ⟨a, by rw [hrow]; exact hrest⟩

lemma not_makes_of_refuse {row : Declaring α} {cause : ConfigError} {last : Declarations}
    (h : row.run d = (refuse cause, last)) : ¬ row.Makes d next := by
  rintro ⟨a, ha⟩
  rw [h] at ha
  cases ha

/-- What each of a list makes is what the list makes, where that is one declaration which depends
on those before only by their banks. -/
lemma makes_forM_iff {β : Type} {p : α → β → Prop} {listed : β → Declaration} {bs : List Bank}
    (hstep : ∀ i (d next : Declarations), d.WellFormed → d.banks = bs →
      ((act i).Makes d next ↔ ∃ x, p i x ∧ next = d.including (listed x) ∧ next.WellFormed))
    (hbanks : ∀ x (d : Declarations), (d.including (listed x)).banks = d.banks)
    (hd : d.WellFormed) (hbs : d.banks = bs) :
    (is.forM act).Makes d next ↔ ∃ xs, List.Forall₂ p is xs ∧
      next = d.includingAll (xs.map listed) ∧ next.WellFormed := by
  induction is generalizing d with
  | nil =>
    simp only [List.forall₂_nil_left_iff, exists_eq_left, List.map_nil, includingAll_nil]
    refine (makes_pure ()).trans ⟨?_, And.left⟩
    rintro rfl
    exact ⟨rfl, hd⟩
  | cons i is ih =>
    change (act i >>= fun _ => is.forM act).Makes d next ↔ _
    rw [makes_bind_iff]
    constructor
    · rintro ⟨made, hmade, hrest⟩
      obtain ⟨x, hx, rfl, hwf⟩ := (hstep i d made hd hbs).1 hmade
      obtain ⟨xs, hxs, rfl, hnext⟩ := (ih hwf ((hbanks x d).trans hbs)).1 hrest
      exact ⟨x :: xs, .cons hx hxs, rfl, hnext⟩
    · rintro ⟨_, hall, rfl, hnext⟩
      cases hall with
      | @cons _ x _ xs hx hxs =>
        have hwf : (d.including (listed x)).WellFormed :=
          (startOf_includingAll _ _).within.wellFormed hnext
        exact ⟨_, (hstep i d _ hd hbs).2 ⟨x, hx, rfl, hwf⟩,
          (ih hwf ((hbanks x d).trans hbs)).2 ⟨xs, hxs, rfl, hnext⟩⟩

end Declaring

/-! ### Single declarations of a blueprint -/

namespace WrittenBank

def bank (b : WrittenBank) : Bank := ⟨b.name, b.registers⟩

/-- The bank, and the interrupt of its name. -/
def listed (b : WrittenBank) : List Declaration :=
  .bank b.bank :: if b.interrupt then [.interrupt b.name b.name] else []

lemma performs_declare (b : WrittenBank) : b.declare.Performs b.listed := by
  obtain ⟨name, registers, interrupt⟩ := b
  have hbank := performs_bank name registers
  cases interrupt with
  | false => exact hbank.bind fun _ => performs_pure ()
  | true => exact hbank.bind fun _ => (performs_interrupt name name).bind fun _ => performs_pure ()

end WrittenBank

namespace WrittenInterrupt

variable {i : WrittenInterrupt} {d next : Declarations}

lemma makes_declare_iff (hd : d.WellFormed) : i.declare.Makes d next ↔
    i.owner ∈ d.banks.map (·.name) ∧ next = d.including (.interrupt i.name i.owner) ∧
      next.WellFormed := by
  have hperforms : (do let _ ← Declaring.interrupt i.name i.owner : Declaring Unit).Performs
      [.interrupt i.name i.owner] :=
    (performs_interrupt i.name i.owner).bind fun _ => performs_pure ()
  have hrun : i.declare.run d = if d.hasBank i.owner then
      (do let _ ← Declaring.interrupt i.name i.owner : Declaring Unit).run d
      else (refuse (.unknownBank i.owner), d) := by
    rw [declare, run_bind]
    change (if (!d.hasBank i.owner) = true then _ else _ : Declaring Unit).run d = _
    cases d.hasBank i.owner <;> rfl
  rw [← hasBank_iff]
  by_cases howner : d.hasBank i.owner
  · rw [if_pos howner] at hrun
    rw [Makes, hrun]
    exact (hperforms.makes_iff hd).trans (by simp [howner])
  · rw [if_neg howner] at hrun
    exact iff_of_false (not_makes_of_refuse hrun) fun h => howner h.1

lemma makes_forM_declare_iff (hd : d.WellFormed) (is : List WrittenInterrupt) :
    (is.forM declare).Makes d next ↔ (∀ i ∈ is, i.owner ∈ d.banks.map (·.name)) ∧
      next = d.includingAll (is.map fun i => .interrupt i.name i.owner) ∧ next.WellFormed := by
  have hforM : (is.forM declare).Makes d next ↔
      ∃ xs, List.Forall₂ (fun i x => i.owner ∈ d.banks.map (·.name) ∧ i = x) is xs ∧
        next = d.includingAll (xs.map fun x => .interrupt x.name x.owner) ∧ next.WellFormed := by
    refine makes_forM_iff (fun i e last he hbs => ?_) (fun _ _ => rfl) hd rfl
    rw [makes_declare_iff he, hbs]
    simp only [and_assoc, exists_and_left, exists_eq_left']
  simp only [hforM, List.forall₂_and_left, List.forall₂_eq_eq_eq, and_assoc, exists_and_left,
    exists_eq_left']

end WrittenInterrupt

namespace WrittenRegion

/-- The numbers of the region are those that are written. -/
structure Tells (w : WrittenRegion) (r : Region) : Prop where
  name : w.name = r.name
  origin : w.origin.value = .ok r.origin
  size : w.size.value = .ok r.size
  kind : w.kind = r.kind

lemma region_eq_ok_iff {w : WrittenRegion} {r : Region} : w.region = .ok r ↔ w.Tells r := by
  simp only [region, bind_eq_ok_iff, pure, Except.pure, Except.ok.injEq]
  constructor
  · rintro ⟨origin, horigin, size, hsize, rfl⟩
    exact ⟨rfl, horigin, hsize, rfl⟩
  · rintro ⟨hname, horigin, hsize, hkind⟩
    exact ⟨_, horigin, _, hsize, by rw [hname, hkind]⟩

lemma makes_declare_iff {w : WrittenRegion} {d next : Declarations} (hd : d.WellFormed) :
    w.declare.Makes d next ↔
      ∃ r, w.Tells r ∧ next = d.including (.region r) ∧ next.WellFormed := by
  simp only [← region_eq_ok_iff]
  cases h : w.region with
  | error cause =>
    have hrun : w.declare.run d = (refuse cause, d) := by
      rw [declare, h]
      rfl
    exact iff_of_false (not_makes_of_refuse hrun) fun ⟨_, hr, _⟩ => nomatch hr
  | ok r =>
    have hrun : w.declare.run d = (Declaring.region r).run d := by
      rw [declare, h]
      rfl
    rw [Makes, hrun]
    refine ((performs_region r).makes_iff hd).trans ?_
    simp

lemma makes_forM_declare_iff {d next : Declarations} (hd : d.WellFormed)
    (ws : List WrittenRegion) : (ws.forM declare).Makes d next ↔
      ∃ regions, List.Forall₂ Tells ws regions ∧ next = d.includingAll (regions.map .region) ∧
        next.WellFormed :=
  makes_forM_iff (fun _ _ _ he _ => makes_declare_iff he) (fun _ _ => rfl) hd rfl

end WrittenRegion

/-! ### Whole blueprints -/

namespace Blueprint

variable {b : Blueprint} {d next : Declarations} {regions : List Region}

/-- The interrupts with their peripherals: those of the banks, and then the others. -/
def interruptPairs (b : Blueprint) : List (String × String) :=
  (b.banks.filter (·.interrupt)).map (fun x => (x.name, x.name))
    ++ b.interrupts.map fun i => (i.name, i.owner)

/-- What the blueprint declares if its regions are the given ones. -/
def declared (b : Blueprint) (regions : List Region) : Declarations where
  banks := b.banks.map WrittenBank.bank
  interrupts := ⟨numbered 0 b.interruptPairs⟩
  regions := regions
  constants := b.constants

/-- The same, in the order in which it is declared. -/
def listed (b : Blueprint) (regions : List Region) : List Declaration :=
  b.banks.flatMap WrittenBank.listed ++ (b.interrupts.map (fun i => .interrupt i.name i.owner)
    ++ (regions.map .region ++ b.constants.map .constant))

lemma includingAll_listed : includingAll {} (b.listed regions) = b.declared regions := by
  have hbanks (bs : List WrittenBank) :
      (bs.flatMap WrittenBank.listed).filterMap Declaration.bank? = bs.map WrittenBank.bank ∧
      (bs.flatMap WrittenBank.listed).filterMap Declaration.interrupt?
        = (bs.filter (·.interrupt)).map (fun x => (x.name, x.name)) ∧
      (bs.flatMap WrittenBank.listed).filterMap Declaration.region? = [] ∧
      (bs.flatMap WrittenBank.listed).filterMap Declaration.constant? = [] := by
    induction bs with
    | nil => simp
    | cons b bs ih =>
      obtain ⟨hbank, hinterrupt, hregion, hconstant⟩ := ih
      rw [List.flatMap_cons, List.filterMap_append, List.filterMap_append, List.filterMap_append,
        List.filterMap_append, hbank, hinterrupt, hregion, hconstant]
      cases h : b.interrupt <;> simp [WrittenBank.listed, h, List.filterMap_cons]
  obtain ⟨hbank, hinterrupt, hregion, hconstant⟩ := hbanks b.banks
  simp [includingAll_eq, listed, declared, interruptPairs, hbank, hinterrupt, hregion, hconstant,
    List.filterMap_map, Function.comp_def]

/-- **A blueprint is declared** where its numbers can be read, the banks of its interrupts are
there, and all that it declares is well formed together. -/
lemma makes_declare_iff : b.declare.Makes {} next ↔
    ∃ regions, List.Forall₂ WrittenRegion.Tells b.regions regions ∧
      (∀ i ∈ b.interrupts, i.owner ∈ b.banks.map (·.name)) ∧
      next = b.declared regions ∧ next.WellFormed := by
  have hbanks := performs_forM WrittenBank.performs_declare b.banks
  have hconstants : (b.constants.forM fun c => Declaring.constant c.name c.value).Performs
      (b.constants.map .constant) := by
    have hconstant (c : Constant) : (Declaring.constant c.name c.value).Performs [.constant c] :=
      performs_constant c.name c.value
    rw [List.map_eq_flatMap]
    exact performs_forM hconstant b.constants
  have hnames : (includingAll {} (b.banks.flatMap WrittenBank.listed)).banks.map (·.name)
      = b.banks.map (·.name) := by
    have hmade : includingAll {} (listed { banks := b.banks } []) = _ := includingAll_listed
    simp only [listed, List.map_nil, List.append_nil] at hmade
    simp [hmade, declared, WrittenBank.bank]
  have hsteps : b.declare = (b.banks.forM WrittenBank.declare >>= fun _ =>
      b.interrupts.forM WrittenInterrupt.declare >>= fun _ =>
      b.regions.forM WrittenRegion.declare >>= fun _ =>
      b.constants.forM fun c => Declaring.constant c.name c.value) := rfl
  simp only [hsteps, makes_bind_iff, ← includingAll_listed]
  constructor
  · rintro ⟨d₁, h₁, d₂, h₂, d₃, h₃, h₄⟩
    obtain ⟨rfl, hwf₁⟩ := (hbanks.makes_iff wellFormed_empty).1 h₁
    obtain ⟨howners, rfl, hwf₂⟩ := (WrittenInterrupt.makes_forM_declare_iff hwf₁ _).1 h₂
    obtain ⟨regions, hregions, rfl, hwf₃⟩ := (WrittenRegion.makes_forM_declare_iff hwf₂ _).1 h₃
    obtain ⟨rfl, hwf⟩ := (hconstants.makes_iff hwf₃).1 h₄
    rw [hnames] at howners
    simp only [← includingAll_append] at hwf ⊢
    exact ⟨regions, hregions, howners, by simp only [listed, List.append_assoc], hwf⟩
  · rintro ⟨regions, hregions, howners, rfl, hwf⟩
    simp only [listed, includingAll_append] at hwf ⊢
    have hwf₃ := (startOf_includingAll _ _).within.wellFormed hwf
    have hwf₂ := (startOf_includingAll _ _).within.wellFormed hwf₃
    have hwf₁ := (startOf_includingAll _ _).within.wellFormed hwf₂
    exact ⟨_, (hbanks.makes_iff wellFormed_empty).2 ⟨rfl, hwf₁⟩,
      _, (WrittenInterrupt.makes_forM_declare_iff hwf₁ _).2 ⟨by rwa [hnames], rfl, hwf₂⟩,
      _, (WrittenRegion.makes_forM_declare_iff hwf₂ _).2 ⟨regions, hregions, rfl, hwf₃⟩,
      (hconstants.makes_iff hwf₃).2 ⟨rfl, hwf⟩⟩

/-- What a blueprint has to be like to be accepted, where its regions have the given numbers. -/
structure Valid (b : Blueprint) (decoded : List Region) : Prop where
  banks : ∀ x ∈ b.banks, isName x.name
  bankNames : (b.banks.map (·.name)).Nodup
  registers_ne : ∀ x ∈ b.banks, x.registers ≠ []
  registers : ∀ x ∈ b.banks, ∀ r ∈ x.registers, r.check x.name = .ok ()
  registerNames : ∀ x ∈ b.banks, (x.registers.map (·.name)).Nodup
  interrupts : ∀ i ∈ b.interruptPairs, isName i.1
  interruptNames : (b.interruptPairs.map Prod.fst).Nodup
  vector : b.interruptPairs.length ≤ 32
  owners : ∀ i ∈ b.interrupts, i.owner ∈ b.banks.map (·.name)
  numbers : List.Forall₂ WrittenRegion.Tells b.regions decoded
  regions : ∀ r ∈ decoded, isName r.name
  regionNames : (decoded.map (·.name)).Nodup
  regionSizes : ∀ r ∈ decoded, r.size ≠ 0
  regionsApart : decoded.Pairwise fun r s => ¬ r.meets s.origin s.size
  constants : ∀ c ∈ b.constants, isConstantName c.name
  constantNames : (b.constants.map (·.name)).Nodup

/-- The peripherals of the interrupts are banks. -/
lemma mem_names_of_mem_interruptPairs (h : ∀ i ∈ b.interrupts, i.owner ∈ b.banks.map (·.name))
    {pair : String × String} (hpair : pair ∈ b.interruptPairs) :
    pair.2 ∈ b.banks.map (·.name) := by
  rcases List.mem_append.1 hpair with hpair | hpair
  · obtain ⟨x, hx, rfl⟩ := List.mem_map.1 hpair
    exact List.mem_map_of_mem (List.mem_filter.1 hx).1
  · obtain ⟨i, hi, rfl⟩ := List.mem_map.1 hpair
    exact h i hi

lemma forall_mem_numbered {p : String × String → Prop} {pairs : List (String × String)} :
    (∀ i ∈ numbered 0 pairs, p (i.name, i.peripheral)) ↔ ∀ pair ∈ pairs, p pair := by
  rw [← List.forall_mem_map (f := fun i : Interrupt => (i.name, i.peripheral)), map_pair_numbered]

lemma map_name_numbered (pairs : List (String × String)) :
    (numbered 0 pairs).map (·.name) = pairs.map Prod.fst := by
  have hnames := congrArg (List.map Prod.fst) (map_pair_numbered 0 pairs)
  rwa [List.map_map] at hnames

lemma map_name_banks (b : Blueprint) :
    (b.banks.map WrittenBank.bank).map (·.name) = b.banks.map (·.name) := List.map_map

/-- Interrupts that fit in the vector have their positions as bits. -/
lemma bit_of_numbered {pairs : List (String × String)} (h : pairs.length ≤ 32) (k : ℕ)
    (i : Interrupt) (hi : (numbered 0 pairs)[k]? = some i) : i.bit.toNat = k := by
  have hk := (List.getElem?_eq_some_iff.1 hi).1
  rw [length_numbered] at hk
  rw [getElem?_numbered, Option.map_eq_some_iff] at hi
  obtain ⟨pair, -, rfl⟩ := hi
  rw [Nat.zero_add]
  exact UInt32.toNat_ofNat_of_lt' (hk.trans_le (h.trans (by decide)))

/-- **A blueprint is valid** where what it declares is well formed. -/
lemma valid_iff : b.Valid regions ↔ List.Forall₂ WrittenRegion.Tells b.regions regions ∧
    (∀ i ∈ b.interrupts, i.owner ∈ b.banks.map (·.name)) ∧ (b.declared regions).WellFormed := by
  constructor
  · intro h
    have hperipherals : ∀ pair ∈ b.interruptPairs, isName pair.2 := by
      intro pair hpair
      obtain ⟨x, hx, hname⟩ := List.mem_map.1 (mem_names_of_mem_interruptPairs h.owners hpair)
      exact hname ▸ h.banks x hx
    exact ⟨h.numbers, h.owners,
      { interrupts := forall_mem_numbered.2 h.interrupts
        regions := h.regions
        constants := h.constants
        banks := List.forall_mem_map.2 fun x hx => ⟨h.banks x hx, h.registers_ne x hx,
          fun r hr => Register.check_eq_ok_iff.1 (h.registers x hx r hr), h.registerNames x hx⟩
        bankNames := (map_name_banks b).symm ▸ h.bankNames
        peripherals := forall_mem_numbered.2 hperipherals
        interruptNames := (map_name_numbered _).symm ▸ h.interruptNames
        bits := bit_of_numbered h.vector
        vector := (length_numbered 0 _).trans_le h.vector
        regionSizes := h.regionSizes
        regionNames := h.regionNames
        regionsApart := h.regionsApart
        constantNames := h.constantNames }⟩
  · rintro ⟨hnumbers, howners, h⟩
    have hbanks := List.forall_mem_map.1 h.banks
    exact
      { banks := fun x hx => (hbanks x hx).name
        bankNames := map_name_banks b ▸ h.bankNames
        registers_ne := fun x hx => (hbanks x hx).registers_ne
        registers := fun x hx r hr => Register.check_eq_ok_iff.2 ((hbanks x hx).registers r hr)
        registerNames := fun x hx => (hbanks x hx).registerNames
        interrupts := forall_mem_numbered.1 h.interrupts
        interruptNames := map_name_numbered b.interruptPairs ▸ h.interruptNames
        vector := (length_numbered 0 _).symm.trans_le h.vector
        owners := howners
        numbers := hnumbers
        regions := h.regions
        regionNames := h.regionNames
        regionSizes := h.regionSizes
        regionsApart := h.regionsApart
        constants := h.constants
        constantNames := h.constantNames }

/-- **A blueprint is accepted** exactly where it is valid. Its banks, regions and constants are then
declared in their order, and its interrupts are numbered: those of the banks first, then the others.
All of them belong to banks, so no completion warns. -/
theorem declarations_accepts (b : Blueprint) :
    (∀ d, b.declarations = .ok d ↔ ∃ regions, b.Valid regions ∧ d = b.declared regions) ∧
    ∀ d, b.declarations = .ok d →
      (∀ i ∈ d.interrupts.entries, ∃ bank ∈ d.banks, bank.name = i.peripheral) ∧
      ∀ bus, ∀ e ∈ (d.completeLogged bus).events, e.level ≠ .warn := by
  have haccepts (d : Declarations) :
      b.declarations = .ok d ↔ ∃ regions, b.Valid regions ∧ d = b.declared regions := by
    rw [declarations, all_eq_ok_iff, makes_declare_iff]
    simp only [valid_iff]
    constructor
    · rintro ⟨regions, hnumbers, howners, rfl, hwf⟩
      exact ⟨regions, ⟨hnumbers, howners, hwf⟩, rfl⟩
    · rintro ⟨regions, ⟨hnumbers, howners, hwf⟩, rfl⟩
      exact ⟨regions, hnumbers, howners, rfl, hwf⟩
  refine ⟨haccepts, fun d hd => ?_⟩
  obtain ⟨regions, h, rfl⟩ := (haccepts d).1 hd
  have hpairs : ∀ pair ∈ b.interruptPairs,
      ∃ bank ∈ b.banks.map WrittenBank.bank, bank.name = pair.2 := by
    intro pair hpair
    obtain ⟨x, hx, hname⟩ := List.mem_map.1 (mem_names_of_mem_interruptPairs h.owners hpair)
    exact ⟨x.bank, List.mem_map_of_mem hx, hname⟩
  have hperipherals := forall_mem_numbered.2 hpairs
  refine ⟨hperipherals, fun bus e he hwarn => ?_⟩
  obtain ⟨i, hi, -⟩ := completeLogged_warnsOnly _ bus e he hwarn
  obtain ⟨hi, hstray⟩ := List.mem_filter.1 hi
  obtain ⟨bank, hbank, hname⟩ := hperipherals i hi
  have hhas : (b.declared regions).hasBank i.peripheral = true :=
    List.any_eq_true.2 ⟨bank, hbank, by simp [hname]⟩
  simp [hhas] at hstray

/-- A bank with an interrupt of its own, an interrupt of another bank, and a region whose numbers
are texts. -/
theorem declarations_accepts_two_banks : ∃ d,
    ({ banks := [⟨"uart", [⟨"data", 8, .storage, [], 0, none⟩], true⟩,
          ⟨"dma", [⟨"count", 16, .status, [], 0, none⟩], false⟩]
       interrupts := [⟨"dma_done", some "dma"⟩]
       regions := [⟨"ram", .text " 0x1000_0000 ", .text "4096", .cached⟩]
       constants := [⟨"SET", .flag⟩] } : Blueprint).declarations = .ok d ∧
    d.interrupts.entries = [⟨"uart", "uart", 0⟩, ⟨"dma_done", "dma", 1⟩] ∧
    d.regions = [⟨"ram", 0x10000000, 4096, .cached⟩] ∧
    ∀ bus, ∀ e ∈ (d.completeLogged bus).events, e.level ≠ .warn := by
  have h : ({ banks := [⟨"uart", [⟨"data", 8, .storage, [], 0, none⟩], true⟩,
          ⟨"dma", [⟨"count", 16, .status, [], 0, none⟩], false⟩]
              interrupts := [⟨"dma_done", some "dma"⟩]
              regions := [⟨"ram", .text " 0x1000_0000 ", .text "4096", .cached⟩]
              constants := [⟨"SET", .flag⟩] } : Blueprint).declarations
      = .ok ⟨[⟨"uart", [⟨"data", 8, .storage, [], 0, none⟩]⟩,
          ⟨"dma", [⟨"count", 16, .status, [], 0, none⟩]⟩],
        ⟨[⟨"uart", "uart", 0⟩, ⟨"dma_done", "dma", 1⟩]⟩,
        [⟨"ram", 0x10000000, 4096, .cached⟩], [⟨"SET", .flag⟩]⟩ := by
    decide +kernel
  exact ⟨_, h, rfl, rfl, ((declarations_accepts _).2 _ h).2⟩

end Blueprint

end CsrMap
