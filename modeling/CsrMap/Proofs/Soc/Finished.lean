import CsrMap.Completion
import CsrMap.Proofs.Placement.Outcome
import CsrMap.Proofs.Placement.Positions

/-!
What completion leaves of the declarations, and look-up by name in a finished system.

The banks of a finished system fit and lie at the places of their layout. Names of banks, and of
the registers of a bank, are apart, so a name leads to one position.
-/

namespace CsrMap

open BusGeometry

section Names

variable {α : Type} {key : α → String} {xs : List α} {x : α} {i : ℕ}

/-- Where names are apart, the search for a name ends at its only bearer. -/
lemma findIdx?_eq_some_of_nodup (hn : (xs.map key).Nodup) (hx : xs[i]? = some x) :
    xs.findIdx? (key · == key x) = some i := by
  obtain ⟨hi, rfl⟩ := List.getElem?_eq_some_iff.1 hx
  rw [List.findIdx?_eq_some_iff_getElem]
  refine ⟨hi, by simp, fun j hj heq => ?_⟩
  have hlen : i < (xs.map key).length := by simpa using hi
  have hkey : (xs.map key)[i]? = (xs.map key)[j]? := by
    rw [List.getElem?_map, List.getElem?_map, hx, List.getElem?_eq_getElem (hj.trans hi)]
    exact congrArg some (beq_iff_eq.1 heq).symm
  have := (List.getElem?_inj hlen hn).1 hkey
  omega

lemma find?_eq_some_of_nodup (hn : (xs.map key).Nodup) (hx : xs[i]? = some x) :
    xs.find? (key · == key x) = some x := by
  obtain ⟨hi, hkey, hbefore⟩ :=
    List.findIdx?_eq_some_iff_getElem.1 (findIdx?_eq_some_of_nodup hn hx)
  obtain ⟨hi', rfl⟩ := List.getElem?_eq_some_iff.1 hx
  rw [List.find?_eq_some_iff_getElem]
  exact ⟨hkey, i, hi, rfl, fun j hj => by simpa using hbefore j hj⟩

/-- Where the names are the same one by one, the search for a name ends at the same position. -/
lemma findIdx?_eq_of_map_eq {β : Type} {key' : β → String} {ys : List β}
    (h : xs.map key = ys.map key') (name : String) :
    xs.findIdx? (key · == name) = ys.findIdx? (key' · == name) := by
  calc xs.findIdx? (key · == name)
      = (xs.map key).findIdx? (· == name) := by
        rw [List.findIdx?_map]
        rfl
    _ = (ys.map key').findIdx? (· == name) := by rw [h]
    _ = ys.findIdx? (key' · == name) := by
        rw [List.findIdx?_map]
        rfl

end Names

/-! ### Symbols that are apart -/

section Symbols

open Header

variable {earlier symbols : List Owned}

lemma firstCollision_eq_none_iff :
    firstCollision earlier symbols = none ↔ (symbols.map (·.symbol)).Nodup ∧
      ∀ x ∈ symbols, x.symbol ∉ earlier.map (·.symbol) := by
  induction symbols generalizing earlier with
  | nil => simp [firstCollision]
  | cons x symbols ih =>
    rw [firstCollision, List.forall_mem_cons]
    cases hfind : earlier.find? (·.symbol == x.symbol) with
    | some first =>
      have hsymbol : first.symbol = x.symbol := by simpa using List.find?_some hfind
      have hmem : x.symbol ∈ earlier.map (·.symbol) :=
        List.mem_map.2 ⟨first, List.mem_of_find?_eq_some hfind, hsymbol⟩
      simp [hmem]
    | none =>
      have hx : x.symbol ∉ earlier.map (·.symbol) := by
        rintro hmem
        obtain ⟨y, hy, heq⟩ := List.mem_map.1 hmem
        exact List.find?_eq_none.1 hfind y hy (beq_iff_eq.2 heq)
      simp only [ih, List.map_cons, List.nodup_cons, List.mem_cons, not_or]
      constructor
      · rintro ⟨hnodup, hnew⟩
        refine ⟨⟨fun hmem => ?_, hnodup⟩, hx, fun y hy => (hnew y hy).2⟩
        obtain ⟨y, hy, heq⟩ := List.mem_map.1 hmem
        exact (hnew y hy).1 heq
      · rintro ⟨⟨hlater, hnodup⟩, -, hnew⟩
        exact ⟨hnodup, fun y hy => ⟨fun heq => hlater (List.mem_map.2 ⟨y, hy, heq⟩), hnew y hy⟩⟩

lemma firstCollision_eq_some {cause : ConfigError}
    (h : firstCollision earlier symbols = some cause) :
    ∃ first second symbol, cause = .symbolCollision first second symbol := by
  induction symbols generalizing earlier with
  | nil => cases h
  | cons x symbols ih =>
    rw [firstCollision] at h
    split at h
    · exact ⟨_, _, _, (Option.some.inj h).symm⟩
    · exact ih h

end Symbols

/-- The banks of a finished system fit on its bus and lie where their layout says. -/
structure Soc.Finished (soc : Soc) : Prop where
  sound : soc.bus.Sound
  fits : soc.bus.Fits soc.banks
  map : soc.map = soc.bus.layout soc.banks
  symbols : firstCollision [] soc.symbols = none

/-- No two declarations of a finished system lead to one symbol. -/
theorem Soc.nodup_symbols {soc : Soc} (h : soc.Finished) :
    (soc.symbols.map (·.symbol)).Nodup :=
  (firstCollision_eq_none_iff.1 h.symbols).1

/-- The declarations of a system without their places. -/
def Soc.declarations (soc : Soc) : Declarations :=
  ⟨soc.banks, soc.interrupts, soc.regions, soc.constants⟩

namespace Declarations

variable {d : Declarations} {bus : BusGeometry} {soc : Soc}

/-- The system of these declarations with the addresses of `m`. -/
def placedOn (d : Declarations) (bus : BusGeometry) (m : AddressMap) : Soc :=
  ⟨bus, d.banks, m, d.interrupts, d.regions, d.constants⟩

/-- The steps of a completion, without what they report. -/
lemma complete_eq (d : Declarations) (bus : BusGeometry) :
    d.complete bus = (do
      let m ← AddressMap.ofBanks d.banks bus
      Outcome.ofExcept d.interrupts.checkDense
      Outcome.ofExcept (checkRegions m d.regions)
      match firstCollision [] (d.placedOn bus m).symbols with
      | some collision => refuse collision
      | none => .ok (d.placedOn bus m)) := by
  have hstray (l : List Interrupt) : (l.forM fun i =>
      (Logged.report (.strayInterrupt i.name i.peripheral) : Logged ConfigError Unit)).outcome
        = .ok () := by
    induction l with
    | nil => rfl
    | cons i l ih =>
      rw [List.forM_eq_forM] at ih ⊢
      rw [List.forM_cons, Logged.outcome_bind, Logged.outcome_report, Outcome.ok_bind, ih]
  simp only [complete, completeLogged, Logged.outcome_bind, liftM, Logged.outcome_monadLift,
    hstray, Outcome.ok_bind]
  refine congrArg _ (funext fun m => congrArg _ (funext fun _ => congrArg _ (funext fun _ => ?_)))
  rw [placedOn]
  cases firstCollision [] (Soc.symbols ⟨bus, d.banks, m, d.interrupts, d.regions, d.constants⟩) with
  | some collision => rfl
  | none => rfl

lemma ofExcept_eq_ok_iff {ε α : Type} {x : Except ε α} {a : α} :
    Outcome.ofExcept x = .ok a ↔ x = .ok a := by
  cases x with
  | ok b => simp
  | error cause => simp

/-- What a completion that succeeds has made of the declarations. -/
lemma eq_of_complete (h : d.complete bus = .ok soc) :
    ∃ m, AddressMap.ofBanks d.banks bus = .ok m ∧ soc = d.placedOn bus m ∧
      d.interrupts.checkDense = .ok () ∧ checkRegions m d.regions = .ok () ∧
      firstCollision [] soc.symbols = none := by
  rw [complete_eq] at h
  obtain ⟨m, hm, h⟩ := bind_eq_ok_iff.1 h
  simp only [step_eq_ok_iff, ofExcept_eq_ok_iff] at h
  obtain ⟨hdense, hregions, h⟩ := h
  cases hc : firstCollision [] (d.placedOn bus m).symbols with
  | some collision =>
    rw [hc] at h
    cases h
  | none =>
    rw [hc] at h
    cases h
    exact ⟨m, hm, rfl, hdense, hregions, hc⟩

theorem finished_of_complete (h : d.complete bus = .ok soc) : soc.Finished := by
  obtain ⟨m, hm, rfl, -, -, hsymbols⟩ := eq_of_complete h
  obtain ⟨⟨hsound, -, hfits⟩, hmap⟩ := AddressMap.ofBanks_eq_ok_iff.1 hm
  exact ⟨hsound, hfits, hmap, hsymbols⟩

lemma declarations_of_complete (h : d.complete bus = .ok soc) : soc.declarations = d := by
  obtain ⟨m, -, rfl, -⟩ := eq_of_complete h
  rfl

end Declarations

namespace BusGeometry

variable {bus : BusGeometry} {banks : List Bank} {b c : Bank} {r s : Register}
  {start next i j i' j' : ℕ}

/-- Two registers with the names of one bank and one register are the same. -/
lemma Hosts.position_eq_of_names (h : bus.Hosts banks i j b r start)
    (h' : bus.Hosts banks i' j' c s next) (hfit : bus.Fits banks) (hb : b.name = c.name)
    (hr : r.name = s.name) : i = i' ∧ j = j' := by
  have hi := findIdx?_eq_some_of_nodup hfit.names h.bank
  have hi' := findIdx?_eq_some_of_nodup hfit.names h'.bank
  rw [hb] at hi
  obtain rfl : i = i' := Option.some.inj (hi.symm.trans hi')
  obtain rfl : b = c := Option.some.inj (h.bank.symm.trans h'.bank)
  have hnames := (hfit.wellFormed b h.mem_bank).registerNames
  have hj := findIdx?_eq_some_of_nodup hnames h.register
  have hj' := findIdx?_eq_some_of_nodup hnames h'.register
  rw [hr] at hj
  exact ⟨rfl, Option.some.inj (hj.symm.trans hj')⟩

/-- At one position there is one register. -/
lemma Hosts.unique (h : bus.Hosts banks i j b r start) (h' : bus.Hosts banks i j c s next) :
    b = c ∧ r = s ∧ start = next := by
  obtain rfl : b = c := Option.some.inj (h.bank.symm.trans h'.bank)
  obtain rfl : r = s := Option.some.inj (h.register.symm.trans h'.register)
  exact ⟨rfl, rfl, h.start_eq.trans h'.start_eq.symm⟩

/-- Two registers are the same, or they differ in the name of the bank or of the register. -/
lemma Hosts.same_or_names_ne (h : bus.Hosts banks i j b r start)
    (h' : bus.Hosts banks i' j' c s next) (hfit : bus.Fits banks) :
    (i = i' ∧ j = j' ∧ b = c ∧ r = s ∧ start = next) ∨ (c.name, s.name) ≠ (b.name, r.name) := by
  by_cases heq : (c.name, s.name) = (b.name, r.name)
  · have hnames := Prod.mk.inj heq
    obtain ⟨rfl, rfl⟩ := h.position_eq_of_names h' hfit hnames.1.symm hnames.2.symm
    exact .inl ⟨rfl, rfl, h.unique h'⟩
  · exact .inr heq

lemma getElem?_zip_registersFrom (bus : BusGeometry) (start : ℕ) (registers : List Register)
    (j : ℕ) : (registers.zip (bus.registersFrom start registers))[j]?
      = registers[j]?.map fun r =>
        (r, bus.registerAt (start + bus.need (registers.take j)) r) := by
  rw [List.zip, List.getElem?_zipWith, getElem?_registersFrom]
  cases registers[j]? <;> rfl

end BusGeometry

namespace Soc

variable {soc : Soc}

lemma getElem?_placedBanks (h : soc.Finished) (i : ℕ) :
    soc.placedBanks[i]? = soc.banks[i]?.map fun b =>
      (b, soc.bus.bankAt (soc.bus.base.toNat + soc.bus.total (soc.banks.take i)) b) := by
  rw [placedBanks, h.map, layout, List.zip, List.getElem?_zipWith, getElem?_banksFrom]
  cases soc.banks[i]? <;> rfl

lemma map_name_placedBanks (h : soc.Finished) :
    soc.placedBanks.map (·.1.name) = soc.banks.map (·.name) := by
  have hlen : soc.banks.length ≤ soc.map.banks.length := by
    rw [h.map, layout, length_banksFrom]
  calc soc.placedBanks.map (·.1.name)
      = ((soc.banks.zip soc.map.banks).map Prod.fst).map (·.name) := by
        rw [List.map_map, placedBanks]
        rfl
    _ = soc.banks.map (·.name) := by rw [List.map_fst_zip hlen]

/-- Look-up by names gives the registers of the layout. -/
theorem register?_eq_some_iff (h : soc.Finished) {bank register : String}
    {found : Register × PlacedRegister} : soc.register? bank register = some found ↔
      ∃ i j b r start, soc.bus.Hosts soc.banks i j b r start ∧ b.name = bank ∧
        r.name = register ∧ found = (r, soc.bus.registerAt start r) := by
  have hnames : (soc.placedBanks.map (·.1.name)).Nodup := by
    rw [map_name_placedBanks h]
    exact h.fits.names
  have hregisters (b : Bank) (hb : b ∈ soc.banks) (start : ℕ) :
      ((b.registers.zip (soc.bus.registersFrom start b.registers)).map (·.1.name)).Nodup := by
    have hfst := List.map_fst_zip
      (length_registersFrom soc.bus start b.registers).ge
    have := (h.fits.wellFormed b hb).registerNames
    rw [← hfst, List.map_map] at this
    exact this
  constructor
  · intro hfound
    obtain ⟨⟨b, placed⟩, hbank, hfound⟩ := Option.bind_eq_some_iff.1 hfound
    have hbname := List.find?_some hbank
    have hrname := List.find?_some hfound
    obtain ⟨i, hi⟩ := List.mem_iff_getElem?.1 (List.mem_of_find?_eq_some hbank)
    obtain ⟨j, hj⟩ := List.mem_iff_getElem?.1 (List.mem_of_find?_eq_some hfound)
    rw [getElem?_placedBanks h, Option.map_eq_some_iff] at hi
    obtain ⟨b', hb, heq⟩ := hi
    cases heq
    rw [bankAt, getElem?_zip_registersFrom, Option.map_eq_some_iff] at hj
    obtain ⟨r, hr, rfl⟩ := hj
    exact ⟨i, j, b, r, _, ⟨hb, hr, rfl⟩, beq_iff_eq.1 hbname, beq_iff_eq.1 hrname, rfl⟩
  · rintro ⟨i, j, b, r, start, hosts, rfl, rfl, rfl⟩
    have hi := (getElem?_placedBanks h i).trans (congrArg _ hosts.bank)
    have hj := (getElem?_zip_registersFrom soc.bus
      (soc.bus.base.toNat + soc.bus.total (soc.banks.take i)) b.registers j).trans
      (congrArg _ hosts.register)
    have hbank := find?_eq_some_of_nodup hnames hi
    have hregister := find?_eq_some_of_nodup (hregisters b hosts.mem_bank _) hj
    rw [← hosts.start_eq] at hregister
    exact Option.bind_eq_some_iff.2 ⟨_, hbank, hregister⟩

end Soc

end CsrMap
