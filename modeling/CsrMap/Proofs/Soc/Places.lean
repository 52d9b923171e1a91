import CsrMap.Proofs.Soc.Finished

/-!
The banks and the registers of a system with their places, in the order of their declaration.

The map keeps the places apart from the declarations. Put together they are one list of banks and
one of registers, in which no declaration is left out, and in which each has the place that is
found under its names.
-/

namespace CsrMap.Soc

open BusGeometry

variable {soc : Soc} {b : Bank} {r : Register} {placed : PlacedBank} {p : PlacedRegister}

/-- The registers of all banks with their banks and their places. -/
def placedRegisters (soc : Soc) : List (Bank × Register × PlacedRegister) :=
  soc.placedBanks.flatMap fun (bank, placed) =>
    (bank.registers.zip placed.registers).map fun (r, p) => (bank, r, p)

/-! ### Banks -/

lemma map_fst_placedBanks (h : soc.Finished) : soc.placedBanks.map Prod.fst = soc.banks := by
  have hlen : soc.banks.length ≤ soc.map.banks.length := by
    rw [h.map, layout, length_banksFrom]
  rw [placedBanks, List.map_fst_zip hlen]

lemma exists_of_mem_placedBanks (h : soc.Finished) (hmem : (b, placed) ∈ soc.placedBanks) :
    ∃ i, soc.banks[i]? = some b ∧
      placed = soc.bus.bankAt (soc.bus.base.toNat + soc.bus.total (soc.banks.take i)) b := by
  obtain ⟨i, hi⟩ := List.mem_iff_getElem?.1 hmem
  rw [getElem?_placedBanks h, Option.map_eq_some_iff] at hi
  obtain ⟨c, hc, heq⟩ := hi
  cases heq
  exact ⟨i, hc, rfl⟩

lemma exists_mem_placedBanks (h : soc.Finished) (hb : b ∈ soc.banks) :
    ∃ placed, (b, placed) ∈ soc.placedBanks := by
  rw [← map_fst_placedBanks h] at hb
  obtain ⟨⟨c, placed⟩, hmem, rfl⟩ := List.mem_map.1 hb
  exact ⟨placed, hmem⟩

/-- Each bank has the place that is found under its name. -/
lemma bank?_of_mem (h : soc.Finished) (hmem : (b, placed) ∈ soc.placedBanks) :
    soc.map.bank? b.name = some placed := by
  have hnames : (soc.map.banks.map (·.name)).Nodup := by
    have hname (start : ℕ) (banks : List Bank) :
        (soc.bus.banksFrom start banks).map (·.name) = banks.map (·.name) := by
      induction banks generalizing start with
      | nil => rfl
      | cons c banks ih => rw [banksFrom, List.map_cons, ih, List.map_cons, bankAt]
    rw [h.map, layout, hname]
    exact h.fits.names
  obtain ⟨i, hi⟩ := List.mem_iff_getElem?.1 hmem
  obtain ⟨hbank, hplaced⟩ : soc.banks[i]? = some b ∧ soc.map.banks[i]? = some placed := by
    rwa [placedBanks, List.getElem?_zip_eq_some] at hi
  have hfound := find?_eq_some_of_nodup hnames hplaced
  have hname : placed.name = b.name := by
    obtain ⟨i, -, rfl⟩ := exists_of_mem_placedBanks h hmem
    rfl
  rwa [hname] at hfound

lemma bankBase?_of_mem (h : soc.Finished) (hmem : (b, placed) ∈ soc.placedBanks) :
    soc.map.bankBase? b.name = some placed.base := by
  rw [AddressMap.bankBase?, bank?_of_mem h hmem, Option.map_some]

/-! ### Registers -/

lemma map_fst_zip_registers (h : soc.Finished) (hmem : (b, placed) ∈ soc.placedBanks) :
    (b.registers.zip placed.registers).map Prod.fst = b.registers := by
  obtain ⟨i, -, rfl⟩ := exists_of_mem_placedBanks h hmem
  exact List.map_fst_zip (length_registersFrom _ _ _).ge

lemma map_snd_zip_registers (h : soc.Finished) (hmem : (b, placed) ∈ soc.placedBanks) :
    (b.registers.zip placed.registers).map Prod.snd = placed.registers := by
  obtain ⟨i, -, rfl⟩ := exists_of_mem_placedBanks h hmem
  exact List.map_snd_zip (length_registersFrom _ _ _).le

/-- Every register of every bank has a place, once. -/
lemma map_placedRegisters (h : soc.Finished) :
    soc.placedRegisters.map (fun (b, r, _) => (b, r))
      = soc.banks.flatMap fun b => b.registers.map (b, ·) := by
  calc soc.placedRegisters.map (fun (b, r, _) => (b, r))
      = soc.placedBanks.flatMap fun (b, _) => b.registers.map (b, ·) := by
        rw [placedRegisters, List.map_flatMap]
        refine List.flatMap_congr fun (b, placed) hmem => ?_
        have hfst := congrArg (List.map (b, ·)) (map_fst_zip_registers h hmem)
        rw [List.map_map] at hfst ⊢
        exact hfst
    _ = (soc.placedBanks.map Prod.fst).flatMap fun b => b.registers.map (b, ·) := by
        rw [List.flatMap_map]
    _ = soc.banks.flatMap fun b => b.registers.map (b, ·) := by rw [map_fst_placedBanks h]

/-- What is listed bank by bank from the places of the registers. -/
lemma flatMap_placedBanks {α : Type} (h : soc.Finished) (f : Bank → PlacedRegister → α) :
    soc.placedBanks.flatMap (fun (b, placed) => placed.registers.map (f b))
      = soc.placedRegisters.map fun (b, _, p) => f b p := by
  rw [placedRegisters, List.map_flatMap]
  refine List.flatMap_congr fun (b, placed) hmem => ?_
  have hsnd := congrArg (List.map (f b)) (map_snd_zip_registers h hmem)
  rw [List.map_map] at hsnd ⊢
  exact hsnd.symm

lemma exists_hosts_of_mem (h : soc.Finished) (hmem : (b, r, p) ∈ soc.placedRegisters) :
    ∃ i j start, soc.bus.Hosts soc.banks i j b r start ∧ p = soc.bus.registerAt start r := by
  obtain ⟨⟨c, placed⟩, hbank, hmem⟩ := List.mem_flatMap.1 hmem
  obtain ⟨⟨s, q⟩, hregister, heq⟩ := List.mem_map.1 hmem
  cases heq
  obtain ⟨i, hi, rfl⟩ := exists_of_mem_placedBanks h hbank
  obtain ⟨j, hj⟩ := List.mem_iff_getElem?.1 hregister
  rw [bankAt, getElem?_zip_registersFrom, Option.map_eq_some_iff] at hj
  obtain ⟨t, ht, heq⟩ := hj
  cases heq
  exact ⟨i, j, _, ⟨hi, ht, rfl⟩, rfl⟩

lemma mem_placedRegisters_of_hosts (h : soc.Finished) {i j start : ℕ}
    (hosts : soc.bus.Hosts soc.banks i j b r start) :
    (b, r, soc.bus.registerAt start r) ∈ soc.placedRegisters := by
  have hbank := (getElem?_placedBanks h i).trans (congrArg _ hosts.bank)
  have hregister := (getElem?_zip_registersFrom soc.bus
    (soc.bus.base.toNat + soc.bus.total (soc.banks.take i)) b.registers j).trans
    (congrArg _ hosts.register)
  rw [Option.map_some, ← hosts.start_eq] at hregister
  exact List.mem_flatMap.2 ⟨_, List.mem_of_getElem? hbank,
    List.mem_map.2 ⟨_, List.mem_of_getElem? hregister, rfl⟩⟩

lemma exists_mem_placedRegisters (h : soc.Finished) (hb : b ∈ soc.banks)
    (hr : r ∈ b.registers) : ∃ p, (b, r, p) ∈ soc.placedRegisters := by
  obtain ⟨i, hi⟩ := List.mem_iff_getElem?.1 hb
  obtain ⟨j, hj⟩ := List.mem_iff_getElem?.1 hr
  exact ⟨_, mem_placedRegisters_of_hosts h ⟨hi, hj, rfl⟩⟩

/-- Each register has the place that is found under its names. -/
lemma register?_of_mem (h : soc.Finished) (hmem : (b, r, p) ∈ soc.placedRegisters) :
    soc.register? b.name r.name = some (r, p) := by
  obtain ⟨i, j, start, hosts, rfl⟩ := exists_hosts_of_mem h hmem
  exact (register?_eq_some_iff h).2 ⟨i, j, b, r, start, hosts, rfl, rfl, rfl⟩

/-- The place of a register has its name, its access and its width, and the words it takes. -/
structure PlacesRegister (bus : BusGeometry) (r : Register) (p : PlacedRegister) : Prop where
  name : p.name = r.name
  access : p.access = r.access
  width : p.width = r.width
  size : p.size = bus.wordCount r.width

lemma placesRegister_of_mem (h : soc.Finished) (hmem : (b, r, p) ∈ soc.placedRegisters) :
    PlacesRegister soc.bus r p := by
  obtain ⟨i, j, start, -, rfl⟩ := exists_hosts_of_mem h hmem
  refine ⟨rfl, rfl, rfl, ?_⟩
  rw [PlacedRegister.size, registerAt, tiles, List.length_map, List.length_range]

end CsrMap.Soc
