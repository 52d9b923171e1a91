import CsrMap.Bus.Model
import CsrMap.Proofs.Soc.Finished
import Mathlib.Logic.Function.Basic

/-!
The states of the bus model of a finished system, by the values of its registers.

No operation changes more than values, so each state is `Soc.holding` for some values. Setting
one register and restarting are told as changes of the values.
-/

namespace CsrMap

open BusGeometry

/-- Values of registers, by the names of the bank and of the register. -/
abbrev Values : Type := String × String → UInt64

/-- A register with its first word at `start`, at a value. -/
def BusGeometry.live (bus : BusGeometry) (r : Register) (start : ℕ) (value : UInt64) :
    LiveRegister :=
  ⟨r.name, r.access, r.reset, value, bus.tiles r.width start⟩

namespace Soc

/-- The bus model with the registers at these values. -/
def holding (soc : Soc) (v : Values) : BusModel where
  map := soc.map
  slotSize := soc.bus.slotSize
  dataMask := lowBits soc.bus.dataWidth
  banks := soc.placedBanks.map fun (bank, placed) =>
    (bank.registers.zip placed.registers).map fun (r, p) =>
      { LiveRegister.ofPlaced r p with value := v (bank.name, r.name) }

/-- The value that a register has at first. -/
def resets (soc : Soc) : Values :=
  fun (bank, register) => (soc.register? bank register).elim 0 (·.1.reset)

/-- The values after a restart: storage is reset, and status stays. -/
def restarted (soc : Soc) (v : Values) : Values :=
  fun (bank, register) =>
    match soc.register? bank register with
    | some (r, _) => match r.access with
      | .storage => r.reset
      | .status => v (bank, register)
    | none => v (bank, register)

/-- The live registers are those of bank number `i`, at their places and at the values `v`. -/
def LiveAt (soc : Soc) (v : Values) (i : ℕ) (b : Bank) (registers : List LiveRegister) : Prop :=
  ∀ j : ℕ, registers[j]? = b.registers[j]?.map fun r => soc.bus.live r (soc.bus.base.toNat
    + soc.bus.total (soc.banks.take i) + soc.bus.need (b.registers.take j)) (v (b.name, r.name))

variable {soc : Soc} {v w : Values} {b : Bank} {r : Register} {start i j : ℕ}

lemma register?_of_hosts (h : soc.Finished) (hosts : soc.bus.Hosts soc.banks i j b r start) :
    soc.register? b.name r.name = some (r, soc.bus.registerAt start r) :=
  (register?_eq_some_iff h).2 ⟨i, j, b, r, start, hosts, rfl, rfl, rfl⟩

/-! ### The register at a position -/

lemma getElem?_banks_holding (h : soc.Finished) (v : Values) (hb : soc.banks[i]? = some b) :
    ∃ registers, (soc.holding v).banks[i]? = some registers ∧ soc.LiveAt v i b registers := by
  have hi := congrArg (Option.map fun (bank, placed) =>
    (bank.registers.zip placed.registers).map fun (r, p) =>
      { LiveRegister.ofPlaced r p with value := v (bank.name, r.name) }) (getElem?_placedBanks h i)
  rw [hb, ← List.getElem?_map] at hi
  refine ⟨_, hi, fun j => ?_⟩
  rw [List.getElem?_map, bankAt, getElem?_zip_registersFrom, Option.map_map]
  rfl

lemma getElem?_banks_holding_none (h : soc.Finished) (v : Values) (hb : soc.banks[i]? = none) :
    (soc.holding v).banks[i]? = none := by
  rw [holding, List.getElem?_map, getElem?_placedBanks h, hb]
  rfl

/-- Lists of live registers are those of a state where they agree at each position. -/
lemma eq_banks_holding (h : soc.Finished) {banks : List (List LiveRegister)}
    (hnone : ∀ i : ℕ, soc.banks[i]? = none → banks[i]? = none)
    (hsome : ∀ (i : ℕ) (b : Bank), soc.banks[i]? = some b →
      ∃ registers, banks[i]? = some registers ∧ soc.LiveAt v i b registers) :
    banks = (soc.holding v).banks := by
  refine List.ext_getElem? fun i => ?_
  cases hb : soc.banks[i]? with
  | none => rw [hnone i hb, getElem?_banks_holding_none h v hb]
  | some b =>
    obtain ⟨registers, hi, hj⟩ := hsome i b hb
    obtain ⟨registers', hi', hj'⟩ := getElem?_banks_holding h v hb
    rw [hi, hi', List.ext_getElem? fun j => (hj j).trans (hj' j).symm]

lemma ofSoc_eq_holding (h : soc.Finished) : BusModel.ofSoc soc = soc.holding soc.resets := by
  have hbanks : (BusModel.ofSoc soc).banks = (soc.holding soc.resets).banks := by
    have hofSoc (i : ℕ) := congrArg (Option.map fun (bank, placed) =>
      (bank.registers.zip placed.registers).map fun (r, p) => LiveRegister.ofPlaced r p)
      (getElem?_placedBanks h i)
    refine eq_banks_holding h (fun i hb => ?_) fun i b hb => ?_
    · rw [BusModel.ofSoc, List.getElem?_map, hofSoc, hb]
      rfl
    · have hi := hofSoc i
      rw [hb, ← List.getElem?_map] at hi
      refine ⟨_, hi, fun j => ?_⟩
      rw [List.getElem?_map, bankAt, getElem?_zip_registersFrom, Option.map_map]
      cases hr : b.registers[j]? with
      | none => rfl
      | some r =>
        rw [Option.map_some, Option.map_some, resets, register?_of_hosts h ⟨hb, hr, rfl⟩]
        rfl
  exact congrArg (fun banks => { soc.holding soc.resets with banks := banks }) hbanks

lemma restart_holding (h : soc.Finished) (v : Values) :
    (soc.holding v).restart = soc.holding (soc.restarted v) := by
  have hbanks : (soc.holding v).restart.banks = (soc.holding (soc.restarted v)).banks := by
    refine eq_banks_holding h (fun i hb => ?_) fun i b hb => ?_
    · rw [BusModel.restart, List.getElem?_map, getElem?_banks_holding_none h v hb]
      rfl
    · obtain ⟨registers, hi, hj⟩ := getElem?_banks_holding h v hb
      refine ⟨registers.map LiveRegister.restart, ?_, fun j => ?_⟩
      · rw [BusModel.restart, List.getElem?_map, hi]
        rfl
      · rw [List.getElem?_map, hj, Option.map_map]
        cases hr : b.registers[j]? with
        | none => rfl
        | some r =>
          have hfound := register?_of_hosts h ⟨hb, hr, rfl⟩
          cases hacc : r.access <;>
            simp [LiveRegister.restart, live, restarted, hfound, hacc]
  exact congrArg (fun banks => { soc.holding v with banks := banks }) hbanks

/-- Setting the value of one register changes the values at its name. -/
lemma setRegister_holding (h : soc.Finished) (v : Values)
    (hosts : soc.bus.Hosts soc.banks i j b r start) (x : UInt64) :
    (soc.holding v).setRegister i j (soc.bus.live r start x)
      = soc.holding (Function.update v (b.name, r.name) x) := by
  have hbanks : ((soc.holding v).setRegister i j (soc.bus.live r start x)).banks
      = (soc.holding (Function.update v (b.name, r.name) x)).banks := by
    refine eq_banks_holding h (fun i' hb => ?_) fun i' c hc => ?_
    · rw [BusModel.setRegister, List.getElem?_modify, getElem?_banks_holding_none h v hb]
      rfl
    · obtain ⟨registers, hi', hj'⟩ := getElem?_banks_holding h v hc
      -- The value at a position changes where the position is that of `r`.
      have hvalue (j' : ℕ) (s : Register) (hs : c.registers[j']? = some s)
          (hne : ¬ (i = i' ∧ j = j')) :
          Function.update v (b.name, r.name) x (c.name, s.name) = v (c.name, s.name) := by
        refine Function.update_of_ne (fun heq => hne ?_) _ _
        have hnames := Prod.mk.inj heq
        exact hosts.position_eq_of_names ⟨hc, hs, rfl⟩ h.fits hnames.1.symm hnames.2.symm
      by_cases hi : i = i'
      · obtain rfl := hi
        obtain rfl : b = c := Option.some.inj (hosts.bank.symm.trans hc)
        refine ⟨registers.set j (soc.bus.live r start x), ?_, fun j' => ?_⟩
        · rw [BusModel.setRegister, List.getElem?_modify, hi']
          simp
        · rw [List.getElem?_set]
          split
          · rename_i hj
            obtain rfl := hj
            have hlen : j < registers.length := by
              have := hj' j
              rw [hosts.register, Option.map_some] at this
              exact (List.getElem?_eq_some_iff.1 this).1
            rw [if_pos hlen, hosts.register, Option.map_some, Function.update_self,
              hosts.start_eq]
          · rename_i hj
            rw [hj']
            cases hs : b.registers[j']? with
            | none => rfl
            | some s => rw [Option.map_some, Option.map_some, hvalue j' s hs fun hp => hj hp.2]
      · refine ⟨registers, ?_, fun j' => ?_⟩
        · rw [BusModel.setRegister, List.getElem?_modify, hi']
          simp [hi]
        · rw [hj']
          cases hs : c.registers[j']? with
          | none => rfl
          | some s => rw [Option.map_some, Option.map_some, hvalue j' s hs fun hp => hi hp.1]
  exact congrArg (fun banks => { soc.holding v with banks := banks }) hbanks

end Soc

end CsrMap
