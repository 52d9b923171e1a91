import CsrMap.Proofs.Bus.Decode

/-!
What each operation of the bus model does to the values of a finished system.

A read gives the part of a value that a word carries, a write stores that part in one storage
register, and driving sets one status register. Anything else is refused and changes nothing;
no operation leaves the range of word arithmetic.
-/

namespace CsrMap

open BusGeometry

namespace BusGeometry

variable {bus : BusGeometry} {r : Register} {start k : ℕ} {v w : UInt64}

lemma inWord_of_wellFormed (hbus : bus.Sound) (hr : r.WellFormed) (hk : k < bus.wordCount r.width)
    (start : ℕ) : (bus.tile r.width start k).InWord :=
  inWord_tile hbus.dataWidth_pos hr.width_le hk

/-- The bits of a tile lie inside its register. -/
lemma shift_add_bits_le (hbus : bus.Sound) (hk : k < bus.wordCount r.width) :
    (bus.tile r.width start k).shift.toNat + (bus.tile r.width start k).bits.toNat
      ≤ r.width.toNat := by
  have hlt := lane_mul_lt hbus.dataWidth_pos hk
  rw [toNat_shift_tile hbus.dataWidth_pos hk, toNat_bits_tile]
  omega

/-- A word of the bus has all bits that a tile carries. -/
lemma and_dataMask_and_mask (bus : BusGeometry) (width : UInt32) (start k : ℕ) (w : UInt64) :
    w &&& lowBits bus.dataWidth &&& (bus.tile width start k).mask
      = w &&& (bus.tile width start k).mask := by
  have hle : (bus.tile width start k).bits.toNat ≤ bus.dataWidth.toNat := by
    rw [toNat_bits_tile]
    exact min_le_left _ _
  refine UInt64.eq_of_bit_eq fun i hi => ?_
  rw [UInt64.bit_and, UInt64.bit_and, UInt64.bit_and, Slice.mask, bit_lowBits, bit_lowBits]
  by_cases hlt : i < (bus.tile width start k).bits.toNat
  · simp [hlt, hi, hlt.trans_le hle]
  · simp [hlt]

/-- A tile does not see the bits above the width of its register. -/
lemma part_and_register_mask (hbus : bus.Sound) (hr : r.WellFormed)
    (hk : k < bus.wordCount r.width) (start : ℕ) (v : UInt64) :
    (bus.tile r.width start k).part (v &&& r.mask) = (bus.tile r.width start k).part v := by
  rw [Slice.part_eq_part_iff (inWord_of_wellFormed hbus hr hk start)]
  intro i hc
  have hlt := ((carries_tile_iff hbus.dataWidth_pos hk).1 hc).2
  have h64 := hr.width_le
  rw [UInt64.bit_and, Register.mask, bit_lowBits]
  simp [hlt, show i < 64 by omega]

lemma store_live (hbus : bus.Sound) (hr : r.WellFormed) (hk : k < bus.wordCount r.width)
    (start : ℕ) (v w : UInt64) :
    (bus.live r start v).store (lowBits bus.dataWidth) (bus.tile r.width start k) w
      = some (bus.live r start ((bus.tile r.width start k).stored v w)) := by
  have hin := inWord_of_wellFormed hbus hr hk start
  have hplaced : (w &&& (bus.tile r.width start k).mask)
      <<< (bus.tile r.width start k).shift.toUInt64
        &&& (bus.tile r.width start k).mask <<< (bus.tile r.width start k).shift.toUInt64
      = (w &&& (bus.tile r.width start k).mask)
        <<< (bus.tile r.width start k).shift.toUInt64 := by
    refine UInt64.eq_of_bit_eq fun i _ => ?_
    rw [UInt64.bit_and, Slice.bit_place hin, Slice.bit_mask_shiftLeft hin]
    cases decide ((bus.tile r.width start k).Carries i) <;> simp
  simp only [LiveRegister.store, live, UInt64.shiftLeft?_eq_some hin.shift_lt,
    Option.bind_eq_bind, Option.bind_some, and_dataMask_and_mask, hplaced]
  rfl

lemma foldlM_add?_eq_some (slices : List Slice) (total : UInt32)
    (hlt : total.toNat + (slices.map (·.bits.toNat)).sum < 2 ^ 32) :
    slices.foldlM (fun total word => total.add? word.bits) total
      = some (total.toNat + (slices.map (·.bits.toNat)).sum).toUInt32 := by
  induction slices generalizing total with
  | nil => exact congrArg some UInt32.ofNat_toNat.symm
  | cons s slices ih =>
    rw [List.map_cons, List.sum_cons, ← Nat.add_assoc] at hlt ⊢
    have hnext : (total.toNat + s.bits.toNat).toUInt32.toNat = total.toNat + s.bits.toNat :=
      UInt32.toNat_ofNat_of_lt' (by simp only [UInt32.size]; omega)
    have hadd : total.add? s.bits = some (total.toNat + s.bits.toNat).toUInt32 :=
      UInt32.add?_eq_some_iff.2 hnext
    rw [List.foldlM_cons, hadd, Option.bind_eq_bind, Option.bind_some,
      ih _ (by rw [hnext]; exact hlt), hnext]

/-- The words of a register carry as many bits together as it has. -/
lemma width_live (hbus : bus.Sound) (r : Register) (start : ℕ) (v : UInt64) :
    (bus.live r start v).width = some r.width := by
  have hsum := sum_bits_tiles hbus.dataWidth_pos r.width start
  have hlt := r.width.toNat_lt
  have hfold := foldlM_add?_eq_some (bus.tiles r.width start) 0
    (by rw [hsum, UInt32.toNat_zero, Nat.zero_add]; exact hlt)
  rw [hsum, UInt32.toNat_zero, Nat.zero_add] at hfold
  exact hfold.trans (congrArg some UInt32.ofNat_toNat)

end BusGeometry

namespace BusModel

variable {m : BusModel} {address : UInt64} {fault : BusFault}

lemma read_of_locate_eq_refuse
    (h : m.locate address .loadMisaligned .loadAccess = refuse fault) :
    m.read address = refuse fault := by
  rw [read, h, refuse_bind]

lemma write_of_locate_eq_refuse
    (h : m.locate address .storeMisaligned .storeAccess = refuse fault) (word : UInt64) :
    m.write address word = refuse fault := by
  simp only [write, writeLogged, Logged.outcome_bind, liftM, Logged.outcome_monadLift, h,
    refuse_bind]

end BusModel

/-- The register of these names. -/
def Declarations.named (d : Declarations) (bank register : String) : Except ConfigError Register :=
  match d.bank? bank with
  | none => .error (.unknownBank bank)
  | some (_, b) =>
    match b.register? register with
    | none => .error (.unknownRegister bank register)
    | some r => .ok r

namespace Soc

variable {soc : Soc} {v : Values} {b : Bank} {r : Register} {start i j k : ℕ}
  {address : UInt64} {bank register : String}

/-! ### Reading and writing words -/

theorem read_of_wordAt (h : soc.Finished) (v : Values)
    (at' : soc.bus.WordAt soc.banks address i j k b r start) :
    (soc.holding v).read address
      = .ok ((soc.bus.tile r.width start k).part (v (b.name, r.name))) := by
  have hin := inWord_of_wellFormed h.sound (at'.toHosts.wellFormed h.fits) at'.lt start
  rw [BusModel.read, locate_of_wordAt h v at', Outcome.ok_bind]
  simp only [live, Slice.extract_eq_some hin]
  rfl

theorem read_of_not_wordAt (h : soc.Finished) (v : Values)
    (hnot : ∀ i j k b r start, ¬ soc.bus.WordAt soc.banks address i j k b r start) :
    ∃ fault, (soc.holding v).read address = refuse fault := by
  obtain ⟨fault, hlocate⟩ := locate_of_not_wordAt h v hnot .loadMisaligned .loadAccess
  exact ⟨fault, BusModel.read_of_locate_eq_refuse hlocate⟩

/-- A write to a storage register stores the bits of one tile. -/
theorem write_of_storage (h : soc.Finished) (v : Values)
    (at' : soc.bus.WordAt soc.banks address i j k b r start) (hr : r.access = .storage)
    (word : UInt64) : (soc.holding v).write address word
      = .ok (soc.holding (Function.update v (b.name, r.name)
          ((soc.bus.tile r.width start k).stored (v (b.name, r.name)) word))) := by
  have hwf := at'.toHosts.wellFormed h.fits
  have hwritable : (soc.bus.live r start (v (b.name, r.name))).access.writable = true := by
    rw [live, hr]
    rfl
  have hstore := store_live h.sound hwf at'.lt start (v (b.name, r.name)) word
  simp only [BusModel.write, BusModel.writeLogged, Logged.outcome_bind, liftM,
    Logged.outcome_monadLift, locate_of_wordAt h v at', Outcome.ok_bind, hwritable, if_true]
  rw [show (soc.holding v).dataMask = lowBits soc.bus.dataWidth from rfl, hstore]
  simp only [monadLift_some, Outcome.ok_bind, Logged.outcome_pure]
  rw [setRegister_holding h v at'.toHosts]

/-- A write to a status register is dropped. -/
theorem write_of_status (h : soc.Finished) (v : Values)
    (at' : soc.bus.WordAt soc.banks address i j k b r start) (hr : r.access = .status)
    (word : UInt64) : (soc.holding v).write address word = .ok (soc.holding v) := by
  have hwritable : (soc.bus.live r start (v (b.name, r.name))).access.writable = false := by
    rw [live, hr]
    rfl
  simp only [BusModel.write, BusModel.writeLogged, Logged.outcome_bind, liftM,
    Logged.outcome_monadLift, locate_of_wordAt h v at', Outcome.ok_bind, hwritable,
    Bool.false_eq_true, if_false, Logged.outcome_report, Logged.outcome_pure]

theorem write_of_not_wordAt (h : soc.Finished) (v : Values)
    (hnot : ∀ i j k b r start, ¬ soc.bus.WordAt soc.banks address i j k b r start)
    (word : UInt64) : ∃ fault, (soc.holding v).write address word = refuse fault := by
  obtain ⟨fault, hlocate⟩ := locate_of_not_wordAt h v hnot .storeMisaligned .storeAccess
  exact ⟨fault, BusModel.write_of_locate_eq_refuse hlocate word⟩

/-! ### Access by names -/

lemma bankIndex?_holding (h : soc.Finished) (v : Values) (bank : String) :
    (soc.holding v).bankIndex? bank = soc.banks.findIdx? (·.name == bank) := by
  have hnames : (soc.holding v).map.banks.map (·.name) = soc.banks.map (·.name) := by
    rw [holding, h.map, layout]
    generalize soc.bus.base.toNat = start
    generalize soc.banks = banks
    induction banks generalizing start with
    | nil => rfl
    | cons b banks ih =>
      rw [banksFrom, List.map_cons, List.map_cons, ih]
      rfl
  exact findIdx?_eq_of_map_eq hnames bank

lemma LiveAt.map_name {registers : List LiveRegister} (hlive : soc.LiveAt v i b registers) :
    registers.map (·.name) = b.registers.map (·.name) := by
  refine List.ext_getElem? fun j => ?_
  rw [List.getElem?_map, List.getElem?_map, hlive, Option.map_map]
  rfl

lemma find?_of_hosts (h : soc.Finished) (v : Values)
    (hosts : soc.bus.Hosts soc.banks i j b r start) :
    (soc.holding v).find? b.name r.name
      = .ok (i, j, soc.bus.live r start (v (b.name, r.name))) := by
  obtain ⟨registers, hi, hlive⟩ := getElem?_banks_holding h v hosts.bank
  have hbank : (soc.holding v).bankIndex? b.name = some i := by
    rw [bankIndex?_holding h]
    exact findIdx?_eq_some_of_nodup h.fits.names hosts.bank
  have hj : registers[j]? = some (soc.bus.live r start (v (b.name, r.name))) := by
    rw [hlive, hosts.register, Option.map_some, hosts.start_eq]
  have hindex : registers.findIdx? (·.name == r.name) = some j :=
    findIdx?_eq_some_of_nodup
      (by rw [hlive.map_name]; exact (h.fits.wellFormed b hosts.mem_bank).registerNames) hj
  simp only [BusModel.find?, hbank, hi, Option.getD_some, hindex, hj]

/-- Names lead to a register at the same position in the declarations and in each state, or to the
same refusal. -/
lemma named_cases (h : soc.Finished) (bank register : String) :
    (∃ i j b r start, soc.bus.Hosts soc.banks i j b r start ∧ b.name = bank ∧
      r.name = register ∧ soc.declarations.named bank register = .ok r) ∨
    ∃ cause, soc.declarations.named bank register = .error cause ∧
      ∀ v, (soc.holding v).find? bank register = .error cause := by
  cases hindex : soc.banks.findIdx? (·.name == bank) with
  | none =>
    refine .inr ⟨.unknownBank bank, ?_, fun v => ?_⟩
    · simp only [Declarations.named, Declarations.bank?, declarations, hindex, Option.bind_none]
    · simp only [BusModel.find?, bankIndex?_holding h v, hindex]
  | some i =>
    obtain ⟨hi, hbname, -⟩ := List.findIdx?_eq_some_iff_getElem.1 hindex
    have hb := List.getElem?_eq_getElem hi
    have hbank : soc.declarations.bank? bank = some (i, soc.banks[i]) := by
      simp only [Declarations.bank?, declarations, hindex, hb, Option.bind_some, Option.map_some]
    cases hposition : soc.banks[i].registers.findIdx? (·.name == register) with
    | none =>
      have hmissing : soc.banks[i].register? register = none := by
        rw [Bank.register?, List.find?_eq_none]
        simpa using hposition
      refine .inr ⟨.unknownRegister bank register, ?_, fun v => ?_⟩
      · simp only [Declarations.named, hbank, hmissing]
      · obtain ⟨registers, hregisters, hlive⟩ := getElem?_banks_holding h v hb
        simp only [BusModel.find?, bankIndex?_holding h v, hindex, hregisters, Option.getD_some,
          findIdx?_eq_of_map_eq hlive.map_name, hposition]
    | some j =>
      obtain ⟨hj, hrname, -⟩ := List.findIdx?_eq_some_iff_getElem.1 hposition
      have hr := List.getElem?_eq_getElem hj
      have hfound := find?_eq_some_of_nodup
        (h.fits.wellFormed _ (List.getElem_mem hi)).registerNames hr
      rw [beq_iff_eq.1 hrname] at hfound
      exact .inl ⟨i, j, _, _, _, ⟨hb, hr, rfl⟩, beq_iff_eq.1 hbname, beq_iff_eq.1 hrname,
        by simp only [Declarations.named, hbank, Bank.register?, hfound]⟩

lemma find?_cases (h : soc.Finished) (v : Values) (bank register : String) :
    (∃ i j b r start, soc.bus.Hosts soc.banks i j b r start ∧ b.name = bank ∧ r.name = register) ∨
      ∃ cause, (soc.holding v).find? bank register = .error cause := by
  rcases named_cases h bank register with
    ⟨i, j, b, r, start, hosts, hb, hr, -⟩ | ⟨cause, -, hfind⟩
  · exact .inl ⟨i, j, b, r, start, hosts, hb, hr⟩
  · exact .inr ⟨cause, hfind v⟩

theorem value?_of_hosts (h : soc.Finished) (v : Values)
    (hosts : soc.bus.Hosts soc.banks i j b r start) :
    (soc.holding v).value? b.name r.name = some (v (b.name, r.name)) := by
  rw [BusModel.value?, find?_of_hosts h v hosts]
  rfl

/-- A change of one register leaves what is seen of the others. -/
lemma value?_holding_update (h : soc.Finished) (v : Values) {bank register : String}
    (hne : (bank, register) ≠ (b.name, r.name)) (x : UInt64) :
    (soc.holding (Function.update v (b.name, r.name) x)).value? bank register
      = (soc.holding v).value? bank register := by
  rcases find?_cases h v bank register with ⟨i, j, c, s, next, hosts, rfl, rfl⟩ | ⟨cause, hfind⟩
  · rw [value?_of_hosts h _ hosts, value?_of_hosts h _ hosts, Function.update_of_ne hne]
  · rcases find?_cases h (Function.update v (b.name, r.name) x) bank register with
      ⟨i, j, c, s, next, hosts, rfl, rfl⟩ | ⟨cause', hfind'⟩
    · rw [value?_of_hosts h _ hosts, value?_of_hosts h _ hosts, Function.update_of_ne hne]
    · rw [BusModel.value?, BusModel.value?, hfind, hfind']
      rfl

/-- Driving sets a status register, without the bits above its width. -/
theorem drive_of_status (h : soc.Finished) (v : Values)
    (hosts : soc.bus.Hosts soc.banks i j b r start) (hr : r.access = .status) (x : UInt64) :
    (soc.holding v).drive b.name r.name x
      = .ok (soc.holding (Function.update v (b.name, r.name) (x &&& r.mask))) := by
  have hwidth := width_live h.sound r start (v (b.name, r.name))
  have hset := setRegister_holding h v hosts (x &&& r.mask)
  have hstatus : ¬ (soc.bus.live r start (v (b.name, r.name))).access ≠ .status :=
    not_not.2 hr
  simp only [BusModel.drive, find?_of_hosts h v hosts, Outcome.ofExcept_ok, Outcome.ok_bind,
    hstatus, if_false, hwidth, liftM, monadLift_some]
  exact congrArg Except.ok hset

lemma drive_of_storage (h : soc.Finished) (v : Values)
    (hosts : soc.bus.Hosts soc.banks i j b r start) (hr : r.access = .storage) (x : UInt64) :
    (soc.holding v).drive b.name r.name x = refuse (.notStatus b.name r.name) := by
  have hstorage : (soc.bus.live r start (v (b.name, r.name))).access ≠ .status := by
    simp [live, hr]
  simp only [BusModel.drive, find?_of_hosts h v hosts, Outcome.ofExcept_ok, Outcome.ok_bind,
    hstorage, ne_eq, not_false_eq_true, if_true, refuse_bind]

lemma drive_of_find?_eq_error {cause : ConfigError}
    (hfind : (soc.holding v).find? bank register = .error cause) (x : UInt64) :
    (soc.holding v).drive bank register x = refuse cause := by
  rw [BusModel.drive, hfind, Outcome.ofExcept_error, refuse_bind]

end Soc

end CsrMap
