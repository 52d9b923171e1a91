import CsrMap.Proofs.Bus.Access
import Mathlib.Data.List.Induction

/-!
The bus model over a row of operations.

A finished system behaves as an array of words that are independent of each other. What a word
shows is told by the history alone: by the last write to its address since the last restart where
software drives its register, and by the last value from the hardware side where that drives it.
The proof carries `Follows`, the same statement about the values of the registers.
-/

namespace CsrMap

open BusGeometry

/-- One use of the bus model. -/
inductive BusOp where
  | read (address : UInt64)
  | write (address word : UInt64)
  | drive (bank register : String) (value : UInt64)
  | restart
  deriving DecidableEq, Repr

namespace BusModel

/-- The model after an operation, unless the operation fails. -/
def after? (m : BusModel) : BusOp → Option BusModel
  | .read address => (m.read address).toOption.map fun _ => m
  | .write address word => (m.write address word).toOption
  | .drive bank register value => (m.drive bank register value).toOption
  | .restart => some m.restart

def step (m : BusModel) (op : BusOp) : BusModel := (m.after? op).getD m

def run (m : BusModel) (ops : List BusOp) : BusModel := ops.foldl step m

end BusModel

namespace BusOp

/-- The last write to `address`, one operation later. -/
def written (address : UInt64) (last : Option UInt64) : BusOp → Option UInt64
  | .write a word => if a = address then some word else last
  | .restart => none
  | .read _ | .drive .. => last

/-- The last value from the hardware side for a register, one operation later. -/
def driven (bank register : String) (last : Option UInt64) : BusOp → Option UInt64
  | .drive b r value => if b = bank ∧ r = register then some value else last
  | .read _ | .write .. | .restart => last

end BusOp

/-- The word that was written last to `address` since the last restart. -/
def lastWritten (address : UInt64) (ops : List BusOp) : Option UInt64 :=
  ops.foldl (BusOp.written address) none

/-- The value that the hardware drove last into a register. -/
def lastDriven (bank register : String) (ops : List BusOp) : Option UInt64 :=
  ops.foldl (BusOp.driven bank register) none

/-- What a slice shows of the last word written to it, or else of the reset value. -/
def Slice.shown (s : Slice) (reset : UInt64) : Option UInt64 → UInt64
  | some word => word &&& s.mask
  | none => s.part reset

/-- The model shows what an array of words would show after `ops`. -/
structure BusModel.Remembers (soc : Soc) (ops : List BusOp) (m : BusModel) : Prop where
  storage : ∀ bank register r p, soc.register? bank register = some (r, p) →
    r.access = .storage → ∀ s ∈ p.words,
      m.read s.address = .ok (s.shown r.reset (lastWritten s.address ops))
  status : ∀ bank register r p, soc.register? bank register = some (r, p) →
    r.access = .status → (∀ x, ∃ m', m.drive bank register x = .ok m') ∧ ∀ s ∈ p.words,
      m.read s.address = .ok (s.part ((lastDriven bank register ops).getD r.reset))
  value : ∀ bank register r p, soc.register? bank register = some (r, p) →
    ∃ v words, m.value? bank register = some v ∧ v ≤ r.mask ∧
      p.words.mapM (fun s => m.read s.address) = .ok words ∧ gather p.words words = some v
  unchanged : ∀ op, m.after? op = none ∨ (∃ address, op = .read address) → m.step op = m
  inRange : (∀ address, m.read address ≠ .error .overflow) ∧
    (∀ address word, m.write address word ≠ .error .overflow) ∧
    ∀ bank register x, m.drive bank register x ≠ .error .overflow

variable {soc : Soc} {ops : List BusOp} {op : BusOp} {v : Values} {address a word : UInt64}
  {bank register : String}

lemma lastWritten_append : lastWritten address (ops ++ [op])
    = op.written address (lastWritten address ops) := by
  rw [lastWritten, List.foldl_append]
  rfl

lemma lastDriven_append : lastDriven bank register (ops ++ [op])
    = op.driven bank register (lastDriven bank register ops) := by
  rw [lastDriven, List.foldl_append]
  rfl

lemma BusModel.run_append (m : BusModel) (ops : List BusOp) (op : BusOp) :
    m.run (ops ++ [op]) = (m.run ops).step op := by
  rw [run, List.foldl_append]
  rfl

/-- The values of the registers are those that the history asks for. -/
structure Values.Follows (soc : Soc) (ops : List BusOp) (v : Values) : Prop where
  le_mask : ∀ i j b r start, soc.bus.Hosts soc.banks i j b r start → v (b.name, r.name) ≤ r.mask
  storage : ∀ i j b r start, soc.bus.Hosts soc.banks i j b r start → r.access = .storage →
    ∀ k < soc.bus.wordCount r.width, (soc.bus.tile r.width start k).part (v (b.name, r.name))
      = (soc.bus.tile r.width start k).shown r.reset
        (lastWritten (soc.bus.tile r.width start k).address ops)
  status : ∀ i j b r start, soc.bus.Hosts soc.banks i j b r start → r.access = .status →
    v (b.name, r.name) = ((lastDriven b.name r.name ops).map (· &&& r.mask)).getD r.reset

namespace Values.Follows

variable {later : List BusOp} {b : Bank} {r : Register} {i j k start : ℕ}

/-- Values follow a longer history where this remembers the same about each register. -/
lemma congr (hv : v.Follows soc ops)
    (hwritten : ∀ i j k b r start a, soc.bus.WordAt soc.banks a i j k b r start →
      r.access = .storage → lastWritten a later = lastWritten a ops)
    (hdriven : ∀ i j b r start, soc.bus.Hosts soc.banks i j b r start → r.access = .status →
      lastDriven b.name r.name later = lastDriven b.name r.name ops)
    (hfit : soc.bus.Fits soc.banks) : v.Follows soc later where
  le_mask := hv.le_mask
  storage i j b r start hosts hr k hk := by
    rw [hwritten _ _ _ _ _ _ _ (hosts.wordAt hfit hk) hr]
    exact hv.storage i j b r start hosts hr k hk
  status i j b r start hosts hr := by
    rw [hdriven i j b r start hosts hr]
    exact hv.status i j b r start hosts hr

/-- At first the registers are at their reset values. -/
lemma resets (h : soc.Finished) : soc.resets.Follows soc [] := by
  have hreset (i j : ℕ) (b : Bank) (r : Register) (start : ℕ)
      (hosts : soc.bus.Hosts soc.banks i j b r start) :
      soc.resets (b.name, r.name) = r.reset := by
    rw [Soc.resets, Soc.register?_of_hosts h hosts]
    rfl
  refine ⟨fun i j b r start hosts => ?_, fun i j b r start hosts _ k _ => ?_,
    fun i j b r start hosts _ => ?_⟩
  · rw [hreset i j b r start hosts]
    exact (hosts.wellFormed h.fits).reset_le
  · rw [hreset i j b r start hosts]
    rfl
  · rw [hreset i j b r start hosts]
    rfl

/-- A word stored in a storage register is what its address shows from then on. -/
lemma write (h : soc.Finished) (hv : v.Follows soc ops)
    (at' : soc.bus.WordAt soc.banks a i j k b r start) (hr : r.access = .storage) (word : UInt64) :
    Follows soc (ops ++ [.write a word]) (Function.update v (b.name, r.name)
      ((soc.bus.tile r.width start k).stored (v (b.name, r.name)) word)) := by
  have hwf := at'.toHosts.wellFormed h.fits
  have hin := inWord_of_wellFormed h.sound hwf at'.lt start
  have hother (i' j' k' : ℕ) (c : Bank) (s : Register) (next : ℕ) (a' : UInt64)
      (other : soc.bus.WordAt soc.banks a' i' j' k' c s next)
      (hne : ¬ (i = i' ∧ j = j' ∧ k = k')) :
      lastWritten a' (ops ++ [.write a word]) = lastWritten a' ops := by
    rw [lastWritten_append, BusOp.written, if_neg]
    rintro rfl
    exact hne (at'.position_eq other h.sound h.fits)
  refine ⟨fun i' j' c s next hosts => ?_, fun i' j' c s next hosts hs k' hk' => ?_,
    fun i' j' c s next hosts hs => ?_⟩
  · rcases at'.toHosts.same_or_names_ne hosts h.fits with ⟨rfl, rfl, rfl, rfl, rfl⟩ | hne
    · rw [Function.update_self]
      exact Slice.stored_le hin (shift_add_bits_le h.sound at'.lt)
        (hv.le_mask i j b r start hosts)
    · rw [Function.update_of_ne hne]
      exact hv.le_mask i' j' c s next hosts
  · rcases at'.toHosts.same_or_names_ne hosts h.fits with ⟨rfl, rfl, rfl, rfl, rfl⟩ | hne
    · rw [Function.update_self]
      by_cases hk : k = k'
      · obtain rfl := hk
        rw [Slice.part_stored_self hin, lastWritten_append, BusOp.written,
          if_pos at'.address_tile.symm]
        rfl
      · have hin' := inWord_of_wellFormed h.sound hwf hk' start
        rw [hother _ _ _ _ _ _ _ (hosts.wordAt h.fits hk') fun heq => hk heq.2.2,
          Slice.part_stored_of_apart hin hin' fun bit hc' hc =>
            hk (eq_of_carries h.sound.dataWidth_pos at'.lt hk' hc hc')]
        exact hv.storage i j b r start hosts hs k' hk'
    · rw [Function.update_of_ne hne, hother _ _ _ _ _ _ _ (hosts.wordAt h.fits hk')]
      · exact hv.storage i' j' c s next hosts hs k' hk'
      · rintro ⟨rfl, rfl, -⟩
        obtain ⟨rfl, rfl, -⟩ := at'.toHosts.unique hosts
        exact hne rfl
  · rcases at'.toHosts.same_or_names_ne hosts h.fits with ⟨rfl, rfl, rfl, rfl, rfl⟩ | hne
    · rw [hr] at hs
      cases hs
    · rw [Function.update_of_ne hne, lastDriven_append]
      exact hv.status i' j' c s next hosts hs

/-- A value driven into a status register is what it holds from then on. -/
lemma drive (h : soc.Finished) (hv : v.Follows soc ops)
    (hosts : soc.bus.Hosts soc.banks i j b r start) (hr : r.access = .status) (x : UInt64) :
    Follows soc (ops ++ [.drive b.name r.name x])
      (Function.update v (b.name, r.name) (x &&& r.mask)) := by
  refine ⟨fun i' j' c s next hosts' => ?_, fun i' j' c s next hosts' hs k' hk' => ?_,
    fun i' j' c s next hosts' hs => ?_⟩
  · rcases hosts.same_or_names_ne hosts' h.fits with ⟨-, -, rfl, rfl, -⟩ | hne
    · rw [Function.update_self]
      exact and_lowBits_le x r.width
    · rw [Function.update_of_ne hne]
      exact hv.le_mask i' j' c s next hosts'
  · rcases hosts.same_or_names_ne hosts' h.fits with ⟨-, -, rfl, rfl, -⟩ | hne
    · rw [hr] at hs
      cases hs
    · rw [Function.update_of_ne hne, lastWritten_append]
      exact hv.storage i' j' c s next hosts' hs k' hk'
  · rcases hosts.same_or_names_ne hosts' h.fits with ⟨-, -, rfl, rfl, -⟩ | hne
    · rw [Function.update_self, lastDriven_append, BusOp.driven, if_pos ⟨rfl, rfl⟩]
      rfl
    · rw [Function.update_of_ne hne, lastDriven_append, BusOp.driven, if_neg]
      · exact hv.status i' j' c s next hosts' hs
      · rintro ⟨hc, hs'⟩
        exact hne (by rw [hc, hs'])

lemma restart (h : soc.Finished) (hv : v.Follows soc ops) :
    Follows soc (ops ++ [.restart]) (soc.restarted v) := by
  have hstorage (i j : ℕ) (b : Bank) (r : Register) (start : ℕ)
      (hosts : soc.bus.Hosts soc.banks i j b r start) (hr : r.access = .storage) :
      soc.restarted v (b.name, r.name) = r.reset := by
    simp only [Soc.restarted, Soc.register?_of_hosts h hosts, hr]
  have hstatus (i j : ℕ) (b : Bank) (r : Register) (start : ℕ)
      (hosts : soc.bus.Hosts soc.banks i j b r start) (hr : r.access = .status) :
      soc.restarted v (b.name, r.name) = v (b.name, r.name) := by
    simp only [Soc.restarted, Soc.register?_of_hosts h hosts, hr]
  refine ⟨fun i j b r start hosts => ?_, fun i j b r start hosts hr k hk => ?_,
    fun i j b r start hosts hr => ?_⟩
  · cases hr : r.access with
    | storage =>
      rw [hstorage i j b r start hosts hr]
      exact (hosts.wellFormed h.fits).reset_le
    | status =>
      rw [hstatus i j b r start hosts hr]
      exact hv.le_mask i j b r start hosts
  · rw [hstorage i j b r start hosts hr, lastWritten_append]
    rfl
  · rw [hstatus i j b r start hosts hr, lastDriven_append]
    exact hv.status i j b r start hosts hr

/-- A write leads to values that follow it: to new ones at an address of a storage register, and
to the same ones elsewhere. -/
lemma step_write (h : soc.Finished) (hv : v.Follows soc ops) (address word : UInt64) :
    ∃ w : Values, (soc.holding v).step (.write address word) = soc.holding w ∧
      w.Follows soc (ops ++ [.write address word]) := by
  have hkept (hnot : ∀ i j k b r start, soc.bus.WordAt soc.banks address i j k b r start →
      r.access ≠ .storage) : v.Follows soc (ops ++ [.write address word]) := by
    refine hv.congr (fun i j k b r start a at' hr => ?_) (fun _ _ _ _ _ _ _ => ?_) h.fits
    · rw [lastWritten_append, BusOp.written, if_neg]
      rintro rfl
      exact hnot i j k b r start at' hr
    · rw [lastDriven_append]
      rfl
  by_cases hword : ∃ i j k b r start, soc.bus.WordAt soc.banks address i j k b r start
  · obtain ⟨i, j, k, b, r, start, at'⟩ := hword
    cases hr : r.access with
    | storage =>
      refine ⟨_, ?_, hv.write h at' hr word⟩
      rw [BusModel.step, BusModel.after?, Soc.write_of_storage h v at' hr]
      rfl
    | status =>
      refine ⟨v, ?_, hkept fun i' j' k' c s next other => ?_⟩
      · rw [BusModel.step, BusModel.after?, Soc.write_of_status h v at' hr]
        rfl
      · obtain ⟨rfl, rfl, -⟩ := at'.position_eq other h.sound h.fits
        obtain ⟨rfl, rfl, -⟩ := at'.toHosts.unique other.toHosts
        rw [hr]
        nofun
  · simp only [not_exists] at hword
    obtain ⟨fault, hwrite⟩ := Soc.write_of_not_wordAt h v hword word
    refine ⟨v, ?_, hkept fun i j k b r start at' => absurd at' (hword i j k b r start)⟩
    rw [BusModel.step, BusModel.after?, hwrite]
    rfl

/-- Driving leads to values that follow it: to new ones at a status register, and to the same ones
where it is refused. -/
lemma step_drive (h : soc.Finished) (hv : v.Follows soc ops) (bank register : String)
    (x : UInt64) : ∃ w : Values, (soc.holding v).step (.drive bank register x) = soc.holding w ∧
      w.Follows soc (ops ++ [.drive bank register x]) := by
  have hkept (hnot : ∀ i j b r start, soc.bus.Hosts soc.banks i j b r start →
      b.name = bank → r.name = register → r.access ≠ .status) :
      v.Follows soc (ops ++ [.drive bank register x]) := by
    refine hv.congr (fun _ _ _ _ _ _ _ _ _ => ?_) (fun i j b r start hosts hr => ?_) h.fits
    · rw [lastWritten_append]
      rfl
    · rw [lastDriven_append, BusOp.driven, if_neg]
      rintro ⟨hb, hname⟩
      exact hnot i j b r start hosts hb.symm hname.symm hr
  rcases Soc.find?_cases h v bank register with ⟨i, j, b, r, start, hosts, rfl, rfl⟩ | hfind
  · cases hr : r.access with
    | status =>
      refine ⟨_, ?_, hv.drive h hosts hr x⟩
      rw [BusModel.step, BusModel.after?, Soc.drive_of_status h v hosts hr]
      rfl
    | storage =>
      refine ⟨v, ?_, hkept fun i' j' c s next other hb hname => ?_⟩
      · rw [BusModel.step, BusModel.after?, Soc.drive_of_storage h v hosts hr]
        rfl
      · rcases hosts.same_or_names_ne other h.fits with ⟨-, -, rfl, rfl, -⟩ | hne
        · rw [hr]
          nofun
        · exact absurd (by rw [hb, hname]) hne
  · obtain ⟨cause, hfind⟩ := hfind
    refine ⟨v, ?_, hkept fun i j b r start hosts hb hname => ?_⟩
    · rw [BusModel.step, BusModel.after?, Soc.drive_of_find?_eq_error hfind]
      rfl
    · rw [← hb, ← hname, Soc.find?_of_hosts h v hosts] at hfind
      cases hfind

/-- Each operation leads to values that follow the history with the operation. -/
theorem step (h : soc.Finished) (hv : v.Follows soc ops) (op : BusOp) :
    ∃ w : Values, (soc.holding v).step op = soc.holding w ∧ w.Follows soc (ops ++ [op]) := by
  cases op with
  | read address =>
    refine ⟨v, ?_, hv.congr (fun _ _ _ _ _ _ _ _ _ => ?_) (fun _ _ _ _ _ _ _ => ?_) h.fits⟩
    · rw [BusModel.step, BusModel.after?]
      cases (soc.holding v).read address <;> rfl
    · rw [lastWritten_append]
      rfl
    · rw [lastDriven_append]
      rfl
  | write address word => exact hv.step_write h address word
  | drive bank register x => exact hv.step_drive h bank register x
  | restart => exact ⟨_, Soc.restart_holding h v, hv.restart h⟩

end Values.Follows

/-- After any row of operations the registers hold values that follow the row. -/
theorem exists_follows (h : soc.Finished) (ops : List BusOp) :
    ∃ v : Values, (BusModel.ofSoc soc).run ops = soc.holding v ∧ v.Follows soc ops := by
  induction ops using List.reverseRecOn with
  | nil => exact ⟨soc.resets, Soc.ofSoc_eq_holding h, Values.Follows.resets h⟩
  | append_singleton ops op ih =>
    obtain ⟨v, hrun, hv⟩ := ih
    obtain ⟨w, hstep, hw⟩ := hv.step h op
    exact ⟨w, by rw [BusModel.run_append, hrun, hstep], hw⟩

namespace Soc

variable {b : Bank} {r : Register} {i j start : ℕ}

/-- The words of a register show the parts of its value. -/
lemma read_of_mem_tiles (h : soc.Finished) (v : Values)
    (hosts : soc.bus.Hosts soc.banks i j b r start) {s : Slice}
    (hs : s ∈ soc.bus.tiles r.width start) :
    (soc.holding v).read s.address = .ok (s.part (v (b.name, r.name))) := by
  obtain ⟨k, hk, rfl⟩ := mem_tiles.1 hs
  exact read_of_wordAt h v (hosts.wordAt h.fits hk)

/-- Gathering what the words of a register show gives its value. -/
lemma gather_reads (h : soc.Finished) (v : Values)
    (hosts : soc.bus.Hosts soc.banks i j b r start) (hle : v (b.name, r.name) ≤ r.mask) :
    ∃ words, (soc.bus.tiles r.width start).mapM (fun s => (soc.holding v).read s.address)
        = .ok words ∧ gather (soc.bus.tiles r.width start) words = some (v (b.name, r.name)) := by
  have hwf := hosts.wellFormed h.fits
  refine ⟨_, mapM_eq_pure fun s hs => read_of_mem_tiles h v hosts hs, ?_⟩
  rw [gather_part h.sound.dataWidth_pos hwf.width_le, and_lowBits_of_le hle]

lemma read_ne_overflow (h : soc.Finished) (v : Values) (address : UInt64) :
    (soc.holding v).read address ≠ .error .overflow := by
  by_cases hword : ∃ i j k b r start, soc.bus.WordAt soc.banks address i j k b r start
  · obtain ⟨i, j, k, b, r, start, at'⟩ := hword
    rw [read_of_wordAt h v at']
    nofun
  · simp only [not_exists] at hword
    obtain ⟨fault, hread⟩ := read_of_not_wordAt h v hword
    rw [hread]
    nofun

lemma write_ne_overflow (h : soc.Finished) (v : Values) (address word : UInt64) :
    (soc.holding v).write address word ≠ .error .overflow := by
  by_cases hword : ∃ i j k b r start, soc.bus.WordAt soc.banks address i j k b r start
  · obtain ⟨i, j, k, b, r, start, at'⟩ := hword
    cases hr : r.access with
    | storage =>
      rw [write_of_storage h v at' hr]
      nofun
    | status =>
      rw [write_of_status h v at' hr]
      nofun
  · simp only [not_exists] at hword
    obtain ⟨fault, hwrite⟩ := write_of_not_wordAt h v hword word
    rw [hwrite]
    nofun

lemma drive_ne_overflow (h : soc.Finished) (v : Values) (bank register : String) (x : UInt64) :
    (soc.holding v).drive bank register x ≠ .error .overflow := by
  rcases find?_cases h v bank register with ⟨i, j, b, r, start, hosts, rfl, rfl⟩ | hfind
  · cases hr : r.access with
    | storage =>
      rw [drive_of_storage h v hosts hr]
      nofun
    | status =>
      rw [drive_of_status h v hosts hr]
      nofun
  · obtain ⟨cause, hfind⟩ := hfind
    rw [drive_of_find?_eq_error hfind]
    nofun

lemma remembers_of_follows (h : soc.Finished) {v : Values} (hv : v.Follows soc ops) :
    (soc.holding v).Remembers soc ops := by
  refine
    { storage := fun bank register r p hfound hr s hs => ?storage
      status := fun bank register r p hfound hr => ⟨fun x => ?drives, fun s hs => ?status⟩
      value := fun bank register r p hfound => ?value
      unchanged := fun op hop => ?unchanged
      inRange := ⟨read_ne_overflow h v, write_ne_overflow h v, drive_ne_overflow h v⟩ }
  case unchanged =>
    rcases hop with hfails | ⟨address, rfl⟩
    · rw [BusModel.step, hfails]
      rfl
    · rw [BusModel.step, BusModel.after?]
      cases (soc.holding v).read address <;> rfl
  all_goals
    obtain ⟨i, j, b, r, start, hosts, rfl, rfl, heq⟩ := (register?_eq_some_iff h).1 hfound
    cases heq
  case storage =>
    rw [read_of_mem_tiles h v hosts hs]
    obtain ⟨k, hk, rfl⟩ := mem_tiles.1 hs
    rw [hv.storage i j b r start hosts hr k hk]
  case drives => exact ⟨_, drive_of_status h v hosts hr x⟩
  case status =>
    rw [read_of_mem_tiles h v hosts hs, hv.status i j b r start hosts hr]
    obtain ⟨k, hk, rfl⟩ := mem_tiles.1 hs
    cases lastDriven b.name r.name ops with
    | none => rfl
    | some x =>
      exact congrArg Except.ok (part_and_register_mask h.sound (hosts.wellFormed h.fits) hk start x)
  case value =>
    have hle := hv.le_mask i j b r start hosts
    obtain ⟨words, hwords, hgather⟩ := gather_reads h v hosts hle
    exact ⟨_, words, value?_of_hosts h v hosts, hle, hwords, hgather⟩

/-- **The bus model is an array of words**: after any row of operations each word of a finished
system shows what was written last or driven last, and nothing else touches it. -/
theorem remembers_run {d : Declarations} {bus : BusGeometry} (h : d.complete bus = .ok soc)
    (ops : List BusOp) : ((BusModel.ofSoc soc).run ops).Remembers soc ops := by
  have hfinished := Declarations.finished_of_complete h
  obtain ⟨v, hrun, hv⟩ := exists_follows hfinished ops
  rw [hrun]
  exact remembers_of_follows hfinished hv

/-- A storage register of two words and a status register, written, driven and restarted. -/
theorem remembers_run_two_registers : ∃ soc : Soc,
    ({ banks := [⟨"a", [⟨"r", 40, .storage, [], 7, none⟩, ⟨"s", 8, .status, [], 1, none⟩]⟩] }
      : Declarations).complete {} = .ok soc ∧
    ((BusModel.ofSoc soc).run [.restart, .write 4 9, .drive "a" "s" 3]).Remembers soc
      [.restart, .write 4 9, .drive "a" "s" 3] := by
  have h : ({ banks := [⟨"a", [⟨"r", 40, .storage, [], 7, none⟩,
      ⟨"s", 8, .status, [], 1, none⟩]⟩] } : Declarations).complete {}
      = .ok ⟨{}, [⟨"a", [⟨"r", 40, .storage, [], 7, none⟩, ⟨"s", 8, .status, [], 1, none⟩]⟩],
        ⟨0, 12, [⟨"a", 0, 12, [⟨"r", .storage, 40, 0, [⟨0, 32, 8⟩, ⟨4, 0, 32⟩]⟩,
          ⟨"s", .status, 8, 8, [⟨8, 0, 8⟩]⟩]⟩]⟩, {}, [], []⟩ := by
    decide +kernel
  exact ⟨_, h, remembers_run h _⟩

end Soc

end CsrMap
