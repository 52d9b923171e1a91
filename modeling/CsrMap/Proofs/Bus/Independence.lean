import CsrMap.Proofs.Bus.WordByWord
import Mathlib.Data.List.Perm.Basic

/-!
Registers used as a whole, whatever the bus that carries their words.

The declarations alone tell what the registers of a system answer: `Declarations.use` reads, writes,
drives and restarts them by their names, without a word or an address. The bus model of a system
does the same when a register is written by all its words, in any order, and read by gathering them.
So two systems of the same declarations cannot be told apart through their registers.
-/

namespace CsrMap

open BusGeometry

/-! ### Machines that answer -/

/-- The answers to a row of inputs, each with the state after it; a failure leaves the state. -/
def trace {σ ι ε α : Type} (step : σ → ι → Outcome ε (α × σ)) :
    σ → List ι → List (Outcome ε α × σ)
  | _, [] => []
  | s, input :: inputs =>
    match step s input with
    | .ok (answer, next) => (.ok answer, next) :: trace step next inputs
    | .error failure => (.error failure, s) :: trace step s inputs

/-- A machine that does step by step what another one does, on the images of its states, answers
as the other one does. -/
lemma trace_map {σ τ ι κ ε α : Type} {step : σ → ι → Outcome ε (α × σ)}
    {spec : τ → κ → Outcome ε (α × τ)} {f : τ → σ} {g : ι → κ} {inv : τ → Prop}
    (hstep : ∀ t, inv t → ∀ input, step (f t) input = Prod.map id f <$> spec t (g input))
    (hinv : ∀ t, inv t → ∀ input answer next, spec t input = .ok (answer, next) → inv next)
    {t : τ} (ht : inv t) (inputs : List ι) :
    trace step (f t) inputs = (trace spec t (inputs.map g)).map (Prod.map id f) := by
  induction inputs generalizing t with
  | nil => rfl
  | cons input inputs ih =>
    rw [trace, hstep t ht, List.map_cons, trace]
    cases hspec : spec t (g input) with
    | error failure => exact congrArg _ (ih ht)
    | ok pair =>
      obtain ⟨answer, next⟩ := pair
      exact congrArg _ (ih (hinv t ht _ _ _ hspec))

/-! ### Uses of a register -/

/-- One use of a register as a whole, by its names, or a restart. -/
inductive RegisterOp where
  | read (bank register : String)
  | write (bank register : String) (value : UInt64)
  | drive (bank register : String) (value : UInt64)
  | restart
  deriving DecidableEq, Repr

/-- Why a use of a register fails. -/
inductive RegisterFault where
  /-- There is no register of these names to read or write. -/
  | unknown
  | bus (fault : BusFault)
  | config (cause : ConfigError)
  deriving DecidableEq, Repr

/-- An order in which the words of a register are written to their addresses. -/
structure WordOrder where
  arrange : List (UInt64 × UInt64) → List (UInt64 × UInt64)
  perm : ∀ writes, (arrange writes).Perm writes

namespace WordOrder

def ascending : WordOrder := ⟨id, fun _ => .refl _⟩

def descending : WordOrder := ⟨List.reverse, List.reverse_perm⟩

end WordOrder

/-- The same outcome with its cause as one of another kind. -/
def Outcome.mapCause {ε ε' α : Type} (f : ε → ε') : Outcome ε α → Outcome ε' α
  | .ok a => .ok a
  | .error .overflow => .error .overflow
  | .error (.refused cause) => refuse (f cause)

namespace BusModel

/-- The value that the words of a register carry. -/
def readRegister (m : BusModel) (p : PlacedRegister) : Outcome BusFault UInt64 := do
  let words ← p.words.mapM fun s => m.read s.address
  p.gather words

/-- The state after the words that carry `value` are written, each once. -/
def writeRegister (m : BusModel) (p : PlacedRegister) (order : WordOrder) (value : UInt64) :
    Outcome BusFault BusModel := do
  let words ← p.scatter value
  m.writeAll (order.arrange ((p.words.map (·.address)).zip words))

/-- One use of a register through the words of a system; only a read has an answer of its own. -/
def use (soc : Soc) (m : BusModel) :
    RegisterOp × WordOrder → Outcome RegisterFault (Option UInt64 × BusModel)
  | (.read bank register, _) =>
    match soc.register? bank register with
    | none => refuse .unknown
    | some (_, p) => (fun value => (some value, m)) <$> (m.readRegister p).mapCause .bus
  | (.write bank register value, order) =>
    match soc.register? bank register with
    | none => refuse .unknown
    | some (_, p) => (none, ·) <$> (m.writeRegister p order value).mapCause .bus
  | (.drive bank register value, _) => (none, ·) <$> (m.drive bank register value).mapCause .config
  | (.restart, _) => pure (none, m.restart)

end BusModel

namespace Declarations

/-- The values that the registers have at first. -/
def resets (d : Declarations) : Values :=
  fun (bank, register) =>
    match d.named bank register with
    | .ok r => r.reset
    | .error _ => 0

/-- The values after a restart. -/
def restarted (d : Declarations) (v : Values) : Values :=
  fun (bank, register) =>
    match d.named bank register with
    | .ok r => if r.access.writable then r.reset else v (bank, register)
    | .error _ => v (bank, register)

/-- One use of a register by its declaration alone. -/
def use (d : Declarations) (v : Values) :
    RegisterOp → Outcome RegisterFault (Option UInt64 × Values)
  | .read bank register =>
    match d.named bank register with
    | .ok _ => pure (some (v (bank, register)), v)
    | .error _ => refuse .unknown
  | .write bank register value =>
    match d.named bank register with
    | .ok r =>
      pure (none, if r.access.writable then
        Function.update v (bank, register) (value &&& r.mask) else v)
    | .error _ => refuse .unknown
  | .drive bank register value =>
    match d.named bank register with
    | .ok r =>
      if r.access.writable then refuse (.config (.notStatus bank register))
      else pure (none, Function.update v (bank, register) (value &&& r.mask))
    | .error cause => refuse (.config cause)
  | .restart => pure (none, d.restarted v)

/-- No register holds more than it has bits for. -/
def Fits (d : Declarations) (v : Values) : Prop :=
  ∀ bank register r, d.named bank register = .ok r → v (bank, register) ≤ r.mask

variable {d : Declarations} {v w : Values} {bank register : String} {r : Register}
  {op : RegisterOp} {answer : Option UInt64}

lemma wellFormed_of_named (hd : ∀ b ∈ d.banks, b.WellFormed) (h : d.named bank register = .ok r) :
    r.WellFormed := by
  unfold named at h
  split at h
  · cases h
  · rename_i index b hbank
    split at h
    · cases h
    · rename_i s hs
      obtain rfl := Except.ok.inj h
      obtain ⟨i, -, hi⟩ := Option.bind_eq_some_iff.1 hbank
      obtain ⟨c, hc, heq⟩ := Option.map_eq_some_iff.1 hi
      cases heq
      exact (hd _ (List.mem_of_getElem? hc)).registers _ (List.mem_of_find?_eq_some hs)

lemma fits_resets (hd : ∀ b ∈ d.banks, b.WellFormed) : d.Fits d.resets := by
  intro bank register r h
  simp only [resets, h]
  exact (wellFormed_of_named hd h).reset_le

lemma Fits.update (hv : d.Fits v) (h : d.named bank register = .ok r) (value : UInt64) :
    d.Fits (Function.update v (bank, register) (value &&& r.mask)) := by
  intro bank' register' r' h'
  by_cases heq : (bank', register') = (bank, register)
  · obtain ⟨rfl, rfl⟩ := Prod.mk.inj heq
    obtain rfl := Except.ok.inj (h.symm.trans h')
    rw [Function.update_self]
    exact and_lowBits_le value r.width
  · rw [Function.update_of_ne heq]
    exact hv bank' register' r' h'

/-- No use of a register leaves more in it than it has bits for. -/
lemma Fits.use (hd : ∀ b ∈ d.banks, b.WellFormed) (hv : d.Fits v)
    (h : d.use v op = .ok (answer, w)) : d.Fits w := by
  cases op with
  | read bank register =>
    simp only [Declarations.use] at h
    split at h
    · cases h
      exact hv
    · cases h
  | write bank register value =>
    simp only [Declarations.use] at h
    split at h
    · rename_i r hr
      cases h
      split
      · exact hv.update hr value
      · exact hv
    · cases h
  | drive bank register value =>
    simp only [Declarations.use] at h
    split at h
    · rename_i r hr
      split at h
      · cases h
      · cases h
        exact hv.update hr value
    · cases h
  | restart =>
    cases h
    intro bank register r h
    simp only [restarted, h]
    split
    · exact (wellFormed_of_named hd h).reset_le
    · exact hv bank register r h

end Declarations

/-! ### Uses of a register in a system -/

/-- A permutation of images is made of the images of a permutation. -/
lemma exists_perm_of_perm_map {α β : Type} {f : α → β} {xs : List α} {ys : List β}
    (h : ys.Perm (xs.map f)) : ∃ zs : List α, zs.Perm xs ∧ ys = zs.map f := by
  have hmap : List.Forall₂ (fun y x => y = f x) (xs.map f) xs := by
    rw [List.forall₂_map_left_iff, List.forall₂_same]
    exact fun _ _ => rfl
  obtain ⟨zs, hzs, hperm⟩ := List.perm_comp_forall₂ h hmap
  refine ⟨zs, hperm, ?_⟩
  rwa [← List.forall₂_eq_eq_eq, List.forall₂_map_right_iff]

namespace Soc

variable {soc : Soc} {v : Values} {b : Bank} {r : Register} {start i j : ℕ}
  {bank register : String} {cause : ConfigError}

/-! #### Declarations by name -/

lemma named_of_hosts (h : soc.Finished) (hosts : soc.bus.Hosts soc.banks i j b r start) :
    soc.declarations.named b.name r.name = .ok r := by
  rcases named_cases h b.name r.name with
    ⟨i', j', c, s, next, other, hb, hr, hnamed⟩ | ⟨cause, -, hfind⟩
  · obtain ⟨rfl, rfl⟩ := other.position_eq_of_names hosts h.fits hb hr
    rw [hnamed, (other.unique hosts).2.1]
  · have hfound := hfind soc.resets
    rw [find?_of_hosts h soc.resets hosts] at hfound
    cases hfound

lemma register?_of_named_eq_error (h : soc.Finished)
    (hnamed : soc.declarations.named bank register = .error cause) :
    soc.register? bank register = none := by
  rw [Option.eq_none_iff_forall_ne_some]
  intro found hfound
  obtain ⟨i, j, b, r, start, hosts, rfl, rfl, -⟩ := (register?_eq_some_iff h).1 hfound
  rw [named_of_hosts h hosts] at hnamed
  cases hnamed

lemma resets_eq (h : soc.Finished) : soc.resets = soc.declarations.resets := by
  funext ⟨bank, register⟩
  rcases named_cases h bank register with
    ⟨i, j, b, r, start, hosts, rfl, rfl, hnamed⟩ | ⟨cause, hnamed, -⟩
  · simp only [resets, Declarations.resets, register?_of_hosts h hosts, hnamed, Option.elim_some]
  · simp only [resets, Declarations.resets, register?_of_named_eq_error h hnamed, hnamed,
      Option.elim_none]

lemma restarted_eq (h : soc.Finished) (v : Values) :
    soc.restarted v = soc.declarations.restarted v := by
  funext ⟨bank, register⟩
  rcases named_cases h bank register with
    ⟨i, j, b, r, start, hosts, rfl, rfl, hnamed⟩ | ⟨cause, hnamed, -⟩
  · simp only [restarted, Declarations.restarted, register?_of_hosts h hosts, hnamed]
    cases r.access <;> rfl
  · simp only [restarted, Declarations.restarted, register?_of_named_eq_error h hnamed, hnamed]

lemma value?_holding (h : soc.Finished) (v : Values) (bank register : String) :
    (soc.holding v).value? bank register
      = (soc.declarations.named bank register).toOption.map fun _ => v (bank, register) := by
  rcases named_cases h bank register with
    ⟨i, j, b, r, start, hosts, rfl, rfl, hnamed⟩ | ⟨cause, hnamed, hfind⟩
  · rw [value?_of_hosts h v hosts, hnamed]
    rfl
  · rw [BusModel.value?, hfind v, hnamed]
    rfl

/-! #### All words of a register -/

lemma readRegister_holding (h : soc.Finished) (hosts : soc.bus.Hosts soc.banks i j b r start)
    (hle : v (b.name, r.name) ≤ r.mask) :
    (soc.holding v).readRegister (soc.bus.registerAt start r) = .ok (v (b.name, r.name)) := by
  obtain ⟨words, hwords, hgather⟩ := gather_reads h v hosts hle
  simp only [BusModel.readRegister, registerAt, PlacedRegister.gather, hwords, hgather,
    Outcome.ok_bind]
  rfl

/-- The words of a status register are dropped, one by one. -/
lemma write_status_tiles (h : soc.Finished) (hosts : soc.bus.Hosts soc.banks i j b r start)
    (hr : r.access = .status) (word : ℕ → UInt64) {order : List ℕ}
    (horder : ∀ k ∈ order, k < soc.bus.wordCount r.width) :
    (soc.holding v).writeAll (order.map fun k => ((soc.bus.tile r.width start k).address, word k))
      = .ok (soc.holding v) := by
  induction order with
  | nil => rfl
  | cons k order ih =>
    have hwrite := write_of_status h v (hosts.wordAt h.fits (horder k (by simp))) hr (word k)
    rw [List.map_cons, BusModel.writeAll, hwrite]
    exact ih fun k' hk' => horder k' (by simp [hk'])

/-- Writing all words of a value leaves the value in a storage register, in whatever order, and
does nothing to a status register. -/
lemma writeRegister_holding (h : soc.Finished) (hosts : soc.bus.Hosts soc.banks i j b r start)
    (hle : v (b.name, r.name) ≤ r.mask) (order : WordOrder) (value : UInt64) :
    (soc.holding v).writeRegister (soc.bus.registerAt start r) order value
      = .ok (soc.holding (if r.access.writable then
          Function.update v (b.name, r.name) (value &&& r.mask) else v)) := by
  have hwf := hosts.wellFormed h.fits
  have hscatter : (soc.bus.registerAt start r).scatter value
      = some ((soc.bus.tiles r.width start).map (·.part value)) :=
    mapM_eq_pure fun s hs =>
      Slice.extract_eq_some (inWord_of_mem_tiles h.sound.dataWidth_pos hwf.width_le hs) value
  have hwords : ((soc.bus.registerAt start r).words.map (·.address)).zip
      ((soc.bus.tiles r.width start).map (·.part value))
      = (List.range (soc.bus.wordCount r.width)).map fun k =>
        ((soc.bus.tile r.width start k).address, (soc.bus.tile r.width start k).part value) := by
    rw [registerAt, List.zip_map', tiles, List.map_map]
    rfl
  obtain ⟨ks, hks, hwrites⟩ := exists_perm_of_perm_map
    (order.perm ((List.range (soc.bus.wordCount r.width)).map fun k =>
      ((soc.bus.tile r.width start k).address, (soc.bus.tile r.width start k).part value)))
  have hmem (k : ℕ) : k ∈ ks ↔ k < soc.bus.wordCount r.width := hks.mem_iff.trans List.mem_range
  have hpart (k : ℕ) (_ : k < soc.bus.wordCount r.width) :
      (soc.bus.tile r.width start k).part value &&& (soc.bus.tile r.width start k).mask
        = (soc.bus.tile r.width start k).part value := Slice.part_and_mask _ _
  simp only [BusModel.writeRegister, hscatter, liftM, monadLift_some, Outcome.ok_bind, hwords,
    hwrites]
  cases hr : r.access with
  | storage => exact write_value h hosts hr hpart hmem hle
  | status => exact write_status_tiles h hosts hr _ fun k => (hmem k).1

/-! #### Any use -/

/-- **A system uses its registers as its declarations say**, through its words in any order. -/
theorem use_holding (h : soc.Finished) (hv : soc.declarations.Fits v)
    (input : RegisterOp × WordOrder) :
    (soc.holding v).use soc input = Prod.map id soc.holding <$> soc.declarations.use v input.1 := by
  have hle {i j start : ℕ} {b : Bank} {r : Register}
      (hosts : soc.bus.Hosts soc.banks i j b r start) : v (b.name, r.name) ≤ r.mask :=
    hv b.name r.name r (named_of_hosts h hosts)
  obtain ⟨op, order⟩ := input
  cases op with
  | restart =>
    rw [BusModel.use, Declarations.use, restart_holding h, restarted_eq h]
    rfl
  | read bank register =>
    rcases named_cases h bank register with
      ⟨i, j, b, r, start, hosts, rfl, rfl, hnamed⟩ | ⟨cause, hnamed, -⟩
    · simp only [BusModel.use, Declarations.use, register?_of_hosts h hosts, hnamed,
        readRegister_holding h hosts (hle hosts)]
      rfl
    · simp only [BusModel.use, Declarations.use, register?_of_named_eq_error h hnamed, hnamed]
      rfl
  | write bank register value =>
    rcases named_cases h bank register with
      ⟨i, j, b, r, start, hosts, rfl, rfl, hnamed⟩ | ⟨cause, hnamed, -⟩
    · simp only [BusModel.use, Declarations.use, register?_of_hosts h hosts, hnamed,
        writeRegister_holding h hosts (hle hosts)]
      rfl
    · simp only [BusModel.use, Declarations.use, register?_of_named_eq_error h hnamed, hnamed]
      rfl
  | drive bank register value =>
    rcases named_cases h bank register with
      ⟨i, j, b, r, start, hosts, rfl, rfl, hnamed⟩ | ⟨cause, hnamed, hfind⟩
    · cases hr : r.access with
      | storage =>
        simp only [BusModel.use, Declarations.use, drive_of_storage h v hosts hr, hnamed, hr]
        rfl
      | status =>
        simp only [BusModel.use, Declarations.use, drive_of_status h v hosts hr, hnamed, hr]
        rfl
    · simp only [BusModel.use, Declarations.use, drive_of_find?_eq_error (hfind v), hnamed]
      rfl

end Soc

/-! ### Any row of uses -/

/-- Two bus models cannot be told apart: they have given the same answer, and each register has the
same value in both. -/
structure Agree (x y : Outcome RegisterFault (Option UInt64) × BusModel) : Prop where
  answer : x.1 = y.1
  value : ∀ bank register, x.2.value? bank register = y.2.value? bank register

namespace Declarations

variable {d : Declarations} {bus bus₁ bus₂ : BusGeometry} {soc soc₁ soc₂ : Soc}

/-- **The registers of a system answer as its declarations say**, after any row of uses. -/
theorem trace_ofSoc (h : d.complete bus = .ok soc) (inputs : List (RegisterOp × WordOrder)) :
    trace (BusModel.use soc) (BusModel.ofSoc soc) inputs
      = (trace d.use d.resets (inputs.map Prod.fst)).map (Prod.map id soc.holding) := by
  have hfinished := finished_of_complete h
  obtain rfl := declarations_of_complete h
  have hbanks : ∀ b ∈ soc.declarations.banks, b.WellFormed := hfinished.fits.wellFormed
  rw [Soc.ofSoc_eq_holding hfinished, Soc.resets_eq hfinished]
  exact trace_map (fun v hv input => Soc.use_holding hfinished hv input)
    (fun v hv op answer w hw => hv.use hbanks hw) (fits_resets hbanks) inputs

/-- **Registers do not depend on the bus**: two systems of the same declarations give the same
answers to any row of uses, and after each of them the same value for every register, in whatever
order the words of a register are written on either bus. The answers are those of the declarations
alone. -/
theorem traces_agree (h₁ : d.complete bus₁ = .ok soc₁) (h₂ : d.complete bus₂ = .ok soc₂)
    (uses : List (RegisterOp × WordOrder × WordOrder)) :
    List.Forall₂ Agree
      (trace (BusModel.use soc₁) (BusModel.ofSoc soc₁) (uses.map fun (op, order, _) => (op, order)))
      (trace (BusModel.use soc₂) (BusModel.ofSoc soc₂) (uses.map fun (op, _, order) => (op, order)))
    ∧ (trace (BusModel.use soc₁) (BusModel.ofSoc soc₁)
        (uses.map fun (op, order, _) => (op, order))).map Prod.fst
      = (trace d.use d.resets (uses.map Prod.fst)).map Prod.fst := by
  have hops₁ : (uses.map fun (op, order, _) => (op, order)).map Prod.fst = uses.map Prod.fst := by
    rw [List.map_map]
    rfl
  have hops₂ : (uses.map fun (op, _, order) => (op, order)).map Prod.fst = uses.map Prod.fst := by
    rw [List.map_map]
    rfl
  rw [trace_ofSoc h₁, trace_ofSoc h₂, hops₁, hops₂]
  refine ⟨?_, by rw [List.map_map]; rfl⟩
  rw [List.forall₂_map_left_iff, List.forall₂_map_right_iff, List.forall₂_same]
  refine fun x _ => ⟨rfl, fun bank register => ?_⟩
  have hdeclared := (declarations_of_complete h₁).trans (declarations_of_complete h₂).symm
  calc (soc₁.holding x.2).value? bank register
      = (soc₁.declarations.named bank register).toOption.map fun _ => x.2 (bank, register) :=
        Soc.value?_holding (finished_of_complete h₁) x.2 bank register
    _ = (soc₂.declarations.named bank register).toOption.map fun _ => x.2 (bank, register) := by
        rw [hdeclared]
    _ = (soc₂.holding x.2).value? bank register :=
        (Soc.value?_holding (finished_of_complete h₂) x.2 bank register).symm

/-- Two words with the high one first, and five with the low one first, written backwards. -/
theorem traces_agree_two_buses : ∃ soc₁ soc₂ : Soc,
    ({ banks := [⟨"a", [⟨"r", 40, .storage, [], 7, none⟩, ⟨"s", 8, .status, [], 1, none⟩]⟩] }
      : Declarations).complete {} = .ok soc₁ ∧
    ({ banks := [⟨"a", [⟨"r", 40, .storage, [], 7, none⟩, ⟨"s", 8, .status, [], 1, none⟩]⟩] }
      : Declarations).complete
        { dataWidth := 8, slotSize := 1, base := 0x1000, laneOrder := .lowFirst } = .ok soc₂ ∧
    List.Forall₂ Agree
      (trace (BusModel.use soc₁) (BusModel.ofSoc soc₁)
        [(.write "a" "r" 0xfedcba9876543210, .ascending), (.drive "a" "s" 5, .ascending),
          (.read "a" "r", .ascending), (.drive "a" "r" 5, .ascending),
          (.restart, .ascending)])
      (trace (BusModel.use soc₂) (BusModel.ofSoc soc₂)
        [(.write "a" "r" 0xfedcba9876543210, .descending), (.drive "a" "s" 5, .ascending),
          (.read "a" "r", .ascending), (.drive "a" "r" 5, .ascending),
          (.restart, .ascending)]) := by
  have h₁ : ({ banks := [⟨"a", [⟨"r", 40, .storage, [], 7, none⟩,
      ⟨"s", 8, .status, [], 1, none⟩]⟩] } : Declarations).complete {}
      = .ok ⟨{}, [⟨"a", [⟨"r", 40, .storage, [], 7, none⟩, ⟨"s", 8, .status, [], 1, none⟩]⟩],
        ⟨0, 12, [⟨"a", 0, 12, [⟨"r", .storage, 40, 0, [⟨0, 32, 8⟩, ⟨4, 0, 32⟩]⟩,
          ⟨"s", .status, 8, 8, [⟨8, 0, 8⟩]⟩]⟩]⟩, {}, [], []⟩ := by
    decide +kernel
  have h₂ : ({ banks := [⟨"a", [⟨"r", 40, .storage, [], 7, none⟩,
      ⟨"s", 8, .status, [], 1, none⟩]⟩] } : Declarations).complete
        { dataWidth := 8, slotSize := 1, base := 0x1000, laneOrder := .lowFirst }
      = .ok ⟨{ dataWidth := 8, slotSize := 1, base := 0x1000, laneOrder := .lowFirst },
        [⟨"a", [⟨"r", 40, .storage, [], 7, none⟩, ⟨"s", 8, .status, [], 1, none⟩]⟩],
        ⟨0x1000, 6, [⟨"a", 0x1000, 6, [⟨"r", .storage, 40, 0x1000, [⟨0x1000, 0, 8⟩,
            ⟨0x1001, 8, 8⟩, ⟨0x1002, 16, 8⟩, ⟨0x1003, 24, 8⟩, ⟨0x1004, 32, 8⟩]⟩,
          ⟨"s", .status, 8, 0x1005, [⟨0x1005, 0, 8⟩]⟩]⟩]⟩, {}, [], []⟩ := by
    decide +kernel
  exact ⟨_, _, h₁, h₂, (traces_agree h₁ h₂
    [(.write "a" "r" 0xfedcba9876543210, .ascending, .descending),
      (.drive "a" "s" 5, .ascending, .ascending), (.read "a" "r", .ascending, .ascending),
      (.drive "a" "r" 5, .ascending, .ascending), (.restart, .ascending, .ascending)]).1⟩

end Declarations

end CsrMap
