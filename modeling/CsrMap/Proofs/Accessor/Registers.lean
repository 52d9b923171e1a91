import CsrMap.Proofs.Accessor.Fields
import CsrMap.Proofs.Header.Driver

/-!
The accessors of a register.

Reading gathers the parts that the words of a register carry, and writing scatters a value over
them. Each part fits in a word of the bus and, at its place, in the type of the register.
-/

namespace CsrMap.Header

open UInt64 BusGeometry

variable {t word : IntType} {s : Slice} {calls : Calls} {vars : Variables} {m m' : BusModel}
  {x y : UInt64} {address : UInt64}

/-! ### Words of the bus -/

/-- The calls reach the two functions of the bus, which take and give words of the type `word`. -/
structure ReachesBus (calls : Calls) (word : IntType) : Prop where
  read : calls "csr_read_simple" = busCall word "csr_read_simple"
  write : calls "csr_write_simple" = busCall word "csr_write_simple"

/-- A part of a register of the type `t` that a word of the type `word` carries. -/
structure CarriedBy (s : Slice) (t word : IntType) : Prop extends s.LiesIn t where
  bits_le : s.bits.toNat ≤ word.bits

namespace CarriedBy

lemma mask_le_word (h : CarriedBy s t word) : s.mask ≤ word.max := lowBits_le_max h.bits_le

lemma part_le_word (h : CarriedBy s t word) (x : UInt64) : s.part x ≤ word.max :=
  UInt64.le_trans UInt64.and_le_right h.mask_le_word

end CarriedBy

lemma run_readWord (h : ReachesBus calls word) (hread : m.read address = .ok x)
    (hx : x ≤ word.max) :
    (readWord address).run calls vars m = some (.ofWord word x, m) := by
  have hcall : calls "csr_read_simple" [.address address] m = some (.ofWord word x, m) := by
    simp [h.read, busCall, hread, hx, Except.toOption]
  simp [readWord, Literal.operand?, hcall]

lemma or_le_max (hx : x ≤ t.max) (hy : y ≤ t.max) : x ||| y ≤ t.max := by
  rw [le_max_iff] at hx hy ⊢
  rw [UInt64.toNat_or]
  exact Nat.or_lt_two_pow hx hy

/-! ### Reading -/

/-- The statement that reads one word of a register into the variable `r`. -/
def gatherWord (t : IntType) (s : Slice) : Statement :=
  .orInto "r"
    (Expression.movedLeft (.cast t (Expression.masked (readWord s.address) s.mask)) s.shift)

/-- Bits are put into a variable where its type holds them. -/
lemma runBody_orInto {result : Option IntType} {value : Expression} {later : List Statement}
    {name : String} (hvalue : value.run calls vars m = some (.number t.promoted y, m'))
    (hname : vars.lookup name = some (t, x)) (hfits : x ||| y ≤ t.max) :
    runBody calls result vars (.orInto name value :: later) m
      = runBody calls result ((name, t, x ||| y) :: vars) later m' := by
  have hconvert : (Value.number t.promoted (x ||| y)).convert? t = some (x ||| y) :=
    Value.convert?_ofWord hfits
  simp [runBody, hvalue, hname, Value.ofWord, or_same, hconvert]

/-- The words that are read give together what is gathered of their parts. -/
lemma run_gatherWords (h : ReachesBus calls word) {ws : List Slice} {v acc final : UInt64}
    (hws : ∀ s ∈ ws, CarriedBy s t word ∧ m.read s.address = .ok (s.part v))
    (hacc : acc ≤ t.max)
    (hfold : ws.foldlM (fun value s => (value ||| ·) <$> s.place (s.part v)) acc = some final) :
    runBody calls (some t) (("r", t, acc) :: vars)
      (ws.map (gatherWord t) ++ [.give (.variable "r")]) m = some (.ofWord t final, m) := by
  induction ws generalizing acc vars with
  | nil =>
    have hfinal : acc = final := by simpa using hfold
    subst hfinal
    have hvariable : (Expression.variable "r").run calls (("r", t, acc) :: vars) m
        = some (.ofWord t acc, m) := rfl
    exact runBody_give hvariable (UInt64.le_trans hacc t.max_le) hacc
  | cons s ws ih =>
    obtain ⟨hs, hread⟩ := hws s (by simp)
    have hplaced := hs.place_le (s.part v)
    rw [List.foldlM_cons, Slice.place_eq_some hs.inWord] at hfold
    rw [Slice.part_and_mask] at hplaced hfold
    have hword : (readWord s.address).run calls (("r", t, acc) :: vars) m
        = some (.ofWord word (s.part v), m) := run_readWord h hread (hs.part_le_word v)
    have hmasked := Expression.run_masked hword hs.mask_le_word
    rw [Slice.part_and_mask] at hmasked
    have hcast := Expression.run_cast (t := t) hmasked
      (UInt64.le_trans (hs.part_le_word v) word.max_le) (hs.part_le v)
    have hmoved := Expression.run_movedLeft hcast UInt64.and_le_right hs.shift_lt hs.end_le
    rw [List.map_cons, List.cons_append, gatherWord,
      runBody_orInto hmoved rfl (or_le_max hacc hplaced)]
    exact ih (fun s hs => hws s (by simp [hs])) (or_le_max hacc hplaced) hfold

/-! ### Writing -/

/-- The statement that writes one word of a register from the variable `v`. -/
def scatterWord (s : Slice) : Statement :=
  .evaluate (.callTwo "csr_write_simple"
    (Expression.masked (Expression.movedRight (.variable "v") s.shift) s.mask)
    (.literal (.address s.address)))

/-- The words that are written carry the parts of the value. -/
lemma run_scatterWords (h : ReachesBus calls word) {ws : List Slice} {v : UInt64}
    (hws : ∀ s ∈ ws, CarriedBy s t word) (hv : v ≤ t.max)
    (hwrite : m.writeAll (ws.map fun s => (s.address, s.part v)) = .ok m') :
    runBody calls none [("v", t, v)] (ws.map scatterWord) m = some (.nothing, m') := by
  induction ws generalizing m with
  | nil =>
    cases hwrite
    rfl
  | cons s ws ih =>
    have hs := hws s (by simp)
    obtain ⟨next, hnext, hlater⟩ := bind_eq_ok_iff.1 hwrite
    have hvariable : (Expression.variable "v").run calls [("v", t, v)] m
        = some (.ofWord t v, m) := rfl
    have hpart := Expression.run_masked
      (Expression.run_movedRight hvariable hv hs.shift_lt) hs.mask_le
    have hconvert : (Value.number t.promoted (s.part v)).convert? word = some (s.part v) :=
      Value.convert?_number (UInt64.le_trans (hs.part_le v) t.max_le) (hs.part_le_word v)
    have hcall : calls "csr_write_simple" [.number t.promoted (s.part v), .address s.address] m
        = some (.nothing, next) := by
      simp [h.write, busCall, hconvert, hnext, Except.toOption]
    have hrun : (Expression.callTwo "csr_write_simple"
        (Expression.masked (Expression.movedRight (.variable "v") s.shift) s.mask)
        (.literal (.address s.address))).run calls [("v", t, v)] m = some (.nothing, next) := by
      simp only [Expression.run, hpart, Literal.operand?]
      exact hcall
    rw [List.map_cons, scatterWord, runBody, hrun]
    exact ih (fun s hs => hws s (by simp [hs])) hlater

/-! ### Registers of a system -/

variable {soc : Soc} {v : Values} {b : Bank} {r : Register} {i j start k : ℕ}

lemma carriedBy_tile (h : soc.Finished) (hosts : soc.bus.Hosts soc.banks i j b r start)
    (hword : soc.bus.dataWidth.toNat ≤ word.bits) (hk : k < soc.bus.wordCount r.width) :
    CarriedBy (soc.bus.tile r.width start k) (IntType.ofWidth r.width) word := by
  have hwidth := IntType.le_bits_ofWidth (hosts.wellFormed h.fits).width_le
  have hend : (soc.bus.tile r.width start k).shift.toNat + (soc.bus.tile r.width start k).bits.toNat
      ≤ r.width.toNat := shift_add_bits_le h.sound hk
  have hlane := lane_mul_lt h.sound.dataWidth_pos hk
  have hshift := toNat_shift_tile h.sound.dataWidth_pos hk start
  have hbits := toNat_bits_tile soc.bus r.width start k
  exact ⟨⟨by omega, by omega⟩, by omega⟩

/-- **The read function of a register gives its value** and leaves the state. -/
theorem run_registerRead (h : soc.Finished) (hosts : soc.bus.Hosts soc.banks i j b r start)
    (hword : soc.bus.dataWidth.toNat ≤ word.bits) (hle : v (b.name, r.name) ≤ r.mask)
    (hcalls : ReachesBus calls word) (function : String) :
    (registerRead function (IntType.ofWidth r.width) (soc.bus.registerAt start r)).run calls []
        (soc.holding v)
      = some (.ofWord (IntType.ofWidth r.width) (v (b.name, r.name)), soc.holding v) := by
  have hwf := hosts.wellFormed h.fits
  have hpos := wordCount_pos h.sound.dataWidth_pos hwf.width_pos
  have hmax : v (b.name, r.name) ≤ (IntType.ofWidth r.width).max :=
    UInt64.le_trans hle (lowBits_le_max (IntType.le_bits_ofWidth hwf.width_le))
  have hsize : (soc.bus.registerAt start r).size = soc.bus.wordCount r.width :=
    length_tiles soc.bus r.width start
  rw [Function.run_eq rfl, registerRead, PlacedRegister.spansWords, hsize]
  by_cases hone : soc.bus.wordCount r.width = 1
  · have hread := Soc.read_of_wordCount_eq_one h hosts hone hle
    have hnarrow : r.width.toNat ≤ word.bits :=
      (width_le_dataWidth h.sound.dataWidth_pos hone).trans hword
    have hfits := UInt64.le_trans hle (lowBits_le_max hnarrow)
    rw [hone, if_neg (by decide)]
    exact runBody_give (run_readWord hcalls hread hfits) (UInt64.le_trans hfits word.max_le) hmax
  · have hgather := gather_value h.sound.dataWidth_pos hwf.width_le hle start
    rw [if_pos (by simpa using (by omega : 1 < soc.bus.wordCount r.width))]
    refine run_gatherWords hcalls (fun s hs => ?_) (by simp) hgather
    obtain ⟨k, hk, rfl⟩ := mem_tiles.1 hs
    exact ⟨carriedBy_tile h hosts hword hk, Soc.read_of_wordAt h v (hosts.wordAt h.fits hk)⟩

/-- **The write function of a storage register stores the bits of a value** that the register
has. -/
theorem run_registerWrite (h : soc.Finished) (hosts : soc.bus.Hosts soc.banks i j b r start)
    (hr : r.access = .storage) (hword : soc.bus.dataWidth.toNat ≤ word.bits)
    (hle : v (b.name, r.name) ≤ r.mask) (hcalls : ReachesBus calls word) (function : String)
    (hx : x ≤ (IntType.ofWidth r.width).max) :
    (registerWrite function (IntType.ofWidth r.width) (soc.bus.registerAt start r)).run calls
        [.ofWord (IntType.ofWidth r.width) x] (soc.holding v)
      = some (.nothing, soc.holding (Function.update v (b.name, r.name) (x &&& r.mask))) := by
  have hparts : ∀ k < soc.bus.wordCount r.width,
      (soc.bus.tile r.width start k).part x &&& (soc.bus.tile r.width start k).mask
        = (soc.bus.tile r.width start k).part x := fun k _ => Slice.part_and_mask _ x
  have horder (k : ℕ) : k ∈ List.range (soc.bus.wordCount r.width)
      ↔ k < soc.bus.wordCount r.width := List.mem_range
  have hwrite := Soc.write_value h hosts hr hparts horder hle
  rw [Function.run_eq (bindArguments?_one hx)]
  refine run_scatterWords hcalls (fun s hs => ?_) hx ?_
  · obtain ⟨k, hk, rfl⟩ := mem_tiles.1 hs
    exact carriedBy_tile h hosts hword hk
  · rw [registerAt, tiles, List.map_map]
    exact hwrite

end CsrMap.Header
