import CsrMap.Proofs.Accessor.Calls

/-!
The accessors that stand in the text of a header.

A reader of the text finds the functions, and each accessor among them does what its name says in
every state that the bus model reaches: registers and fields are read as they are, and what is
written changes the bits it is meant for and nothing else.
-/

namespace CsrMap

open Header BusGeometry
open scoped List

/-- No register but the named one has changed. -/
def BusModel.KeepsOthers (m m' : BusModel) (bank register : String) : Prop :=
  ∀ bank' register', (bank', register') ≠ (bank, register) →
    m'.value? bank' register' = m.value? bank' register'

namespace Header

/-- In the state `m`, calls of the accessors of a register mean what their names say. -/
structure AccessesRegister (call : Calls) (bank : String) (r : Register) (m : BusModel) : Prop where
  read :
    let t := IntType.ofWidth r.width
    ∃ value, m.value? bank r.name = some value ∧
      call (bank ++ "_" ++ r.name ++ "_read") [] m = some (.ofWord t value, m)
  write : r.access = .storage →
    let t := IntType.ofWidth r.width
    ∀ x ≤ t.max, ∃ m',
      call (bank ++ "_" ++ r.name ++ "_write") [.ofWord t x] m = some (.nothing, m') ∧
      m'.value? bank r.name = some (x &&& r.mask) ∧ m.KeepsOthers m' bank r.name

/-- In the state `m`, calls of the accessors of a field mean what their names say. -/
structure AccessesField (call : Calls) (bank : String) (r : Register) (f : Field) (m : BusModel) :
    Prop where
  extract :
    let t := IntType.ofWidth r.width
    ∀ o ≤ t.max, ∃ x,
      call (bank ++ "_" ++ r.name ++ "_" ++ f.name ++ "_extract") [.ofWord t o] m
        = some (.ofWord t x, m) ∧
      x.toNat = o.toNat / 2 ^ f.offset.toNat % 2 ^ f.width.toNat
  read :
    let t := IntType.ofWidth r.width
    ∃ value x, m.value? bank r.name = some value ∧
      call (bank ++ "_" ++ r.name ++ "_" ++ f.name ++ "_read") [] m = some (.ofWord t x, m) ∧
      x.toNat = value.toNat / 2 ^ f.offset.toNat % 2 ^ f.width.toNat
  replace : r.access = .storage →
    let t := IntType.ofWidth r.width
    ∀ o ≤ t.max, ∀ x ≤ t.max, ∃ y,
      call (bank ++ "_" ++ r.name ++ "_" ++ f.name ++ "_replace") [.ofWord t o, .ofWord t x] m
        = some (.ofWord t y, m) ∧
      f.Replaces o x y
  write : r.access = .storage →
    let t := IntType.ofWidth r.width
    ∀ x ≤ t.max, ∃ m' value value' y,
      call (bank ++ "_" ++ r.name ++ "_" ++ f.name ++ "_write") [.ofWord t x] m
        = some (.nothing, m') ∧
      m.value? bank r.name = some value ∧ m'.value? bank r.name = some value' ∧
      f.Replaces value x value' ∧ m.KeepsOthers m' bank r.name ∧
      call (bank ++ "_" ++ r.name ++ "_" ++ f.name ++ "_read") [] m' = some (.ofWord t y, m') ∧
      y.toNat = x.toNat % 2 ^ f.width.toNat

variable {soc : Soc} {word : IntType} {v : Values} {b : Bank} {r : Register} {f : Field}
  {fs : List Function} {i j start : ℕ}

namespace Callable

/-- The accessors of a register do what their names say in every state whose values fit. -/
lemma accessesRegister (h : Callable soc word b r i j start) (hfs : Apart fs)
    (haccessors : accessors b.name r (soc.bus.registerAt start r) <+ fs)
    (hle : v (b.name, r.name) ≤ r.mask) :
    AccessesRegister (callAfter word fs) b.name r (soc.holding v) where
  read := ⟨_, Soc.value?_of_hosts h.finished v h.hosts,
    h.call_registerRead hfs (haccessors.subset (registerRead_mem _ _ _)) hle⟩
  write hr x hx := by
    refine ⟨_, h.call_registerWrite hfs hr (haccessors.subset (registerWrite_mem hr _ _)) hle hx,
      ?_, fun bank register hne => Soc.value?_holding_update h.finished v hne _⟩
    rw [Soc.value?_of_hosts h.finished _ h.hosts, Function.update_self]

/-- The accessors of a field do what their names say in every state whose values fit. -/
lemma accessesField (h : Callable soc word b r i j start) (hfs : Apart fs)
    (haccessors : accessors b.name r (soc.bus.registerAt start r) <+ fs) (hf : f ∈ r.fields)
    (hle : v (b.name, r.name) ≤ r.mask) :
    AccessesField (callAfter word fs) b.name r f (soc.holding v) where
  extract o ho := by
    have hmem := (extract_before_read _ _ hf).trans haccessors
    exact ⟨_, call_fieldExtract word hfs (hmem.subset List.mem_cons_self) (h.liesIn hf) ho _,
      Field.toNat_part (h.liesIn hf) o⟩
  read := ⟨_, _, Soc.value?_of_hosts h.finished v h.hosts, h.call_fieldRead hfs haccessors hf hle,
    Field.toNat_part (h.liesIn hf) _⟩
  replace hr o ho x hx := by
    have hmem := (replace_before_write _ _ hr hf).trans haccessors
    exact ⟨_, call_fieldReplace word hfs (hmem.subset List.mem_cons_self) (h.liesIn hf) ho hx _,
      Field.replaces_stored (h.liesIn hf) o x⟩
  write hr x hx := by
    have hstored := h.stored_le_mask (x := x) hf hle
    have hread := h.call_fieldRead (v := Function.update v (b.name, r.name)
      (f.slice.stored (v (b.name, r.name)) x)) hfs haccessors hf
        (by rw [Function.update_self]; exact hstored)
    refine ⟨_, _, _, _, h.call_fieldWrite hfs hr haccessors hf hle hx,
      Soc.value?_of_hosts h.finished v h.hosts, Soc.value?_of_hosts h.finished _ h.hosts, ?_,
      fun bank register hne => Soc.value?_holding_update h.finished v hne _, hread, ?_⟩
    · rw [Function.update_self]
      exact Field.replaces_stored (h.liesIn hf) _ x
    · rw [Function.update_self, Field.toNat_part (h.liesIn hf)]
      exact (Field.replaces_stored (h.liesIn hf) _ x).inside

end Callable

end Header

namespace Soc

variable {d : Declarations} {bus : BusGeometry} {soc : Soc} {options : Options} {word : IntType}

lemma apart_accessors (h : soc.Finished) : Apart soc.accessors := by
  have hnot {name : String} (hname : name ∈ ["csr_read_simple", "csr_write_simple"]) :
      name ∉ soc.accessors.map (·.name) := by
    intro hmem
    obtain ⟨f, hf, rfl⟩ := List.mem_map.1 hmem
    exact name_ne_of_mem_accessors hf hname
  exact ⟨nodup_name_accessors h, hnot (by simp), hnot (by simp)⟩

/-- **The accessors of a header do what their names say**: a reader finds them in its text, and
in every state that the bus model reaches their calls have results, so that no shift reaches the
width of its operand and no bit is lost in a type. The guard of the header is no word of them, as
none in upper case is. -/
theorem header_accesses (hd : d.Reachable) (h : d.complete bus = .ok soc)
    (hguard : IsIdentifier options.guardSymbol)
    (hapart : ∀ f ∈ soc.accessors, ¬ mentions f.lines options.guardSymbol)
    (hwith : options.withAccessors) (hword : soc.bus.dataWidth.toNat ≤ word.bits) :
    ∃ text fs, soc.header options = .ok text ∧ functions? text = some fs ∧
      ∀ ops bank register r p, soc.register? bank register = some (r, p) →
        let m := (BusModel.ofSoc soc).run ops
        AccessesRegister (callAfter word fs) bank r m ∧
          ∀ f ∈ r.fields, AccessesField (callAfter word fs) bank r f m := by
  have hfinished := Declarations.finished_of_complete h
  have hnamed : soc.declarations.Named := by
    rw [Declarations.declarations_of_complete h]
    exact hd.named
  refine ⟨_, _, header_eq_ok h options, functions?_header hfinished hnamed hguard hapart hwith,
    fun ops bank register r p hfound => ?_⟩
  obtain ⟨v, hrun, hv⟩ := exists_follows hfinished ops
  obtain ⟨i, j, b, r, start, hosts, rfl, -, heq⟩ := (register?_eq_some_iff hfinished).1 hfound
  cases heq
  have hcallable : Callable soc word b r i j start := ⟨hfinished, hosts, hword⟩
  have hapart := apart_accessors hfinished
  have haccessors := accessors_sublist hfinished hosts
  have hle := hv.le_mask i j b r start hosts
  rw [hrun]
  exact ⟨hcallable.accessesRegister hapart haccessors hle,
    fun f hf => hcallable.accessesField hapart haccessors hf hle⟩

/-- A storage register of two words, with a field at its top. -/
theorem header_accesses_top_field : ∃ soc text fs,
    ({ banks := [⟨"a", [⟨"r", 40, .storage, [⟨"top", 36, 4, none⟩], 7, none⟩]⟩] } :
      Declarations).complete {} = .ok soc ∧
    soc.header {} = .ok text ∧ functions? text = some fs ∧
    ∀ ops,
      let r : Register := ⟨"r", 40, .storage, [⟨"top", 36, 4, none⟩], 7, none⟩
      let m := (BusModel.ofSoc soc).run ops
      AccessesRegister (callAfter .u32 fs) "a" r m ∧
        AccessesField (callAfter .u32 fs) "a" r ⟨"top", 36, 4, none⟩ m := by
  have hd : Declarations.Reachable
      { banks := [⟨"a", [⟨"r", 40, .storage, [⟨"top", 36, 4, none⟩], 7, none⟩]⟩] } :=
    @Declarations.Reachable.bank _ _ "a" [⟨"r", 40, .storage, [⟨"top", 36, 4, none⟩], 7, none⟩] 0
      .empty (by decide +kernel)
  have h : ({ banks := [⟨"a", [⟨"r", 40, .storage, [⟨"top", 36, 4, none⟩], 7, none⟩]⟩] } :
        Declarations).complete {}
      = .ok ⟨{}, [⟨"a", [⟨"r", 40, .storage, [⟨"top", 36, 4, none⟩], 7, none⟩]⟩],
        ⟨0, 8, [⟨"a", 0, 8, [⟨"r", .storage, 40, 0, [⟨0, 32, 8⟩, ⟨4, 0, 32⟩]⟩]⟩]⟩,
        ⟨[]⟩, [], []⟩ := by
    decide +kernel
  have hapart (f : Function) (hf : f ∈ accessors _) : ¬ mentions f.lines "__GENERATED_CSR_H" :=
    not_mentions_of_isConstantName (Declarations.finished_of_complete h) (by decide) hf
  obtain ⟨text, fs, htext, hfs, haccesses⟩ := @header_accesses _ _ _ {} .u32 hd h
    (isConstantName_iff.1 (by decide)).1 hapart rfl (by decide)
  refine ⟨_, text, fs, h, htext, hfs, fun ops => ?_⟩
  obtain ⟨hregister, hfields⟩ := haccesses ops "a" "r"
    ⟨"r", 40, .storage, [⟨"top", 36, 4, none⟩], 7, none⟩
    ⟨"r", .storage, 40, 0, [⟨0, 32, 8⟩, ⟨4, 0, 32⟩]⟩ (by decide +kernel)
  exact ⟨hregister, hfields _ List.mem_cons_self⟩

end Soc

end CsrMap
