import CsrMap.Proofs.Accessor.Registers
import CsrMap.Proofs.Accessor.Source

/-!
Calls of accessors among the functions of a text.

No two functions have one name and none has that of a function of the bus, so a call finds its
function, which finds in turn the accessors that stand before it. Where they stand in their order,
each accessor does what it is made for.
-/

namespace CsrMap.Header

open scoped List
open BusGeometry

variable {word t : IntType} {fs later : List Function} {f g : Function} {function name : String}
  {m : BusModel} {fd : Field} {o x : UInt64}

/-! ### Finding a function -/

/-- The names of functions are apart from each other and from those of the bus. -/
structure Apart (fs : List Function) : Prop where
  nodup : (fs.map (·.name)).Nodup
  read : "csr_read_simple" ∉ fs.map (·.name)
  write : "csr_write_simple" ∉ fs.map (·.name)

lemma callAmong_append (h : name ∉ later.map (·.name)) (fs : List Function) :
    callAmong word (later ++ fs) name = callAmong word fs name := by
  induction later with
  | nil => rfl
  | cons g later ih =>
    rw [List.map_cons, List.mem_cons, not_or] at h
    rw [List.cons_append, callAmong, if_neg (Ne.symm h.1), ih h.2]

/-- A call runs its function among those that stand before it. -/
lemma callAfter_append {before after : List Function} (h : f.name ∉ after.map (·.name)) :
    callAfter word (before ++ f :: after) f.name = f.run (callAfter word before) := by
  have hreverse : (before ++ f :: after).reverse = after.reverse ++ f :: before.reverse := by simp
  rw [callAfter, hreverse, callAmong_append (by simpa using h), callAmong, if_pos rfl]
  rfl

namespace Apart

lemma reachesBus (h : Apart fs) : ReachesBus (callAfter word fs) word := by
  have hnone {name : String} (hname : name ∉ fs.map (·.name)) :
      callAfter word fs name = busCall word name := by
    have happend : callAmong word (fs.reverse ++ []) name = callAmong word [] name :=
      callAmong_append (by simpa using hname) []
    rwa [List.append_nil] at happend
  exact ⟨hnone h.read, hnone h.write⟩

/-- The functions before another one are found by its calls. -/
lemma exists_before (h : Apart fs) (hf : f ∈ fs) (word : IntType) :
    ∃ before, Apart before ∧ callAfter word fs f.name = f.run (callAfter word before) ∧
      ∀ g, [g, f] <+ fs → g ∈ before := by
  obtain ⟨before, after, rfl⟩ := List.append_of_mem hf
  obtain ⟨hnodup, hread, hwrite⟩ := h
  rw [List.map_append, List.map_cons] at hnodup hread hwrite
  have hafter : f.name ∉ after.map (·.name) :=
    (List.nodup_cons.1 (List.nodup_append.1 hnodup).2.1).1
  refine ⟨before, ⟨(List.nodup_append.1 hnodup).1, fun hmem => hread (List.mem_append_left _ hmem),
    fun hmem => hwrite (List.mem_append_left _ hmem)⟩, callAfter_append hafter, fun g hg => ?_⟩
  -- After `f` there is no `f`, so what stands before an `f` stands before this one.
  have hnot : f ∉ after := fun hmem => hafter (List.mem_map.2 ⟨f, hmem, rfl⟩)
  obtain ⟨front, rest, heq, hfront, hrest⟩ := List.sublist_append_iff.1 hg
  cases front with
  | nil =>
    rw [List.nil_append] at heq
    rw [← heq] at hrest
    have hmem : f ∈ after := List.singleton_sublist.1 hrest.tail
    exact absurd hmem hnot
  | cons g' front =>
    rw [(List.cons.inj heq).1]
    exact hfront.subset (by simp)

end Apart

/-! ### Calls of accessors -/

lemma call_fieldExtract (word : IntType) (h : Apart fs)
    (hmem : fieldExtract name t fd ∈ fs) (hfd : fd.slice.LiesIn t) (ho : o ≤ t.max) (m : BusModel) :
    callAfter word fs (name ++ "_extract") [.ofWord t o] m
      = some (.ofWord t (fd.slice.part o), m) := by
  obtain ⟨before, -, hcall, -⟩ := h.exists_before hmem word
  exact (congrFun (congrFun hcall _) m).trans (run_fieldExtract hfd ho _ m)

lemma call_fieldReplace (word : IntType) (h : Apart fs)
    (hmem : fieldReplace name t fd ∈ fs) (hfd : fd.slice.LiesIn t) (ho : o ≤ t.max) (hx : x ≤ t.max)
    (m : BusModel) :
    callAfter word fs (name ++ "_replace") [.ofWord t o, .ofWord t x] m
      = some (.ofWord t (fd.slice.stored o x), m) := by
  obtain ⟨before, -, hcall, -⟩ := h.exists_before hmem word
  exact (congrFun (congrFun hcall _) m).trans (run_fieldReplace hfd ho hx _ m)

/-! ### Accessors in their order -/

variable {bank : String} {r : Register} {placed : PlacedRegister}

lemma registerRead_mem (bank : String) (r : Register) (placed : PlacedRegister) :
    registerRead (bank ++ "_" ++ r.name) (IntType.ofWidth r.width) placed
      ∈ accessors bank r placed := by
  simp [accessors, registerAccessors]

lemma registerWrite_mem (hr : r.access = .storage) (bank : String) (placed : PlacedRegister) :
    registerWrite (bank ++ "_" ++ r.name) (IntType.ofWidth r.width) placed
      ∈ accessors bank r placed := by
  simp [accessors, registerAccessors, hr, Access.writable]

/-- The accessors of a field stand after those of its register. -/
lemma register_before_field (hf : f ∈ registerAccessors bank r placed) (hfd : fd ∈ r.fields)
    (hg : g ∈ fieldAccessors bank r fd) : [f, g] <+ accessors bank r placed :=
  (List.singleton_sublist.2 hf).append
    (List.singleton_sublist.2 (List.mem_flatMap.2 ⟨fd, hfd, hg⟩))

lemma fieldAccessors_sublist (hfd : fd ∈ r.fields) :
    fieldAccessors bank r fd <+ accessors bank r placed := by
  rw [accessors, List.flatMap_def]
  exact (List.sublist_flatten_of_mem (List.mem_map.2 ⟨fd, hfd, rfl⟩)).trans
    (List.sublist_append_right _ _)

lemma extract_before_read (bank : String) (placed : PlacedRegister) (hfd : fd ∈ r.fields) :
    let function := bank ++ "_" ++ r.name
    [fieldExtract (function ++ "_" ++ fd.name) (IntType.ofWidth r.width) fd,
      fieldRead function (function ++ "_" ++ fd.name) (IntType.ofWidth r.width)]
        <+ accessors bank r placed :=
  (List.sublist_append_left _ _).trans (fieldAccessors_sublist hfd)

lemma replace_before_write (bank : String) (placed : PlacedRegister) (hr : r.access = .storage)
    (hfd : fd ∈ r.fields) :
    let function := bank ++ "_" ++ r.name
    [fieldReplace (function ++ "_" ++ fd.name) (IntType.ofWidth r.width) fd,
      fieldWrite function (function ++ "_" ++ fd.name) (IntType.ofWidth r.width)]
        <+ accessors bank r placed := by
  refine List.Sublist.trans ?_ (fieldAccessors_sublist hfd)
  simp [fieldAccessors, hr, Access.writable]

/-! ### Registers and fields of a system -/

variable {soc : Soc} {v : Values} {b : Bank} {i j start : ℕ}

/-- A register is called through words that hold those of the bus. -/
structure Callable (soc : Soc) (word : IntType) (b : Bank) (r : Register) (i j start : ℕ) :
    Prop where
  finished : soc.Finished
  hosts : soc.bus.Hosts soc.banks i j b r start
  word_le : soc.bus.dataWidth.toNat ≤ word.bits

namespace Callable

lemma liesIn (h : Callable soc word b r i j start) (hfd : fd ∈ r.fields) :
    fd.slice.LiesIn (IntType.ofWidth r.width) := by
  have hwf := h.hosts.wellFormed h.finished.fits
  have hwidth := IntType.le_bits_ofWidth hwf.width_le
  have hfield := hwf.fields fd hfd
  have hpos : 0 < fd.width.toNat :=
    Nat.pos_of_ne_zero fun hzero => hfield.width_ne (UInt32.toNat_inj.1 hzero)
  have hend := hfield.endBit_le.trans hwidth
  exact ⟨(Nat.lt_add_of_pos_right hpos).trans_le hend, hend⟩

/-- **The value of a register is read by name.** -/
theorem call_registerRead (h : Callable soc word b r i j start) (hfs : Apart fs)
    (hmem : registerRead (b.name ++ "_" ++ r.name) (IntType.ofWidth r.width)
      (soc.bus.registerAt start r) ∈ fs) (hle : v (b.name, r.name) ≤ r.mask) :
    callAfter word fs (b.name ++ "_" ++ r.name ++ "_read") [] (soc.holding v)
      = some (.ofWord (IntType.ofWidth r.width) (v (b.name, r.name)), soc.holding v) := by
  obtain ⟨before, hbefore, hcall, -⟩ := hfs.exists_before hmem word
  exact (congrFun (congrFun hcall _) _).trans
    (run_registerRead h.finished h.hosts h.word_le hle hbefore.reachesBus _)

/-- **The value of a storage register is written by name.** -/
theorem call_registerWrite (h : Callable soc word b r i j start) (hfs : Apart fs)
    (hr : r.access = .storage) (hmem : registerWrite (b.name ++ "_" ++ r.name)
      (IntType.ofWidth r.width) (soc.bus.registerAt start r) ∈ fs)
    (hle : v (b.name, r.name) ≤ r.mask) (hx : x ≤ (IntType.ofWidth r.width).max) :
    callAfter word fs (b.name ++ "_" ++ r.name ++ "_write")
        [.ofWord (IntType.ofWidth r.width) x] (soc.holding v)
      = some (.nothing, soc.holding (Function.update v (b.name, r.name) (x &&& r.mask))) := by
  obtain ⟨before, hbefore, hcall, -⟩ := hfs.exists_before hmem word
  exact (congrFun (congrFun hcall _) _).trans
    (run_registerWrite h.finished h.hosts hr h.word_le hle hbefore.reachesBus _ hx)

/-- A value of the register is a word of its type. -/
lemma le_max (h : Callable soc word b r i j start) (hx : x ≤ r.mask) :
    x ≤ (IntType.ofWidth r.width).max :=
  UInt64.le_trans hx
    (lowBits_le_max (IntType.le_bits_ofWidth (h.hosts.wellFormed h.finished.fits).width_le))

/-- **The value of a field is read by name.** -/
theorem call_fieldRead (h : Callable soc word b r i j start) (hfs : Apart fs)
    (haccessors : accessors b.name r (soc.bus.registerAt start r) <+ fs) (hfd : fd ∈ r.fields)
    (hle : v (b.name, r.name) ≤ r.mask) :
    callAfter word fs (b.name ++ "_" ++ r.name ++ "_" ++ fd.name ++ "_read") [] (soc.holding v)
      = some (.ofWord (IntType.ofWidth r.width) (fd.slice.part (v (b.name, r.name))),
          soc.holding v) := by
  have hextract := (extract_before_read b.name (soc.bus.registerAt start r) hfd).trans haccessors
  have hmember : registerRead (b.name ++ "_" ++ r.name) (IntType.ofWidth r.width)
      (soc.bus.registerAt start r)
        ∈ registerAccessors b.name r (soc.bus.registerAt start r) := List.mem_cons_self
  have hregister := (register_before_field hmember hfd
    (show fieldRead (b.name ++ "_" ++ r.name) (b.name ++ "_" ++ r.name ++ "_" ++ fd.name)
      (IntType.ofWidth r.width) ∈ fieldAccessors b.name r fd by simp [fieldAccessors])).trans
    haccessors
  obtain ⟨before, hbefore, hcall, hmem⟩ :=
    hfs.exists_before (hextract.subset (List.mem_cons_of_mem _ List.mem_cons_self)) word
  have hread := h.call_registerRead hbefore (hmem _ hregister) hle
  have hpart := call_fieldExtract word hbefore (hmem _ hextract) (h.liesIn hfd)
    (h.le_max hle) (soc.holding v)
  exact (congrFun (congrFun hcall _) _).trans
    (run_fieldRead hread hpart ((h.liesIn hfd).part_le _))

/-- What is stored in a field keeps to the bits of its register. -/
lemma stored_le_mask (h : Callable soc word b r i j start) (hfd : fd ∈ r.fields)
    (ho : o ≤ r.mask) : fd.slice.stored o x ≤ r.mask :=
  Slice.stored_le (h.liesIn hfd).inWord
    ((h.hosts.wellFormed h.finished.fits).fields fd hfd).endBit_le ho

/-- **The value of a field of a storage register is written by name.** -/
theorem call_fieldWrite (h : Callable soc word b r i j start) (hfs : Apart fs)
    (hr : r.access = .storage)
    (haccessors : accessors b.name r (soc.bus.registerAt start r) <+ fs) (hfd : fd ∈ r.fields)
    (hle : v (b.name, r.name) ≤ r.mask) (hx : x ≤ (IntType.ofWidth r.width).max) :
    callAfter word fs (b.name ++ "_" ++ r.name ++ "_" ++ fd.name ++ "_write")
        [.ofWord (IntType.ofWidth r.width) x] (soc.holding v)
      = some (.nothing, soc.holding (Function.update v (b.name, r.name)
          (fd.slice.stored (v (b.name, r.name)) x))) := by
  have hreplace :=
    (replace_before_write b.name (soc.bus.registerAt start r) hr hfd).trans haccessors
  have hbefore {f : Function}
      (hf : f ∈ registerAccessors b.name r (soc.bus.registerAt start r)) :=
    (register_before_field hf hfd (show fieldWrite (b.name ++ "_" ++ r.name)
      (b.name ++ "_" ++ r.name ++ "_" ++ fd.name) (IntType.ofWidth r.width)
        ∈ fieldAccessors b.name r fd by
          simp [fieldAccessors, hr, Access.writable])).trans haccessors
  obtain ⟨before, hapart, hcall, hmem⟩ :=
    hfs.exists_before (hreplace.subset (List.mem_cons_of_mem _ List.mem_cons_self)) word
  have hread := h.call_registerRead hapart (hmem _ (hbefore List.mem_cons_self)) hle
  have hstored := call_fieldReplace word hapart (hmem _ hreplace) (h.liesIn hfd)
    (h.le_max hle) hx (soc.holding v)
  have hwrite := h.call_registerWrite hapart hr
    (hmem _ (hbefore (by simp [registerAccessors, hr, Access.writable]))) hle
    (h.le_max (h.stored_le_mask (x := x) hfd hle))
  have hkept : fd.slice.stored (v (b.name, r.name)) x &&& r.mask
      = fd.slice.stored (v (b.name, r.name)) x :=
    and_lowBits_of_le (h.stored_le_mask hfd hle)
  rw [hkept] at hwrite
  exact (congrFun (congrFun hcall _) _).trans (run_fieldWrite hread hstored hwrite hx)

end Callable

end CsrMap.Header
