import CsrMap.Proofs.Accessor.Evaluation
import CsrMap.Register

/-!
The accessors of a field.

The bits of a field are a slice of its register. Extraction takes the part that the slice carries,
and replacement stores a value in its bits, so the laws of slices say what both do.
-/

namespace CsrMap

/-- The bits of the slice are bits of the type. -/
structure Slice.LiesIn (s : Slice) (t : Header.IntType) : Prop where
  shift_lt : s.shift.toNat < t.bits
  end_le : s.shift.toNat + s.bits.toNat ≤ t.bits

namespace Slice.LiesIn

variable {s : Slice} {t : Header.IntType} {o : UInt64}

lemma inWord (h : s.LiesIn t) : s.InWord := by
  have hbits := t.bits_le_64
  have hshift := h.shift_lt
  have hend := h.end_le
  exact ⟨by omega, by omega⟩

lemma mask_le (h : s.LiesIn t) : s.mask ≤ t.max := by
  have hend := h.end_le
  exact Header.lowBits_le_max (by omega)

lemma part_le (h : s.LiesIn t) (x : UInt64) : s.part x ≤ t.max :=
  UInt64.le_trans UInt64.and_le_right h.mask_le

lemma toNat_bits (t : Header.IntType) : t.bits.toUInt32.toNat = t.bits :=
  UInt32.toNat_ofNat_of_lt' (t.bits_le_64.trans_lt (by decide))

lemma stored_le (h : s.LiesIn t) (ho : o ≤ t.max) (x : UInt64) : s.stored o x ≤ t.max :=
  Slice.stored_le h.inWord (by rw [toNat_bits]; exact h.end_le) ho

/-- A part stays in the type at its place. -/
lemma place_le (h : s.LiesIn t) (x : UInt64) :
    (x &&& s.mask) <<< s.shift.toUInt64 ≤ t.max := by
  have hbits := toNat_bits t
  refine le_lowBits_iff.2 fun i hi => ?_
  have hc : ¬ s.Carries i := fun hc => by
    have hlt := hc.2
    have hend := h.end_le
    omega
  rw [Slice.bit_place h.inWord, decide_eq_false hc, Bool.false_and]

end Slice.LiesIn

namespace Field

/-- The bits of the field as a part of a word. -/
def slice (f : Field) : Slice := ⟨0, f.offset, f.width⟩

/-- The word `y` has the bits of `o`, and those of `x` in the field. -/
structure Replaces (f : Field) (o x y : UInt64) : Prop where
  inside : y.toNat / 2 ^ f.offset.toNat % 2 ^ f.width.toNat = x.toNat % 2 ^ f.width.toNat
  outside : ∀ i, ¬ f.Covers i → y.toNat.testBit i = o.toNat.testBit i

variable {f : Field} {t : Header.IntType}

/-- The bits of a mask for the field. -/
lemma toNat_and_mask (h : f.slice.LiesIn t) (x : UInt64) :
    (x &&& f.slice.mask).toNat = x.toNat % 2 ^ f.width.toNat := by
  have hbits := t.bits_le_64
  have hend : f.offset.toNat + f.width.toNat ≤ t.bits := h.end_le
  have hmin : min f.width.toNat 64 = f.width.toNat := by omega
  have hmask : f.slice.mask.toNat = 2 ^ f.width.toNat - 1 := by
    rw [← hmin]
    exact toNat_lowBits f.width
  rw [UInt64.toNat_and, hmask, Nat.and_two_pow_sub_one_eq_mod]

/-- The number that the field has in a word. -/
lemma toNat_part (h : f.slice.LiesIn t) (o : UInt64) :
    (f.slice.part o).toNat = o.toNat / 2 ^ f.offset.toNat % 2 ^ f.width.toNat := by
  have hoffset : f.slice.shift.toUInt64.toNat % 64 = f.offset.toNat :=
    Nat.mod_eq_of_lt (h.shift_lt.trans_le t.bits_le_64)
  rw [Slice.part, toNat_and_mask h, UInt64.toNat_shiftRight, hoffset, Nat.shiftRight_eq_div_pow]

lemma replaces_stored (h : f.slice.LiesIn t) (o x : UInt64) :
    f.Replaces o x (f.slice.stored o x) := by
  have hin := h.inWord
  refine ⟨?_, fun i hi => ?_⟩
  · rw [← toNat_part h, Slice.part_stored_self hin, toNat_and_mask h]
  · rcases Nat.lt_or_ge i 64 with h64 | h64
    · exact (Slice.bit_stored hin h64).trans (if_neg hi)
    · exact (UInt64.bit_of_le h64).trans (UInt64.bit_of_le h64).symm

end Field

end CsrMap

namespace CsrMap.Header

open UInt64

variable {t : IntType} {p : Promoted} {f : Field} {calls : Calls} {m m' : BusModel}
  {function name : String} {o x y : UInt64} {e : Expression} {vars : Variables}

/-! ### Runs of functions -/

/-- A function gives its result where the type of the result holds it. -/
lemma runBody_give {later : List Statement} (he : e.run calls vars m = some (.number p x, m'))
    (hp : x ≤ p.max) (ht : x ≤ t.max) :
    runBody calls (some t) vars (.give e :: later) m = some (.ofWord t x, m') := by
  simp [runBody, he, Value.convert?_number hp ht]

lemma bindArguments?_one (hx : x ≤ t.max) :
    bindArguments? [(t, name)] [.ofWord t x] = some [(name, t, x)] := by
  simp [bindArguments?, Value.convert?_ofWord hx]

lemma bindArguments?_two {other : String} (hx : x ≤ t.max) (hy : y ≤ t.max) :
    bindArguments? [(t, name), (t, other)] [.ofWord t x, .ofWord t y]
      = some [(name, t, x), (other, t, y)] := by
  simp [bindArguments?, Value.convert?_ofWord hx, Value.convert?_ofWord hy]

lemma Function.run_eq {fn : Function} {arguments : List Value}
    (h : bindArguments? fn.parameters arguments = some vars) :
    fn.run calls arguments m = runBody calls fn.result vars fn.body m := by
  rw [run, h]
  rfl

/-- **Extraction gives the part of a word that a field carries.** -/
theorem run_fieldExtract (h : f.slice.LiesIn t) (ho : o ≤ t.max) (calls : Calls) (m : BusModel) :
    (fieldExtract name t f).run calls [.ofWord t o] m = some (.ofWord t (f.slice.part o), m) := by
  have hle := h.part_le o
  have hword : (Expression.variable "oldword").run calls [("oldword", t, o)] m
      = some (.ofWord t o, m) := rfl
  have hoffset : f.offset.toNat < t.bits := h.shift_lt
  have hshift := Expression.run_shiftRight hword ho hoffset
  rw [Function.run_eq (bindArguments?_one ho)]
  exact runBody_give (Expression.run_masked hshift h.mask_le) (UInt64.le_trans hle t.max_le) hle

/-- **Replacement stores a value in the bits of a field.** -/
theorem run_fieldReplace (h : f.slice.LiesIn t) (ho : o ≤ t.max) (hx : x ≤ t.max) (calls : Calls)
    (m : BusModel) : (fieldReplace name t f).run calls [.ofWord t o, .ofWord t x] m
      = some (.ofWord t (f.slice.stored o x), m) := by
  have hle := h.stored_le ho x
  let vars : Variables := [("oldword", t, o), ("plain_value", t, x)]
  have hword : (Expression.variable "oldword").run calls vars m = some (.ofWord t o, m) := rfl
  have hplain : (Expression.variable "plain_value").run calls vars m = some (.ofWord t x, m) := rfl
  have hliteral : (Expression.literal (.mask (lowBits f.width))).run calls vars m
      = some (.number (maskType (lowBits f.width)) (lowBits f.width), m) := rfl
  have hcast := Expression.run_cast hliteral (le_max_maskType _) h.mask_le
  have hoffset : f.offset.toNat < t.bits := h.shift_lt
  have hhole := Expression.run_shiftLeft hcast (UInt64.le_refl _) hoffset h.end_le
  have hplaced := Expression.run_shiftLeft (Expression.run_masked hplain h.mask_le)
    UInt64.and_le_right hoffset h.end_le
  rw [Function.run_eq (bindArguments?_two ho hx)]
  refine runBody_give ?_ (UInt64.le_trans hle t.max_le) hle
  have hkept := Expression.run_binary hword (Expression.run_complement hhole)
    (and_same t.promoted _ _)
  rw [and_flip (UInt64.le_trans ho t.max_le)] at hkept
  exact Expression.run_binary hkept hplaced (or_same t.promoted _ _)

/-- A field is read out of the value of its register. -/
theorem run_fieldRead (hread : calls (function ++ "_read") [] m = some (.ofWord t o, m))
    (hextract : calls (name ++ "_extract") [.ofWord t o] m = some (.ofWord t x, m))
    (hx : x ≤ t.max) : (fieldRead function name t).run calls [] m = some (.ofWord t x, m) := by
  rw [Function.run_eq rfl]
  refine runBody_give ?_ (UInt64.le_trans hx t.max_le) hx
  simp [hread, hextract]
  rfl

/-- A field is put into the value of its register, which is then written. -/
theorem run_fieldWrite (hread : calls (function ++ "_read") [] m = some (.ofWord t o, m))
    (hreplace : calls (name ++ "_replace") [.ofWord t o, .ofWord t x] m
      = some (.ofWord t y, m))
    (hwrite : calls (function ++ "_write") [.ofWord t y] m = some (.nothing, m')) (hx : x ≤ t.max) :
    (fieldWrite function name t).run calls [.ofWord t x] m = some (.nothing, m') := by
  rw [Function.run_eq (bindArguments?_one hx)]
  simp [fieldWrite, runBody, hread, hreplace, hwrite]

end CsrMap.Header
