import CsrMap.Text.Numeral
import Mathlib.Data.List.Basic
import Mathlib.Tactic.Common

/-!
Reading back the numerals that are written.

The digits of a number in a base up to sixteen have the number as their value, and leading zeros
do not change a value.
-/

namespace CsrMap.Numeral

variable {base n d : ℕ} {c : Char} {cs : List Char}

/-- The characters of the numerals that are written. -/
def digits : List Char := "0123456789abcdef".toList

lemma digitChar_mem_digits (h : d < 16) : d.digitChar ∈ digits := by
  have hall : ∀ d < 16, d.digitChar ∈ digits := by decide
  exact hall d h

lemma digit?_digitChar (hd : d < base) (hbase : base ≤ 16) : digit? base d.digitChar = some d := by
  have hall : ∀ base ≤ 16, ∀ d < base, digit? base d.digitChar = some d := by decide
  exact hall base hbase d hd

lemma mem_digits_of_mem_toDigits (hbase : base ≤ 16) (hb : 1 < base)
    (h : c ∈ Nat.toDigits base n) : c ∈ digits := by
  induction n using Nat.strongRecOn with
  | ind n ih =>
    rw [Nat.toDigits_eq_if hb] at h
    split at h
    · rw [List.mem_singleton] at h
      rw [h]
      exact digitChar_mem_digits (by omega)
    · have hmod := Nat.mod_lt n (by omega : 0 < base)
      rcases List.mem_append.1 h with h | h
      · exact ih _ (Nat.div_lt_self (by omega) hb) h
      · rw [List.mem_singleton] at h
        rw [h]
        exact digitChar_mem_digits (by omega)

/-! ### The value of a row of digits -/

lemma value?_append (base start : ℕ) (cs ds : List Char) :
    value? base start (cs ++ ds) = (value? base start cs).bind (value? base · ds) := by
  induction cs generalizing start with
  | nil => rfl
  | cons c cs ih =>
    rw [List.cons_append, value?, value?]
    cases digit? base c with
    | none => rfl
    | some d => exact ih _

/-- **The digits of a number have it as their value.** -/
theorem value?_toDigits (hb : 1 < base) (hbase : base ≤ 16) (n : ℕ) :
    value? base 0 (Nat.toDigits base n) = some n := by
  induction n using Nat.strongRecOn with
  | ind n ih =>
    rw [Nat.toDigits_eq_if hb]
    split
    · rename_i hlt
      simp [value?, digit?_digitChar hlt hbase]
    · have hmod := Nat.mod_lt n (by omega : 0 < base)
      rw [value?_append, ih _ (Nat.div_lt_self (by omega) hb)]
      simp only [Option.bind_some, value?, digit?_digitChar hmod hbase, Option.bind_eq_bind,
        Nat.div_add_mod']

/-- Different numbers have different digits. -/
lemma toDigits_injective (hb : 1 < base) (hbase : base ≤ 16) :
    Function.Injective (Nat.toDigits base) := by
  intro i j h
  have hvalue := value?_toDigits hb hbase i
  rw [h, value?_toDigits hb hbase] at hvalue
  exact (Option.some.inj hvalue).symm

lemma value?_replicate_zero (hb : 1 < base) (hbase : base ≤ 16) (k : ℕ) (cs : List Char) :
    value? base 0 (List.replicate k '0' ++ cs) = value? base 0 cs := by
  have hzero : digit? base '0' = some 0 := digit?_digitChar (by omega : 0 < base) hbase
  induction k with
  | zero => rfl
  | succ k ih =>
    rw [List.replicate_succ, List.cons_append, value?, hzero, Option.bind_eq_bind,
      Option.bind_some, Nat.zero_mul, Nat.zero_add, ih]

/-- The digits of a number are read as a word where it is small enough. -/
lemma readWord?_eq (hcs : cs ≠ []) (hdigits : ∀ c ∈ cs, c ∈ digits)
    (h : value? base 0 cs = some n) :
    readWord? base cs = if n < UInt64.size then some n.toUInt64 else none := by
  have hread : read? base cs = some n := by
    cases cs with
    | nil => exact absurd rfl hcs
    | cons c cs =>
      have hc : c ≠ '+' := by
        rintro rfl
        exact absurd (hdigits '+' (by simp)) (by decide)
      rw [read?, h]
      · exact hcs
      · rintro heq
        exact hc (List.cons.inj heq).1
      · rintro cs' heq
        exact hc (List.cons.inj heq).1
  rw [readWord?, hread]
  rfl

lemma head?_toDigits_ne (hb : 1 < base) (hbase : base ≤ 16) (hn : 0 < n) :
    (Nat.toDigits base n).head? ≠ some '0' := by
  have hchar : ∀ d < 16, 0 < d → d.digitChar ≠ '0' := by decide
  induction n using Nat.strongRecOn with
  | ind n ih =>
    rw [Nat.toDigits_eq_if hb]
    split
    · simpa using hchar n (by omega) hn
    · rename_i hge
      rw [List.head?_append_of_ne_nil _ Nat.toDigits_ne_nil]
      exact ih _ (Nat.div_lt_self hn hb) (Nat.div_pos (by omega) (by omega))

/-- A word is read from its digits. -/
lemma readWord?_toDigits (hb : 1 < base) (hbase : base ≤ 16) (v : UInt64) :
    readWord? base (Nat.toDigits base v.toNat) = some v := by
  rw [readWord?_eq Nat.toDigits_ne_nil (fun _ => mem_digits_of_mem_toDigits hbase hb)
    (value?_toDigits hb hbase v.toNat), if_pos v.toNat_lt]
  simp

/-- Padding puts copies of one character before a text. -/
lemma toList_padLeft (width : ℕ) (s : String) :
    ∃ k, (padLeft width c s).toList = List.replicate k c ++ s.toList := by
  refine ⟨width - s.length, ?_⟩
  rw [padLeft, String.toList_append, String.pushn_eq_repeat_push]
  congr 1
  generalize width - s.length = k
  induction k with
  | zero => rfl
  | succ k ih => rw [Nat.repeat, String.toList_push, ih, List.replicate_succ']

@[simp] lemma toList_decimal (n : ℕ) : (decimal n).toList = Nat.toDigits 10 n :=
  String.toList_ofList

/-- A numeral before something that starts with no digit tells its number. -/
lemma eq_of_decimal_append_eq {i j : ℕ} {s t : String} (hs : ∀ c ∈ s.toList.head?, ¬ c.isDigit)
    (ht : ∀ c ∈ t.toList.head?, ¬ c.isDigit) (h : decimal i ++ s = decimal j ++ t) : i = j := by
  have htake (n : ℕ) {u : String} (hu : ∀ c ∈ u.toList.head?, ¬ c.isDigit) :
      (decimal n ++ u).toList.takeWhile Char.isDigit = Nat.toDigits 10 n := by
    have hrest : u.toList.takeWhile Char.isDigit = [] := by
      cases hchars : u.toList with
      | nil => rfl
      | cons c cs =>
        rw [hchars] at hu
        exact List.takeWhile_cons_of_neg (hu c rfl)
    rw [String.toList_append, toList_decimal, List.takeWhile_append_of_pos, hrest, List.append_nil]
    exact fun d hd => Nat.isDigit_of_mem_toDigits (by decide) (by decide) hd
  have hinjective : Function.Injective (Nat.toDigits 10) :=
    toDigits_injective (by decide) (by decide)
  exact hinjective ((htake i hs).symm.trans (h ▸ htake j ht))

@[simp] lemma toList_hex (n : ℕ) : (hex n).toList = Nat.toDigits 16 n := String.toList_ofList

end CsrMap.Numeral
