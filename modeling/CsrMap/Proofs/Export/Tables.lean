import CsrMap.Export.Document
import Mathlib.Data.List.Induction
import Mathlib.Data.List.Perm.Basic
import Mathlib.Data.String.Basic

/-!
Tables that lose no entry.

An insertion replaces an entry of the same key, so a table has all entries of a list only where
their keys are apart. The keys of a table ascend, and so do their UTF-8 bytes, which are in the
order of the characters.
-/

namespace CsrMap.Export

open scoped List

/-! ### The order of bytes -/

section Bytes

/-- A smaller character has smaller bytes, whatever follows the two. -/
lemma utf8EncodeChar_append_lt {c d : Char} (h : c < d) (xs ys : List UInt8) :
    String.utf8EncodeChar c ++ xs < String.utf8EncodeChar d ++ ys := by
  have hlt : c.val.toNat < d.val.toNat := h
  have hmax : d.val.toNat < 0x110000 := by
    rcases d.valid with hd | hd
    · exact hd.trans (by decide)
    · exact hd.2
  -- Each byte has six bits of the number, or what is left of it.
  have hdiv (n : ℕ) : n / 4096 = n / 64 / 64 ∧ n / 262144 = n / 64 / 64 / 64 := by omega
  unfold String.utf8EncodeChar
  simp only [hdiv]
  split_ifs <;> simp only [List.cons_append, List.nil_append, List.cons_lt_cons_iff,
    UInt8.lt_iff_toNat_lt, ← UInt8.toNat_inj, UInt8.toNat_ofNat'] <;> omega

/-- The bytes of a text in UTF-8. -/
def utf8Bytes (s : String) : List UInt8 := s.toUTF8.data.toList

lemma utf8Bytes_eq (s : String) : utf8Bytes s = s.toList.flatMap String.utf8EncodeChar := by
  have hbytes : s.toUTF8 = (s.toList.flatMap String.utf8EncodeChar).toByteArray :=
    String.utf8Encode_toList.symm
  rw [utf8Bytes, hbytes, List.data_toByteArray]

/-- Texts have the order of their bytes. -/
theorem utf8Bytes_lt {s t : String} (h : s < t) : utf8Bytes s < utf8Bytes t := by
  rw [utf8Bytes_eq, utf8Bytes_eq]
  have hlex : s.toList < t.toList := h
  generalize s.toList = cs at hlex
  generalize t.toList = ds at hlex
  induction hlex with
  | @nil d ds =>
    rw [List.flatMap_nil, List.flatMap_cons]
    cases hd : String.utf8EncodeChar d with
    | nil => exact absurd hd String.utf8EncodeChar_ne_nil
    | cons b bs => exact List.Lex.nil
  | cons _ ih =>
    rw [List.flatMap_cons, List.flatMap_cons]
    exact List.append_left_lt ih
  | rel hchar =>
    rw [List.flatMap_cons, List.flatMap_cons]
    exact utf8EncodeChar_append_lt hchar _ _

end Bytes

namespace Table

variable {α : Type} {key : String} {value : α} {table : Table α}

/-! ### Insertion -/

lemma insert_perm (h : key ∉ table.map Prod.fst) :
    table.insert key value ~ (key, value) :: table := by
  fun_induction insert key value table with
  | case1 => exact .refl _
  | case2 => exact .refl _
  | case3 => simp at h
  | case4 k v entries hlt hne ih =>
    have hnot : key ∉ entries.map Prod.fst := fun hmem => h (by simp [hmem])
    exact ((ih hnot).cons (k, v)).trans (.swap _ _ _)

/-- Keys ascend, each stands for one entry. -/
def Ascending (table : Table α) : Prop := table.Pairwise fun x y => x.1 < y.1

lemma mem_insert {x : String × α} (h : x ∈ table.insert key value) :
    x.1 = key ∨ x ∈ table := by
  fun_induction insert key value table with
  | case1 => simp_all
  | case2 k v entries hlt =>
    rcases List.mem_cons.1 h with rfl | h
    · exact .inl rfl
    · exact .inr h
  | case3 v entries hlt =>
    rcases List.mem_cons.1 h with rfl | h
    · exact .inl rfl
    · exact .inr (List.mem_cons_of_mem _ h)
  | case4 k v entries hlt hne ih =>
    rcases List.mem_cons.1 h with rfl | h
    · exact .inr List.mem_cons_self
    · exact (ih h).imp_right (List.mem_cons_of_mem _)

lemma ascending_insert (h : table.Ascending) (key : String) (value : α) :
    (table.insert key value).Ascending := by
  fun_induction insert key value table with
  | case1 => exact List.pairwise_singleton _ _
  | case2 k v entries hlt =>
    have hall (x : String × α) : x ∈ entries → k < x.1 := List.rel_of_pairwise_cons h
    refine List.pairwise_cons.2 ⟨fun x hx => ?_, h⟩
    rcases List.mem_cons.1 hx with rfl | hx
    · exact hlt
    · exact hlt.trans (hall x hx)
  | case3 v entries hlt =>
    exact List.pairwise_cons.2 ⟨fun x => List.rel_of_pairwise_cons h, h.of_cons⟩
  | case4 k v entries hlt hne ih =>
    have hall (x : String × α) : x ∈ entries → k < x.1 := List.rel_of_pairwise_cons h
    refine List.pairwise_cons.2 ⟨fun x hx => ?_, ih h.of_cons⟩
    rcases mem_insert hx with hx | hx
    · exact hx ▸ lt_of_le_of_ne (not_lt.1 hlt) (Ne.symm hne)
    · exact hall x hx

/-! ### Tables of lists -/

lemma ofList_append (entries : List (String × α)) (key : String) (value : α) :
    ofList (entries ++ [(key, value)]) = (ofList entries).insert key value := by
  rw [ofList, List.foldl_append]
  rfl

theorem ascending_ofList (entries : List (String × α)) : (ofList entries).Ascending := by
  induction entries using List.reverseRecOn with
  | nil => exact List.Pairwise.nil
  | append_singleton entries x ih =>
    rw [ofList_append]
    exact ascending_insert ih _ _

/-- **A table loses no entry** of a list whose keys are apart. -/
theorem ofList_perm {entries : List (String × α)} (h : (entries.map Prod.fst).Nodup) :
    ofList entries ~ entries := by
  induction entries using List.reverseRecOn with
  | nil => exact .refl _
  | append_singleton entries x ih =>
    rw [List.map_append, List.nodup_append] at h
    obtain ⟨hnodup, -, hapart⟩ := h
    have hperm := ih hnodup
    have hnew : x.1 ∉ (ofList entries).map Prod.fst := fun hmem =>
      hapart x.1 ((hperm.map _).mem_iff.1 hmem) x.1 (by simp) rfl
    rw [ofList_append]
    calc (ofList entries).insert x.1 x.2
        ~ x :: ofList entries := insert_perm hnew
      _ ~ x :: entries := hperm.cons x
      _ ~ entries ++ [x] := (List.perm_append_singleton x entries).symm

end Table

end CsrMap.Export
