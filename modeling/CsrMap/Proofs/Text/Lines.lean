import CsrMap.Text.Blank
import Mathlib.Tactic.Common

/-!
The lines of a text that is put together from lines.

A line has no line feed, and no carriage return at its end, which would be taken for a part of the
line break. Such lines come back from their text as they are.
-/

namespace CsrMap.Text

variable {s t : String} {c : Char} {cs : List Char} {ls : List String}

/-- The text has no line feed. -/
def Unbroken (s : String) : Prop := '\n' ∉ s.toList

/-- The text can stand as one line between others. -/
structure IsLine (s : String) : Prop where
  unbroken : Unbroken s
  last : s.toList.getLast? ≠ some '\r'

instance (s : String) : Decidable (Unbroken s) :=
  inferInstanceAs (Decidable (¬ '\n' ∈ s.toList))

@[simp] lemma unbroken_append : Unbroken (s ++ t) ↔ Unbroken s ∧ Unbroken t := by
  simp [Unbroken, not_or]

lemma unbroken_intercalate (ht : Unbroken t) (h : ∀ s ∈ ls, Unbroken s) :
    Unbroken (t.intercalate ls) := by
  induction ls with
  | nil => simp [Unbroken]
  | cons s ls ih =>
    have hs := h s (by simp)
    have hls : ∀ s ∈ ls, Unbroken s := fun s hs => h s (by simp [hs])
    cases ls with
    | nil => simpa using hs
    | cons s' ls =>
      rw [String.intercalate_cons_cons, unbroken_append, unbroken_append]
      exact ⟨⟨hs, ht⟩, ih hls⟩

/-- What ends a line decides what may not stand at its end. -/
lemma Unbroken.append_isLine (hs : Unbroken s) (ht : IsLine t) (hne : t.toList ≠ []) :
    IsLine (s ++ t) := by
  refine ⟨unbroken_append.2 ⟨hs, ht.unbroken⟩, ?_⟩
  obtain ⟨c, hc⟩ := Option.isSome_iff_exists.1 (List.getLast?_isSome.2 hne)
  have hlast := ht.last
  rw [hc] at hlast
  rw [String.toList_append, List.getLast?_append, hc]
  exact hlast

lemma IsLine.append (hs : IsLine s) (ht : IsLine t) : IsLine (s ++ t) := by
  refine ⟨unbroken_append.2 ⟨hs.unbroken, ht.unbroken⟩, fun hlast => ?_⟩
  rw [String.toList_append, List.getLast?_append, Option.or_eq_some_iff] at hlast
  rcases hlast with hlast | ⟨-, hlast⟩
  · exact ht.last hlast
  · exact hs.last hlast

/-! ### Cutting at a character -/

section Cutting

variable {p : Char → Bool}

lemma takeWhile_eq_nil_of_head (h : ∀ c, cs.head? = some c → p c = false) :
    cs.takeWhile p = [] := by
  cases cs with
  | nil => rfl
  | cons c cs => exact List.takeWhile_cons_of_neg (by simp [h c rfl])

lemma dropWhile_eq_self_of_head (h : ∀ c, cs.head? = some c → p c = false) :
    cs.dropWhile p = cs := by
  cases cs with
  | nil => rfl
  | cons c cs => exact List.dropWhile_cons_of_neg (by simp [h c rfl])

/-- A text is cut before the first character that does not belong to its front. -/
lemma cut_append {front rest : List Char} (hfront : ∀ c ∈ front, p c)
    (hrest : ∀ c, rest.head? = some c → p c = false) :
    (front ++ rest).takeWhile p = front ∧ (front ++ rest).dropWhile p = rest := by
  rw [List.takeWhile_append_of_pos hfront, List.dropWhile_append_of_pos hfront,
    takeWhile_eq_nil_of_head hrest, dropWhile_eq_self_of_head hrest, List.append_nil]
  exact ⟨rfl, rfl⟩

end Cutting

/-! ### Cutting at line feeds -/

lemma linesOf_cons (hc : c ≠ '\n') (hr : c = '\r' → cs.head? ≠ some '\n') :
    linesOf (c :: cs) = match linesOf cs with
      | [] => [[c]]
      | line :: lines => (c :: line) :: lines := by
  conv_lhs => unfold linesOf
  split
  · rename_i heq
    cases heq
  · rename_i heq
    exact absurd (List.cons.inj heq).1 hc
  · rename_i heq
    obtain ⟨hcr, hcs⟩ := List.cons.inj heq
    exact absurd (by rw [hcs]; rfl) (hr hcr)
  · rename_i heq
    obtain ⟨rfl, rfl⟩ := List.cons.inj heq
    rfl

/-- A line stands first where a line feed follows it. -/
lemma linesOf_append (h : '\n' ∉ cs) (hr : cs.getLast? ≠ some '\r') (rest : List Char) :
    linesOf (cs ++ '\n' :: rest) = cs :: linesOf rest := by
  induction cs with
  | nil => rfl
  | cons c cs ih =>
    obtain ⟨hc, hcs⟩ := not_or.1 fun hmem => h (List.mem_cons.2 hmem)
    have hlast : cs.getLast? ≠ some '\r' := by
      cases cs with
      | nil => simp
      | cons d cs => rwa [List.getLast?_cons_cons] at hr
    have hhead : c = '\r' → (cs ++ '\n' :: rest).head? ≠ some '\n' := by
      rintro rfl
      cases cs with
      | nil => simp at hr
      | cons d cs =>
        intro hd
        exact hcs (by simp [Option.some.inj hd])
    rw [List.cons_append, linesOf_cons (Ne.symm hc) hhead, ih hcs hlast]

lemma linesOf_ne_nil (h : cs ≠ []) : linesOf cs ≠ [] := by
  fun_cases linesOf cs with
  | case1 => exact absurd rfl h
  | case2 | case3 | case4 | case5 => simp_all

/-- The lines after a line feed do not depend on what stands before it. -/
lemma linesOf_append_lineFeed (cs rest : List Char) :
    linesOf (cs ++ '\n' :: rest) = linesOf (cs ++ ['\n']) ++ linesOf rest := by
  induction cs with
  | nil => rfl
  | cons c cs ih =>
    rcases eq_or_ne c '\n' with rfl | hc
    · exact congrArg ([] :: ·) ih
    by_cases hr : c = '\r' → (cs ++ ['\n']).head? ≠ some '\n'
    · have hhead : (cs ++ '\n' :: rest).head? = (cs ++ ['\n']).head? := by cases cs <;> rfl
      have hne : linesOf (cs ++ ['\n']) ≠ [] := linesOf_ne_nil (by simp)
      rw [List.cons_append, List.cons_append, linesOf_cons hc hr, linesOf_cons hc (hhead ▸ hr), ih]
      cases h : linesOf (cs ++ ['\n']) with
      | nil => exact absurd h hne
      | cons line later => rfl
    · -- The carriage return belongs to a line break.
      obtain ⟨rfl, hfeed⟩ : c = '\r' ∧ (cs ++ ['\n']).head? = some '\n' := by simpa using hr
      cases cs with
      | nil => rfl
      | cons d cs =>
        obtain rfl : d = '\n' := by simpa using hfeed
        exact ih

@[simp] lemma unlines_append (ls ms : List String) :
    unlines (ls ++ ms) = unlines ls ++ unlines ms := by
  induction ls with
  | nil => simp
  | cons l ls ih => simp only [List.cons_append, unlines_cons, ih, String.append_assoc]

/-- Whole lines and the text after them have their lines apart. -/
lemma lines_unlines_append (ls : List String) (t : String) :
    lines (unlines ls ++ t) = lines (unlines ls) ++ lines t := by
  induction ls with
  | nil =>
    rw [unlines_nil, String.empty_append]
    rfl
  | cons l ls ih =>
    have hfirst (u : String) : lines (l ++ "\n" ++ u)
        = (linesOf (l.toList ++ ['\n'])).map String.ofList ++ lines u := by
      simp only [lines, String.toList_append, List.append_assoc, ← List.map_append]
      exact congrArg _ (linesOf_append_lineFeed l.toList u.toList)
    rw [unlines_cons, String.append_assoc, hfirst, hfirst, ih, List.append_assoc]

/-- **Lines come back from their text** in their order. -/
theorem lines_unlines (h : ∀ l ∈ ls, IsLine l) : lines (unlines ls) = ls := by
  induction ls with
  | nil => rfl
  | cons l ls ih =>
    have hl := h l (by simp)
    have htext : (unlines (l :: ls)).toList = l.toList ++ '\n' :: (unlines ls).toList := by
      simp
    have ih := ih fun l hl => h l (by simp [hl])
    rw [lines] at ih ⊢
    rw [htext, linesOf_append hl.unbroken hl.last, List.map_cons, ih, String.ofList_toList]

/-- No line of a text has a line feed. -/
lemma unbroken_of_mem_lines (h : s ∈ lines t) : Unbroken s := by
  have hlines (cs : List Char) : ∀ line ∈ linesOf cs, '\n' ∉ line := by
    fun_induction linesOf cs with
    | case1 => simp
    | case2 rest ih => simpa using ih
    | case3 rest ih => simpa using ih
    | case4 c rest hc _ hnil ih => simpa using Ne.symm hc
    | case5 c rest hc _ line later heq ih =>
      rw [heq] at ih
      simp only [List.mem_cons, forall_eq_or_imp] at ih ⊢
      exact ⟨not_or.2 ⟨Ne.symm hc, ih.1⟩, ih.2⟩
  obtain ⟨line, hline, rfl⟩ := List.mem_map.1 h
  rw [Unbroken, String.toList_ofList]
  exact hlines _ line hline

/-! ### Trimming -/

lemma isPrefix_trimEnd (s : String) : (trimEnd s).toList <+: s.toList := by
  rw [trimEnd, String.toList_ofList, dropBlanksEnd, ← List.reverse_suffix, List.reverse_reverse]
  exact List.dropWhile_suffix _

/-- Trimming makes a line of a text without line feeds. -/
lemma isLine_trimEnd (h : Unbroken s) : IsLine (trimEnd s) := by
  refine ⟨fun hmem => h ((isPrefix_trimEnd s).subset hmem), ?_⟩
  rw [trimEnd, String.toList_ofList, dropBlanksEnd, List.getLast?_reverse]
  intro hlast
  have hblank := List.head?_dropWhile_not isBlank s.toList.reverse
  rw [hlast] at hblank
  simp [isBlank] at hblank

end CsrMap.Text
