import CsrMap.Proofs.Files.World

/-!
File systems that show as a world.

An effect may fail for reasons that no world knows of, such as a disk that is full. What is asked of
a file system is what its effects leave. To read, to print, to report, and to make, fill or remove a
temporary file change no other file and no directory; directories are only added, whether or not all
of them can be. Only to persist a temporary file is taken to be done as a whole or not at all.
-/

namespace CsrMap.Files

open CsrMap.Files.Tree CsrMap.Files.World

namespace World

variable {w w' u : World} {path : String} {place : Place}

/-- No file and no directory is created, changed or removed. -/
structure Unchanged (w w' : World) : Prop where
  here : w'.here = w.here
  tree : w.tree.Same w'.tree

/-- Nothing is different but for new directories. -/
structure GainsDirectories (w w' : World) : Prop where
  here : w'.here = w.here
  tree : w.tree.AddsDirectories w'.tree

lemma Unchanged.refl (w : World) : w.Unchanged w := ⟨rfl, fun _ => rfl⟩

lemma Unchanged.trans (h : w.Unchanged w') (h' : w'.Unchanged u) : w.Unchanged u :=
  ⟨h'.here.trans h.here, fun place => (h.tree place).trans (h'.tree place)⟩

lemma Unchanged.symm (h : w.Unchanged w') : w'.Unchanged w :=
  ⟨h.here.symm, fun place => (h.tree place).symm⟩

lemma Unchanged.follows (h : w.Unchanged w') : w.Follows w' := ⟨h.here, h.tree.keepsDirectories⟩

lemma Unchanged.gainsDirectories (h : w.Unchanged w') : w.GainsDirectories w' :=
  ⟨h.here, h.tree.addsDirectories⟩

lemma GainsDirectories.trans (h : w.GainsDirectories w') (h' : w'.GainsDirectories u) :
    w.GainsDirectories u :=
  ⟨h'.here.trans h.here, h.tree.trans h'.tree⟩

lemma GainsDirectories.follows (h : w.GainsDirectories w') : w.Follows w' :=
  ⟨h.here, h.tree.startOf.keepsDirectories⟩

/-- To create directories adds nothing else, also where it fails. -/
lemma gainsDirectories_createDirectories (w : World) (path : String) :
    w.GainsDirectories (w.createDirectories path).2 := by
  cases hcheck : checkPath path with
  | error e =>
    rw [createDirectories, hcheck]
    exact (Unchanged.refl w).gainsDirectories
  | ok u =>
    rw [w.createDirectories_eq hcheck]
    exact ⟨rfl, addsDirectories_createAll _ _ _⟩

lemma run_attempt_eq_ok_iff {α : Type} {change : World → Except FileError (α × World)} {a : α} :
    (attempt change).run w = (.ok a, w') ↔ change w = .ok (a, w') := by
  rw [run_attempt]
  rcases change w with cause | ⟨b, next⟩
  · constructor <;> rintro ⟨⟩
  · constructor <;> rintro ⟨⟩ <;> rfl

/-- What fails leaves the world as it is. -/
lemma eq_of_run_attempt_error {α : Type} {change : World → Except FileError (α × World)}
    {cause : FileError} (h : (attempt change).run w = (.error cause, w')) : w' = w := by
  rw [run_attempt] at h
  split at h <;> cases h
  rfl

lemma unchanged_attempt {α : Type} {change : World → Except FileError (α × World)}
    (h : ∀ a w', change w = .ok (a, w') → w.Unchanged w') :
    w.Unchanged ((attempt change).run w).2 := by
  rcases hrun : (attempt change).run w with ⟨cause | a, w'⟩
  · rw [eq_of_run_attempt_error hrun]
    exact .refl w
  · exact h a w' (run_attempt_eq_ok_iff.1 hrun)

/-- To persist a temporary file is to replace the file at the path. -/
lemma replaceFile_of_persistTemporary {temporary : String} {u : Unit}
    (h : w.persistTemporary temporary path = .ok (u, w')) : ∃ content w₁,
      w.temporary? temporary = some content ∧ w.replaceFile path content = .ok w₁ ∧
        w₁.Unchanged w' := by
  obtain ⟨content, hcontent, hreplace⟩ := persistTemporary_eq_ok_iff.1 h
  obtain ⟨place, hplace, hfree, rfl⟩ := replaceFile_eq_ok_iff.1 hreplace
  exact ⟨content, _, hcontent, replaceFile_eq_ok_iff.2 ⟨place, hplace, hfree, rfl⟩, rfl,
    fun _ => rfl⟩

end World

section

variable {σ : Type} [MonadFiles (StateM σ)]

/-- The effects leave of the world that the file system shows what they leave of a world. -/
structure Faithful (worldOf : σ → World) : Prop where
  readBytes (path : String) (s : σ) : (worldOf s).Unchanged
    (worldOf ((MonadFiles.readBytes path : StateM σ _).run s).2)
  createDirectories (path : String) (s : σ) : (worldOf s).GainsDirectories
    (worldOf ((MonadFiles.createDirectories path : StateM σ _).run s).2)
  createTemporary (directory : String) (s : σ) : (worldOf s).Unchanged
    (worldOf ((MonadFiles.createTemporary directory : StateM σ _).run s).2)
  createTemporary_ok (directory temporary : String) (s s' : σ) :
    (MonadFiles.createTemporary directory : StateM σ _).run s = (.ok temporary, s') →
      (worldOf s').temporary? temporary = some .empty
  fillTemporary (temporary : String) (content : ByteArray) (s : σ) : (worldOf s).Unchanged
    (worldOf ((MonadFiles.fillTemporary temporary content : StateM σ _).run s).2)
  fillTemporary_ok (temporary : String) (content start : ByteArray) (s s' : σ) :
    (worldOf s).temporary? temporary = some start →
    (MonadFiles.fillTemporary temporary content : StateM σ _).run s = (.ok (), s') →
      (worldOf s').temporary? temporary = some (start ++ content)
  persistTemporary_ok (temporary path : String) (content : ByteArray) (s s' : σ) :
    (worldOf s).temporary? temporary = some content →
    (MonadFiles.persistTemporary temporary path : StateM σ _).run s = (.ok (), s') →
      ∃ w, (worldOf s).replaceFile path content = .ok w ∧ w.Unchanged (worldOf s')
  persistTemporary_error (temporary path : String) (cause : FileError) (s s' : σ) :
    (MonadFiles.persistTemporary temporary path : StateM σ _).run s = (.error cause, s') →
      (worldOf s).Unchanged (worldOf s')
  removeTemporary (temporary : String) (s : σ) : (worldOf s).Unchanged
    (worldOf ((MonadFiles.removeTemporary temporary : StateM σ _).run s).2)
  print (text : String) (s : σ) : (worldOf s).Unchanged
    (worldOf ((MonadFiles.print text : StateM σ _).run s).2)
  report (e : Event) (s : σ) : (worldOf s).Unchanged
    (worldOf ((MonadFiles.report e : StateM σ _).run s).2)

end

/-- A world shows as itself. -/
lemma faithful_world : Faithful (id : World → World) where
  readBytes _ s := .refl s
  createDirectories path s := gainsDirectories_createDirectories s path
  createTemporary directory s := by
    refine unchanged_attempt fun temporary w' h => ?_
    obtain ⟨-, -, rfl⟩ := createTemporary_eq_ok_iff.1 h
    exact ⟨rfl, fun _ => rfl⟩
  createTemporary_ok directory temporary s s' h := by
    obtain ⟨-, rfl, rfl⟩ := createTemporary_eq_ok_iff.1 (run_attempt_eq_ok_iff.1 h)
    exact temporary?_addTemporary _ _ _
  fillTemporary temporary content s := by
    refine unchanged_attempt fun _ w' h => ?_
    obtain ⟨start, -, rfl⟩ := fillTemporary_eq_ok_iff.1 h
    exact ⟨rfl, fun _ => rfl⟩
  fillTemporary_ok temporary content start s s' hstart h := by
    obtain ⟨held, hheld, rfl⟩ := fillTemporary_eq_ok_iff.1 (run_attempt_eq_ok_iff.1 h)
    rw [id, hheld] at hstart
    cases hstart
    exact temporary?_addTemporary _ _ _
  persistTemporary_ok temporary path content s s' hcontent h := by
    obtain ⟨held, w, hheld, hreplace, hunchanged⟩ :=
      replaceFile_of_persistTemporary (run_attempt_eq_ok_iff.1 h)
    rw [id, hheld] at hcontent
    cases hcontent
    exact ⟨w, hreplace, hunchanged⟩
  persistTemporary_error temporary path cause s s' h := by
    rw [id, id, eq_of_run_attempt_error h]
    exact .refl s
  removeTemporary _ _ := ⟨rfl, fun _ => rfl⟩
  print _ _ := ⟨rfl, fun _ => rfl⟩
  report _ _ := ⟨rfl, fun _ => rfl⟩

end CsrMap.Files
