import CsrMap.Outcome
import CsrMap.Proofs.Files.Tree

/-!
What effects leave of a world, and what is read under a path.

The name of an export is the last name of its path, so exports of different names lie at different
places, and neither of them takes the place of the other.
-/

namespace CsrMap.Files

open CsrMap.Files.Tree CsrMap.Files.World

/-! ### The names of a path -/

section Names

variable {directory name : String}

lemma namesOf_append_slash (directory : String) (hname : '/' ∉ name.toList) :
    namesOf (directory ++ "/" ++ name) = namesOf directory ++ [name] := by
  have hchars : (directory ++ "/" ++ name).toList = directory.toList ++ '/' :: name.toList := by
    simp [String.toList_append]
  unfold namesOf
  rw [hchars, List.splitOn_append_cons_self, List.splitOn_eq_singleton hname, List.map_append,
    List.map_singleton, String.ofList_toList]

/-- The last name of the path of a file in a directory is that of the file. -/
lemma exists_namesOf_joinPath (directory : String) (hname : '/' ∉ name.toList) :
    ∃ front, namesOf (joinPath directory name) = front ++ [name] := by
  unfold joinPath
  split
  · rename_i hshort
    rcases (Bool.or_eq_true _ _).mp hshort with hempty | hslash
    · have hdirectory : directory = "" := by simpa using hempty
      refine ⟨[], ?_⟩
      rw [hdirectory, String.empty_append, namesOf, List.splitOn_eq_singleton hname,
        List.map_singleton, String.ofList_toList, List.nil_append]
    · rw [← String.endsWith_toSlice, String.Slice.endsWith_string_iff] at hslash
      obtain ⟨front, hfront⟩ := hslash
      have hdirectory : directory = String.ofList front ++ "/" := by
        rw [← String.toList_inj]
        simpa using hfront.symm
      rw [hdirectory]
      exact ⟨_, namesOf_append_slash _ hname⟩
  · exact ⟨_, namesOf_append_slash directory hname⟩

/-- What stands before the first slash of an absolute path is nothing. -/
lemma head?_namesOf_of_startsWith {path : String} (h : path.startsWith "/") :
    (namesOf path).head? = some "" := by
  obtain ⟨rest, hrest⟩ := String.startsWith_string_iff.1 h
  have hpath : path.toList = '/' :: rest := hrest.symm
  rw [namesOf, hpath, List.splitOn_cons_eq_if_modifyHead, if_pos (beq_self_eq_true '/')]
  rfl

lemma exists_start_joinPath (w : World) (directory : String) (hname : IsProper name) :
    ∃ here front, w.start (joinPath directory name) = (here, front ++ [name]) := by
  obtain ⟨front, hnames⟩ := exists_namesOf_joinPath directory hname.no_slash
  unfold start
  split
  · rename_i habsolute
    have hhead := head?_namesOf_of_startsWith habsolute
    rw [hnames] at hhead ⊢
    cases front with
    | nil =>
      simp only [List.nil_append, List.head?_cons, Option.some.injEq] at hhead
      exact absurd hhead hname.ne_empty
    | cons first front => exact ⟨_, front, rfl⟩
  · exact ⟨_, front, by rw [hnames]⟩

end Names

namespace World

variable {w w' : World} {path directory name : String} {place : Place} {content bytes : ByteArray}

/-! ### Places of paths -/

lemma locate_eq_ok_iff : w.locate path = .ok place ↔
    checkPath path = .ok () ∧ path.isEmpty = false ∧
      w.tree.walk (w.start path).1 (w.start path).2 = .ok place := by
  unfold locate
  cases checkPath path with
  | error e => simp [bind, Except.bind]
  | ok u =>
    simp only [bind, Except.bind]
    cases path.isEmpty <;> simp

/-- The names of the directory to create, without what is empty between slashes. -/
def directoryNames (w : World) (path : String) : List String :=
  (w.start path).2.filter (· ≠ "")

lemma createDirectories_eq (w : World) (hcheck : checkPath path = .ok ()) :
    w.createDirectories path =
      match w.tree.createAll (w.start path).1 (ascending (w.directoryNames path)) with
      | (outcome, tree) => (outcome, { w with tree := tree }) := by
  unfold createDirectories
  rw [hcheck]
  rfl

/-- A path that starts where the program is, and its names. -/
structure IsRelative (path : String) (names : List String) : Prop where
  no_null : '\x00' ∉ path.toList
  short : path.utf8ByteSize ≤ longestPath
  nonempty : path.isEmpty = false
  relative : path.startsWith "/" = false
  names : namesOf path = names

instance (path : String) (names : List String) : Decidable (IsRelative path names) :=
  decidable_of_iff ('\x00' ∉ path.toList ∧ path.utf8ByteSize ≤ longestPath ∧
      path.isEmpty = false ∧ path.startsWith "/" = false ∧ namesOf path = names)
    ⟨fun ⟨hnull, hshort, hempty, hrelative, hnames⟩ => ⟨hnull, hshort, hempty, hrelative, hnames⟩,
      fun h => ⟨h.no_null, h.short, h.nonempty, h.relative, h.names⟩⟩

namespace IsRelative

variable {names : List String} (h : IsRelative path names)

include h

lemma checkPath : checkPath path = .ok () := by
  have hnull : ¬ path.contains '\x00' := by simpa using h.no_null
  rw [World.checkPath, if_neg hnull, if_neg (Nat.not_lt.2 h.short)]

lemma start (w : World) : w.start path = (w.here, names) := by
  rw [World.start, h.relative, h.names]
  rfl

lemma locate (w : World) : w.locate path = w.tree.walk w.here names := by
  unfold World.locate
  rw [h.checkPath, h.nonempty, h.start]
  rfl

lemma createDirectories (w : World) : w.createDirectories path =
    match w.tree.createAll w.here (ascending (names.filter (· ≠ ""))) with
    | (outcome, tree) => (outcome, { w with tree := tree }) := by
  rw [w.createDirectories_eq h.checkPath, directoryNames, h.start]

end IsRelative

/-- A file in a directory lies at a place of its name. -/
lemma getLast?_of_locate (hname : IsProper name)
    (h : w.locate (joinPath directory name) = .ok place) : place.getLast? = some name := by
  obtain ⟨-, -, hwalk⟩ := locate_eq_ok_iff.1 h
  obtain ⟨here, front, hstart⟩ := exists_start_joinPath w directory hname
  rw [hstart] at hwalk
  exact getLast?_of_walk hname hwalk

/-- Files of different names lie at different places, whatever their directories. -/
lemma name_eq_of_locate {other last : String} (hname : IsProper name) (hlast : IsProper last)
    (h : w.locate (joinPath directory name) = .ok place)
    (h' : w.locate (joinPath other last) = .ok place) : name = last := by
  have hsame := getLast?_of_locate hname h
  rw [getLast?_of_locate hlast h'] at hsame
  exact (Option.some.inj hsame).symm

/-- A later world: relative paths start at the same place, and every directory is kept. -/
structure Follows (w w' : World) : Prop where
  here : w'.here = w.here
  directories : w.tree.KeepsDirectories w'.tree

lemma Follows.refl (w : World) : w.Follows w := ⟨rfl, fun _ h => h⟩

lemma Follows.trans {w'' : World} (h : w.Follows w') (h' : w'.Follows w'') : w.Follows w'' :=
  ⟨h'.here.trans h.here, h.directories.trans h'.directories⟩

/-- A path leads to the same place later. -/
lemma Follows.locate (h : w.Follows w') (hlocate : w.locate path = .ok place) :
    w'.locate path = .ok place := by
  obtain ⟨hcheck, hnonempty, hwalk⟩ := locate_eq_ok_iff.1 hlocate
  have hstart : w'.start path = w.start path := by
    unfold start
    rw [h.here]
  refine locate_eq_ok_iff.2 ⟨hcheck, hnonempty, ?_⟩
  rw [hstart]
  exact h.directories.walk hwalk

/-! ### Reading and writing -/

lemma readBytes_eq_ok_iff : w.readBytes path = .ok bytes ↔
    ∃ place, w.locate path = .ok place ∧ w.tree.get? place = some (.file bytes) := by
  unfold readBytes
  rw [bind_eq_ok_iff]
  constructor
  · rintro ⟨place, hplace, hread⟩
    refine ⟨place, hplace, ?_⟩
    split at hread
    · cases hread
    · cases hread
    · rename_i hfile
      cases hread
      exact hfile
  · rintro ⟨place, hplace, hfile⟩
    refine ⟨place, hplace, ?_⟩
    rw [hfile]

lemma replaceFile_eq_ok_iff : w.replaceFile path content = .ok w' ↔
    ∃ place, w.locate path = .ok place ∧ w.tree.get? place ≠ some .directory ∧
      w' = { w with tree := w.tree.put place (.file content) } := by
  unfold replaceFile
  rw [bind_eq_ok_iff]
  constructor
  · rintro ⟨place, hplace, hput⟩
    split at hput
    · cases hput
    · rename_i hfree
      cases hput
      exact ⟨place, hplace, hfree, rfl⟩
  · rintro ⟨place, hplace, hfree, rfl⟩
    refine ⟨place, hplace, ?_⟩
    split
    · rename_i hdirectory
      exact absurd hdirectory hfree
    · rfl

lemma replaceFile_of_directory (hplace : w.locate path = .ok place)
    (hdirectory : w.tree.get? place = some .directory) :
    w.replaceFile path content = .error .isDirectory := by
  unfold replaceFile
  rw [hplace]
  simp only [bind, Except.bind, hdirectory]

/-- A file that is written is read back, and no other place has changed. -/
lemma replaceFile_ok (h : w.replaceFile path content = .ok w') :
    w.Follows w' ∧ w'.readBytes path = .ok content ∧
      ∀ place, w.locate path ≠ .ok place → w'.tree.get? place = w.tree.get? place := by
  obtain ⟨place, hplace, hfree, rfl⟩ := replaceFile_eq_ok_iff.1 h
  have hfollows : w.Follows { w with tree := w.tree.put place (.file content) } :=
    ⟨rfl, keepsDirectories_put hfree _⟩
  refine ⟨hfollows, readBytes_eq_ok_iff.2 ⟨place, hfollows.locate hplace, ?_⟩, ?_⟩
  · exact get?_put_self _ (ne_nil_of_get?_ne hfree)
  · intro other hother
    refine get?_put_of_ne _ ?_
    rintro rfl
    exact hother hplace

/-- To write what a file holds already leaves the tree as it is. -/
lemma replaceFile_of_readBytes (h : w.readBytes path = .ok content) :
    ∃ w', w.replaceFile path content = .ok w' ∧ w'.here = w.here ∧ w.tree.Same w'.tree := by
  obtain ⟨place, hplace, hfile⟩ := readBytes_eq_ok_iff.1 h
  have hfree : w.tree.get? place ≠ some .directory := by
    rw [hfile]
    exact nofun
  exact ⟨_, replaceFile_eq_ok_iff.2 ⟨place, hplace, hfree, rfl⟩, rfl,
    same_put (ne_nil_of_get?_ne hfree) hfile⟩

/-- Where the tree has the same entries, the same is read. -/
lemma readBytes_of_same (hhere : w'.here = w.here) (hsame : w.tree.Same w'.tree)
    (h : w.readBytes path = .ok bytes) : w'.readBytes path = .ok bytes := by
  obtain ⟨place, hplace, hfile⟩ := readBytes_eq_ok_iff.1 h
  have hfollows : w.Follows w' := ⟨hhere, hsame.keepsDirectories⟩
  exact readBytes_eq_ok_iff.2 ⟨place, hfollows.locate hplace, (hsame place).symm.trans hfile⟩

/-! ### Temporary files -/

lemma run_attempt {α : Type} (change : World → Except FileError (α × World)) (w : World) :
    (attempt change).run w = match change w with
      | .ok (a, w') => (.ok a, w')
      | .error cause => (.error cause, w) := rfl

/-- A temporary file can be made in the directory. -/
def TakesTemporary (w : World) (directory : String) : Prop :=
  ∃ place, w.locate (temporaryPath directory) = .ok place

lemma Follows.takesTemporary (h : w.Follows w') (htakes : w.TakesTemporary directory) :
    w'.TakesTemporary directory := by
  obtain ⟨place, hplace⟩ := htakes
  exact ⟨place, h.locate hplace⟩

lemma createTemporary_eq_ok_iff {temporary : String} :
    w.createTemporary directory = .ok (temporary, w') ↔
      w.TakesTemporary directory ∧ temporary = temporaryPath directory ∧
        w' = w.addTemporary (temporaryPath directory) .empty := by
  unfold createTemporary TakesTemporary
  cases hlocate : w.locate (temporaryPath directory) with
  | error cause => simp [hlocate]
  | ok place => simp [hlocate, eq_comm]

lemma fillTemporary_eq_ok_iff {u : Unit} : w.fillTemporary path content = .ok (u, w') ↔
    ∃ start, w.temporary? path = some start ∧
      w' = (w.removeTemporary path).addTemporary path (start ++ content) := by
  unfold fillTemporary
  cases w.temporary? path with
  | none => simp
  | some start => simp [eq_comm]

lemma persistTemporary_eq_ok_iff {temporary : String} {u : Unit} :
    w.persistTemporary temporary path = .ok (u, w') ↔ ∃ content,
      w.temporary? temporary = some content ∧
        (w.removeTemporary temporary).replaceFile path content = .ok w' := by
  unfold persistTemporary
  cases w.temporary? temporary with
  | none => simp
  | some content =>
    cases hreplace : (w.removeTemporary temporary).replaceFile path content with
    | error cause => simp [hreplace, Except.map]
    | ok next => simp [hreplace, Except.map]

/-! ### Directories -/

lemma run_createDirectories (path : String) (w : World) :
    (MonadFiles.createDirectories path : StateM World _).run w = w.createDirectories path := rfl

/-- What is there is kept, and to create the directory again changes nothing. -/
lemma createDirectories_ok (h : w.createDirectories path = (.ok (), w')) :
    w'.here = w.here ∧ w.tree.StartOf w'.tree ∧
      ∀ later, w'.Follows later → later.createDirectories path = (.ok (), later) := by
  cases hcheck : checkPath path with
  | error e =>
    rw [createDirectories, hcheck] at h
    cases h
  | ok u =>
    rw [w.createDirectories_eq hcheck] at h
    rcases hall : w.tree.createAll (w.start path).1 (ascending (w.directoryNames path)) with
      ⟨outcome, tree⟩
    have hstart :=
      (addsDirectories_createAll w.tree (w.start path).1 (ascending (w.directoryNames path))).startOf
    rw [hall] at h hstart
    cases h
    refine ⟨rfl, hstart, fun later hlater => ?_⟩
    have hnames : later.start path = w.start path := by
      unfold start
      rw [hlater.here]
    have hleads := hlater.directories.leadsToDirectory (leadsToDirectory_of_createAll hall)
    rw [later.createDirectories_eq hcheck, directoryNames, hnames, ascending]
    have hkept := createAll_of_leadsToDirectory
      (pathsEnding (((w.directoryNames path).reverse.dropWhile (· = ".")).drop 1)) hleads
    rw [directoryNames] at hkept
    rw [hkept]

end World

end CsrMap.Files
