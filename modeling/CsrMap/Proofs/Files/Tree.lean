import CsrMap.Files.Tree
import Mathlib.Data.List.Basic
import Mathlib.Tactic.Common

/-!
What effects leave of a tree of files and directories.

Directories are created where nothing is, and files are put where no directory is. So every
directory stays, and a path that leads to a place leads there for good. What is read under a path
changes only where a file is put at that place.
-/

namespace CsrMap.Files

namespace Tree

variable {t t' u : Tree} {here place : Place} {name : String} {names front back : List String}
  {entry : Entry}

/-- Every directory of `t` is a directory of `t'`. -/
def KeepsDirectories (t t' : Tree) : Prop :=
  ∀ place, t.get? place = some .directory → t'.get? place = some .directory

/-- Every entry of `t` stands in `t'`. -/
def StartOf (t t' : Tree) : Prop := ∀ place entry, t.get? place = some entry →
  t'.get? place = some entry

/-- The trees have the same entries at the same places. -/
def Same (t t' : Tree) : Prop := ∀ place, t.get? place = t'.get? place

/-- The trees have the same entries but for directories of `t'` where `t` has nothing. -/
def AddsDirectories (t t' : Tree) : Prop := ∀ place, t'.get? place = t.get? place ∨
  t.get? place = none ∧ t'.get? place = some .directory

/-- The bytes of the file at a place, if one is there. -/
def content? (t : Tree) (place : Place) : Option ByteArray :=
  match t.get? place with
  | some (.file content) => some content
  | _ => none

lemma KeepsDirectories.trans (h : t.KeepsDirectories t') (h' : t'.KeepsDirectories u) :
    t.KeepsDirectories u := fun place hplace => h' place (h place hplace)

lemma StartOf.keepsDirectories (h : t.StartOf t') : t.KeepsDirectories t' :=
  fun place => h place .directory

lemma Same.keepsDirectories (h : t.Same t') : t.KeepsDirectories t' :=
  fun place hplace => (h place).symm.trans hplace

lemma Same.addsDirectories (h : t.Same t') : t.AddsDirectories t' :=
  fun place => .inl (h place).symm

lemma AddsDirectories.startOf (h : t.AddsDirectories t') : t.StartOf t' := by
  intro place entry hentry
  rcases h place with heq | ⟨hnone, -⟩
  · exact heq.trans hentry
  · rw [hnone] at hentry
    cases hentry

lemma AddsDirectories.trans (h : t.AddsDirectories t') (h' : t'.AddsDirectories u) :
    t.AddsDirectories u := by
  intro place
  rcases h' place with heq | ⟨hnone, hdirectory⟩
  · rw [heq]
    exact h place
  · rcases h place with heq | ⟨-, hdirectory'⟩
    · exact .inr ⟨heq.symm.trans hnone, hdirectory⟩
    · rw [hnone] at hdirectory'
      cases hdirectory'

/-- New directories hold no bytes. -/
lemma AddsDirectories.content?_eq (h : t.AddsDirectories t') (place : Place) :
    t'.content? place = t.content? place := by
  unfold content?
  rcases h place with heq | ⟨hnone, hdirectory⟩
  · rw [heq]
  · rw [hnone, hdirectory]

lemma isDirectory_iff : t.isDirectory place ↔ t.get? place = some .directory := by
  unfold isDirectory
  split
  · rename_i h
    exact iff_of_true rfl h
  · rename_i h
    exact iff_of_false nofun h

/-! ### Walks -/

/-- The place to which a name leads from a directory. -/
def enter? (here : Place) (name : String) : Option Place :=
  if name = "" ∨ name = "." then some here
  else if name = ".." then some here.dropLast
  else if longestName < name.utf8ByteSize then none
  else some (here ++ [name])

/-- A walk goes on from a directory to where the next name leads. -/
lemma walk_cons_eq_ok_iff : t.walk here (name :: names) = .ok place ↔
    t.get? here = some .directory ∧
      ∃ next, enter? here name = some next ∧ t.walk next names = .ok place := by
  rw [walk]
  split
  · rename_i hnone
    simp [hnone]
  · rename_i hfile
    simp [hfile]
  · rename_i hdirectory
    unfold enter?
    split_ifs <;> simp [hdirectory]

/-- A walk stays where it leads while directories are kept. -/
lemma KeepsDirectories.walk (h : t.KeepsDirectories t') (hwalk : t.walk here names = .ok place) :
    t'.walk here names = .ok place := by
  induction names generalizing here with
  | nil => exact hwalk
  | cons name names ih =>
    obtain ⟨hhere, next, hnext, hrest⟩ := walk_cons_eq_ok_iff.1 hwalk
    exact walk_cons_eq_ok_iff.2 ⟨h here hhere, next, hnext, ih hrest⟩

/-- The name of an entry, not one of those that lead nowhere new. -/
structure IsProper (name : String) : Prop where
  ne_empty : name ≠ ""
  ne_dot : name ≠ "."
  ne_dots : name ≠ ".."
  no_slash : '/' ∉ name.toList

/-- A walk that ends with the name of an entry leads to a place of that name. -/
lemma getLast?_of_walk (hname : IsProper name)
    (hwalk : t.walk here (front ++ [name]) = .ok place) : place.getLast? = some name := by
  induction front generalizing here with
  | nil =>
    obtain ⟨-, next, hnext, hrest⟩ := walk_cons_eq_ok_iff.1 hwalk
    rw [enter?, if_neg (by simp [hname.ne_empty, hname.ne_dot]), if_neg hname.ne_dots] at hnext
    split at hnext
    · cases hnext
    · cases hnext
      cases hrest
      exact List.getLast?_concat
  | cons first front ih =>
    obtain ⟨-, next, -, hrest⟩ := walk_cons_eq_ok_iff.1 hwalk
    exact ih hrest

/-! ### New entries -/

lemma ne_nil_of_get?_ne (h : t.get? place ≠ some .directory) : place ≠ [] := by
  rintro rfl
  exact h rfl

lemma addsDirectories_put (h : t.get? place = none) :
    t.AddsDirectories (t.put place .directory) := by
  intro other
  by_cases heq : other = place
  · subst heq
    have hfree : t.get? other ≠ some .directory := by
      rw [h]
      exact nofun
    exact .inr ⟨h, get?_put_self .directory (ne_nil_of_get?_ne hfree)⟩
  · exact .inl (get?_put_of_ne .directory heq)

/-- A file takes the place of no directory. -/
lemma keepsDirectories_put (h : t.get? place ≠ some .directory) (entry : Entry) :
    t.KeepsDirectories (t.put place entry) := by
  intro other hother
  have hne : other ≠ place := by
    rintro rfl
    exact h hother
  rw [get?_put_of_ne entry hne, hother]

/-- To put an entry where it is already changes nothing. -/
lemma same_put (hplace : place ≠ []) (h : t.get? place = some entry) :
    t.Same (t.put place entry) := by
  intro other
  by_cases heq : other = place
  · subst heq
    rw [h, get?_put_self entry hplace]
  · rw [get?_put_of_ne entry heq]

lemma createDirectory_eq_ok_iff : t.createDirectory here names = .ok t' ↔
    ∃ place, t.walk here names = .ok place ∧ t.get? place = none ∧ t' = t.put place .directory := by
  unfold createDirectory
  cases hwalk : t.walk here names with
  | error e =>
    constructor
    · rintro h
      cases h
    · rintro ⟨place, h, -⟩
      cases h
  | ok place =>
    simp only [bind, Except.bind, Except.ok.injEq, exists_eq_left']
    cases t.get? place <;> simp [eq_comm]

lemma leadsToDirectory_iff : t.leadsToDirectory here names ↔
    ∃ place, t.walk here names = .ok place ∧ t.get? place = some .directory := by
  unfold leadsToDirectory
  cases t.walk here names with
  | error e => simp
  | ok place => simp [isDirectory_iff]

lemma KeepsDirectories.leadsToDirectory (h : t.KeepsDirectories t')
    (hleads : t.leadsToDirectory here names) : t'.leadsToDirectory here names := by
  obtain ⟨place, hwalk, hplace⟩ := leadsToDirectory_iff.1 hleads
  exact leadsToDirectory_iff.2 ⟨place, h.walk hwalk, h place hplace⟩

/-- A new directory is there, and nothing else has changed. -/
lemma createDirectory_ok (h : t.createDirectory here names = .ok t') :
    t.AddsDirectories t' ∧ t'.leadsToDirectory here names := by
  obtain ⟨place, hwalk, hnone, rfl⟩ := createDirectory_eq_ok_iff.1 h
  have hadds := addsDirectories_put hnone
  have hplace : place ≠ [] := ne_nil_of_get?_ne (by rw [hnone]; exact nofun)
  refine ⟨hadds, leadsToDirectory_iff.2 ⟨place, ?_, get?_put_self .directory hplace⟩⟩
  exact hadds.startOf.keepsDirectories.walk hwalk

/-- Directories are only added, whether or not all can be created. -/
lemma addsDirectories_createAll (t : Tree) (here : Place) (paths : List (List String)) :
    t.AddsDirectories (t.createAll here paths).2 := by
  induction paths generalizing t with
  | nil => exact fun _ => .inl rfl
  | cons names above ih =>
    unfold createAll
    split
    · rename_i h
      exact (createDirectory_ok h).1
    · have habove := ih t
      split
      · rename_i h
        rwa [h] at habove
      · rename_i h
        rw [h] at habove
        split
        · rename_i hcreated
          exact habove.trans (createDirectory_ok hcreated).1
        · exact habove
    · exact fun _ => .inl rfl

/-- Where all directories can be created, the path leads to one. -/
lemma leadsToDirectory_of_createAll {above : List (List String)}
    (h : t.createAll here (names :: above) = (.ok (), t')) : t'.leadsToDirectory here names := by
  unfold createAll at h
  split at h
  · rename_i hcreated
    cases h
    exact (createDirectory_ok hcreated).2
  · split at h
    · cases h
    · split at h
      · rename_i hcreated
        cases h
        exact (createDirectory_ok hcreated).2
      · split at h
        · rename_i hleads
          cases h
          exact hleads
        · cases h
  · split at h
    · rename_i hleads
      cases h
      exact hleads
    · cases h

/-- Nothing is created where the path leads to a directory. -/
lemma createAll_of_leadsToDirectory (above : List (List String))
    (h : t.leadsToDirectory here names) : t.createAll here (names :: above) = (.ok (), t) := by
  obtain ⟨place, hwalk, hplace⟩ := leadsToDirectory_iff.1 h
  have hexists : t.createDirectory here names = .error .exists := by
    rw [createDirectory, hwalk]
    simp only [bind, Except.bind, hplace]
  rw [createAll, hexists]
  simp [h]

end Tree

end CsrMap.Files
