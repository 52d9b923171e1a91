import CsrMap.Proofs.Files.Faithful
import CsrMap.Proofs.Program.Steps

/-!
The run that writes exports, on any file system that shows as a world.

An export is first written to a temporary file. Where this can be made, filled and persisted the
export is replaced as a whole, and where one of these fails nothing has changed. The others have
other names, so they lie at other places. So at every point of a run the exports up to there hold
their texts, and nothing else has changed.
-/

namespace CsrMap.Program

open CommandLine Files Tree World

variable {σ : Type} {worldOf : σ → World} {s s' : σ} {w w' mid : World} {directory : String}
  {f : String × String} {front files : List (String × String)}
  {outcome : Outcome ProgramError Unit}

/-- The export holds its text. -/
def Fresh (w : World) (directory : String) (f : String × String) : Prop :=
  w.readBytes (joinPath directory f.1) = .ok f.2.toUTF8

/-- How the program tells that a file cannot be written: no temporary file can be made or filled,
or this cannot take the place of the file. -/
inductive FailsWriting (path : String) : ProgramError → Prop
  | writing (cause : FileError) : FailsWriting path (.cannotWrite cause)
  | replacing (cause : FileError) : FailsWriting path (.cannotReplace path cause)

/-! ### Worlds with exports -/

/-- The exports hold their texts, and nothing else has changed. -/
structure Written (w w' : World) (directory : String) (files : List (String × String)) : Prop where
  follows : w.Follows w'
  fresh : ∀ f ∈ files, Fresh w' directory f
  elsewhere : ∀ place, (∀ f ∈ files, w'.locate (joinPath directory f.1) ≠ .ok place) →
    w'.tree.get? place = w.tree.get? place

lemma written_nil (h : w.Unchanged w') : Written w w' directory [] :=
  ⟨h.follows, nofun, fun place _ => (h.tree place).symm⟩

lemma written_of_replaceFile (h : w.replaceFile (joinPath directory f.1) f.2.toUTF8 = .ok w') :
    Written w w' directory [f] := by
  obtain ⟨hfollows, hread, huntouched⟩ := replaceFile_ok h
  refine ⟨hfollows, ?_, fun place hplace => huntouched place fun hlocate => ?_⟩
  · rw [List.forall_mem_singleton]
    exact hread
  · exact hplace f (List.mem_singleton_self f) (hfollows.locate hlocate)

lemma Written.of_unchanged (h : w.Unchanged mid) (h' : Written mid w' directory files) :
    Written w w' directory files :=
  ⟨h.follows.trans h'.follows, h'.fresh, fun place hplace =>
    (h'.elsewhere place hplace).trans (h.tree place).symm⟩

lemma Written.unchanged (h : Written w mid directory files) (h' : mid.Unchanged w') :
    Written w w' directory files :=
  ⟨h.follows.trans h'.follows, fun f hf => readBytes_of_same h'.here h'.tree (h.fresh f hf),
    fun place hplace => (h'.tree place).symm.trans
      (h.elsewhere place fun f hf hlocate => hplace f hf (h'.follows.locate hlocate))⟩

/-- An export stays while others of other names are written. -/
lemma Written.cons (hfirst : Written w mid directory [f]) (hrest : Written mid w' directory front)
    (hproper : ∀ g ∈ f :: front, IsProper g.1) (hnew : f.1 ∉ front.map (·.1)) :
    Written w w' directory (f :: front) := by
  refine ⟨hfirst.follows.trans hrest.follows, ?_, fun place hplace => ?_⟩
  · rw [List.forall_mem_cons]
    refine ⟨?_, hrest.fresh⟩
    obtain ⟨place, hlocate, hfile⟩ :=
      readBytes_eq_ok_iff.1 (hfirst.fresh f (List.mem_singleton_self f))
    have hlater := hrest.follows.locate hlocate
    refine readBytes_eq_ok_iff.2 ⟨place, hlater, ?_⟩
    rw [hrest.elsewhere place, hfile]
    intro g hg hother
    have hname := name_eq_of_locate (hproper g (List.mem_cons_of_mem f hg))
      (hproper f List.mem_cons_self) hother hlater
    exact hnew (List.mem_map.2 ⟨g, hg, hname⟩)
  · rw [List.forall_mem_cons] at hplace
    rw [hrest.elsewhere place hplace.2]
    refine hfirst.elsewhere place ?_
    rw [List.forall_mem_singleton]
    exact fun hlocate => hplace.1 (hrest.follows.locate hlocate)

/-! ### Writes -/

section Effects

variable [MonadFiles (StateM σ)]

/-- The write of all exports. -/
abbrev writeAll (directory : String) (files : List (String × String)) : Step (StateM σ) Unit :=
  files.forM fun (name, text) => writeExport (joinPath directory name) text

lemma writeAll_cons (directory : String) (f : String × String) (files : List (String × String)) :
    (writeAll directory (f :: files) : Step (StateM σ) Unit)
      = writeExport (joinPath directory f.1) f.2 >>= fun _ => writeAll directory files := rfl

lemma writeAll_append (directory : String) (front back : List (String × String)) :
    (writeAll directory (front ++ back) : Step (StateM σ) Unit)
      = writeAll directory front >>= fun _ => writeAll directory back :=
  List.forM_append

lemma run_replaceThrough_eq (temporary path : String) (content : ByteArray) (s : σ) :
    (replaceThrough temporary path content : Step (StateM σ) Unit).run.run s
      = match (MonadFiles.fillTemporary temporary content : StateM σ _).run s with
        | (.error cause, s') => (refuse (.cannotWrite cause),
          ((MonadFiles.removeTemporary temporary : StateM σ Unit).run s').2)
        | (.ok (), s') =>
          match (MonadFiles.persistTemporary temporary path : StateM σ _).run s' with
          | (.error cause, s') => (refuse (.cannotReplace path cause),
            ((MonadFiles.removeTemporary temporary : StateM σ Unit).run s').2)
          | (.ok (), s') => (.ok (), s') := by
  refine (run_bind (run_liftM _ s)).trans ?_
  rcases (MonadFiles.fillTemporary temporary content : StateM σ _).run s with ⟨cause | u, next⟩
  · rfl
  · refine (run_bind (run_liftM _ next)).trans ?_
    dsimp only
    rcases (MonadFiles.persistTemporary temporary path : StateM σ _).run next with
      ⟨cause | u, last⟩ <;> rfl

/-- A write prints, makes a temporary file, and replaces the file through it. -/
lemma run_writeExport_eq (path text : String) (s : σ) :
    (writeExport path text : Step (StateM σ) Unit).run.run s
      = match (MonadFiles.createTemporary (directoryOf path) : StateM σ _).run
          ((MonadFiles.print ("Writing to " ++ Text.quoted path ++ "\n") : StateM σ Unit).run s).2 with
        | (.error cause, s') => (refuse (.cannotWrite cause), s')
        | (.ok temporary, s') =>
          (replaceThrough temporary path text.toUTF8 : Step (StateM σ) Unit).run.run s' := by
  refine (run_bind (run_liftM _ s)).trans ((run_bind (run_liftM _ _)).trans ?_)
  rcases (MonadFiles.createTemporary (directoryOf path) : StateM σ _).run _ with
    ⟨cause | temporary, next⟩ <;> rfl

lemma run_writeExports_eq (directory : String) (files : List (String × String)) (s : σ) :
    (writeExports directory files : Step (StateM σ) Unit).run.run s
      = match (MonadFiles.createDirectories directory : StateM σ _).run s with
        | (.ok (), s') => (writeAll directory files).run.run s'
        | (.error cause, s') => (refuse (.cannotCreate directory cause), s') := by
  refine (run_bind (run_liftM _ s)).trans ?_
  rcases (MonadFiles.createDirectories directory : StateM σ _).run s with ⟨cause | u, s'⟩ <;> rfl

/-- A run builds the system, renders the exports, and checks or writes them. -/
lemma run_generate_eq (check : Bool) (source : Source) (output : Option String) (accessors : Bool)
    (s : σ) : (run (.generate check source output accessors) : StateM σ _).run s
      = match (chosenSoc source : Step (StateM σ) Soc).run.run s with
        | (.error failure, s') => (.error failure, s')
        | (.ok soc, s') =>
          match exports soc accessors with
          | .error cause => (refuse (.refused cause), s')
          | .ok files =>
            (if check then checkFiles (output.getD defaultDirectory) files
              else writeExports (output.getD defaultDirectory) files :
              Step (StateM σ) Unit).run.run s' := by
  refine (run_bind_eq _ _ s).trans ?_
  rcases (chosenSoc source : Step (StateM σ) Soc).run.run s with ⟨failure | soc, s'⟩
  · rfl
  · dsimp only
    cases exports soc accessors <;> rfl

variable (hfaithful : Faithful worldOf)

include hfaithful

/-- What is filled and persisted replaces the file, and else nothing has changed. -/
lemma replaced_of_replaceThrough {temporary path : String} {content : ByteArray}
    (hempty : (worldOf s).temporary? temporary = some .empty)
    (h : (replaceThrough temporary path content : Step (StateM σ) Unit).run.run s = (outcome, s')) :
    (outcome = .ok () ∧ ∃ w mid, (worldOf s).Unchanged mid ∧ mid.replaceFile path content = .ok w ∧
        w.Unchanged (worldOf s')) ∨
      ∃ cause, outcome = refuse cause ∧ FailsWriting path cause ∧
        (worldOf s).Unchanged (worldOf s') := by
  have hfill := hfaithful.fillTemporary temporary content s
  rw [run_replaceThrough_eq] at h
  rcases hfilled : (MonadFiles.fillTemporary temporary content : StateM σ _).run s with
    ⟨cause | u, next⟩
  · rw [hfilled] at h hfill
    cases h
    exact .inr ⟨_, rfl, .writing cause, hfill.trans (hfaithful.removeTemporary temporary next)⟩
  · rw [hfilled] at h hfill
    have hcontent := hfaithful.fillTemporary_ok _ _ _ _ _ hempty hfilled
    rw [ByteArray.empty_append] at hcontent
    dsimp only at h
    rcases hpersisted : (MonadFiles.persistTemporary temporary path : StateM σ _).run next with
      ⟨cause | u, last⟩
    · rw [hpersisted] at h
      cases h
      have hpersist := hfaithful.persistTemporary_error _ _ _ _ _ hpersisted
      exact .inr ⟨_, rfl, .replacing cause,
        (hfill.trans hpersist).trans (hfaithful.removeTemporary temporary last)⟩
    · rw [hpersisted] at h
      cases h
      obtain ⟨w, hreplace, hunchanged⟩ :=
        hfaithful.persistTemporary_ok _ _ _ _ _ hcontent hpersisted
      exact .inl ⟨rfl, w, _, hfill, hreplace, hunchanged⟩

/-- One export is written, or nothing has changed. -/
lemma written_of_writeExport
    (h : (writeExport (joinPath directory f.1) f.2 : Step (StateM σ) Unit).run.run s
      = (outcome, s')) :
    (outcome = .ok () ∧ Written (worldOf s) (worldOf s') directory [f]) ∨
      ∃ cause, outcome = refuse cause ∧ FailsWriting (joinPath directory f.1) cause ∧
        (worldOf s).Unchanged (worldOf s') := by
  have hprint := hfaithful.print ("Writing to " ++ Text.quoted (joinPath directory f.1) ++ "\n") s
  rw [run_writeExport_eq] at h
  generalize ((MonadFiles.print _ : StateM σ Unit).run s).2 = printed at h hprint
  have hcreate := hfaithful.createTemporary (directoryOf (joinPath directory f.1)) printed
  rcases hcreated : (MonadFiles.createTemporary (directoryOf (joinPath directory f.1)) :
    StateM σ _).run printed with ⟨cause | temporary, next⟩
  · rw [hcreated] at h hcreate
    cases h
    exact .inr ⟨_, rfl, .writing cause, hprint.trans hcreate⟩
  · rw [hcreated] at h hcreate
    have hbefore := hprint.trans hcreate
    have hempty := hfaithful.createTemporary_ok _ _ _ _ hcreated
    rcases replaced_of_replaceThrough hfaithful hempty h with
      ⟨rfl, w, mid, hmid, hreplace, hunchanged⟩ | ⟨cause, rfl, hfails, hunchanged⟩
    · exact .inl ⟨rfl,
        ((written_of_replaceFile hreplace).unchanged hunchanged).of_unchanged (hbefore.trans hmid)⟩
    · exact .inr ⟨cause, rfl, hfails, hbefore.trans hunchanged⟩

/-- **Exports are written up to the first failure**, and from there on nothing has changed. -/
lemma written_of_writeAll (hproper : ∀ f ∈ files, IsProper f.1)
    (hnames : (files.map (·.1)).Nodup)
    (h : (writeAll directory files : Step (StateM σ) Unit).run.run s = (outcome, s')) :
    (outcome = .ok () ∧ Written (worldOf s) (worldOf s') directory files) ∨
      ∃ front f back cause, files = front ++ f :: back ∧
        outcome = refuse cause ∧ FailsWriting (joinPath directory f.1) cause ∧
        Written (worldOf s) (worldOf s') directory front := by
  induction files generalizing s with
  | nil =>
    cases h
    exact .inl ⟨rfl, written_nil (.refl _)⟩
  | cons f files ih =>
    rw [writeAll_cons, run_bind_eq] at h
    rw [List.map_cons, List.nodup_cons] at hnames
    rcases hwrite : (writeExport (joinPath directory f.1) f.2 : Step (StateM σ) Unit).run.run s with
      ⟨first, next⟩
    rw [hwrite] at h
    rcases written_of_writeExport hfaithful hwrite with
      ⟨rfl, hfirst⟩ | ⟨cause, rfl, hfails, hunchanged⟩
    · have hlater : ∀ g ∈ files, IsProper g.1 := fun g hg => hproper g (List.mem_cons_of_mem f hg)
      rcases ih hlater hnames.2 h with
        ⟨rfl, hrest⟩ | ⟨front, g, back, cause, rfl, rfl, hfails, hrest⟩
      · exact .inl ⟨rfl, hfirst.cons hrest hproper hnames.1⟩
      · refine .inr ⟨f :: front, g, back, cause, rfl, rfl, hfails, hfirst.cons hrest ?_ ?_⟩
        · rw [← List.cons_append] at hproper
          exact fun x hx => hproper x (List.mem_append_left _ hx)
        · rw [List.map_append] at hnames
          exact fun hmem => hnames.1 (List.mem_append_left _ hmem)
    · cases h
      exact .inr ⟨[], f, files, cause, rfl, rfl, hfails, written_nil hunchanged⟩

end Effects

end CsrMap.Program
