import CsrMap.Proofs.Header.Entries
import CsrMap.Proofs.Program.Writing

/-!
The run that writes exports and the run that checks them.

A run that succeeds leaves each export with its text, and its paths lead to the same places
afterwards. So the next run of the same options builds the same system from the same input, finds
the directory there and each export as it would write it. A check tells of every export that is
not so, and changes nothing.
-/

namespace CsrMap.Program

open CommandLine Files Tree World

variable {w w' : World} {path text directory : String} {files : List (String × String)}

/-! ### Checks -/

lemma beq_bytes_iff {a b : ByteArray} : (a == b) = true ↔ a = b := by
  rw [ByteArray.ext_iff]
  exact beq_iff_eq (a := a.data)

/-- What is wrong with the file at `path`, unless it holds `text`. -/
def staleAt (w : World) (path text : String) : Option Staleness :=
  match w.readBytes path with
  | .error cause => some (.unreadable cause)
  | .ok bytes => if bytes == text.toUTF8 then none else some .different

/-- The exports that do not hold their texts, in their order, with what is wrong with each. -/
def staleAmong (w : World) (directory : String) (files : List (String × String)) :
    List (String × String × Staleness) :=
  files.filterMap fun f =>
    (staleAt w (joinPath directory f.1) f.2).map fun s => (f.1, joinPath directory f.1, s)

lemma staleAt_eq_none_iff : staleAt w path text = none ↔ w.readBytes path = .ok text.toUTF8 := by
  unfold staleAt
  split
  · rename_i h
    simp [h]
  · rename_i h
    rw [h]
    split
    · rename_i heq
      exact iff_of_true rfl (congrArg _ (beq_bytes_iff.1 heq))
    · rename_i hne
      exact iff_of_false nofun fun heq => hne (beq_bytes_iff.2 (Except.ok.inj heq))

instance (w : World) (directory : String) (f : String × String) :
    Decidable (Fresh w directory f) :=
  decidable_of_iff ((staleAt w (joinPath directory f.1) f.2).isNone = true)
    (Option.isNone_iff_eq_none.trans staleAt_eq_none_iff)

lemma not_fresh_of_error {f : String × String} {cause : FileError}
    (h : w.readBytes (joinPath directory f.1) = .error cause) : ¬ Fresh w directory f := by
  rw [Fresh, h]
  exact nofun

lemma staleAmong_eq_nil_iff :
    staleAmong w directory files = [] ↔ ∀ f ∈ files, Fresh w directory f := by
  simp [staleAmong, List.filterMap_eq_nil_iff, staleAt_eq_none_iff, Fresh]

/-- The names of the stale exports, in their order. -/
lemma map_name_staleAmong (w : World) (directory : String) (files : List (String × String)) :
    (staleAmong w directory files).map (·.1)
      = (files.filter fun f => ¬ Fresh w directory f).map (·.1) := by
  induction files with
  | nil => rfl
  | cons f files ih =>
    unfold staleAmong at ih ⊢
    by_cases hfresh : Fresh w directory f
    · rw [List.filterMap_cons_none (by rw [staleAt_eq_none_iff.2 hfresh]; rfl),
        List.filter_cons_of_neg (by simpa using hfresh), ih]
    · obtain ⟨s, hs⟩ := Option.ne_none_iff_exists'.1 fun hnone =>
        hfresh (staleAt_eq_none_iff.1 hnone)
      rw [List.filterMap_cons_some (by rw [hs]; rfl),
        List.filter_cons_of_pos (by simpa using hfresh), List.map_cons, List.map_cons, ih]

/-- A check prints, and tells what is wrong. -/
lemma run_staleness (path text : String) (w : World) : ∃ printed,
    (staleness path text : StateM World _).run w
      = (staleAt w path text, { w with printed := printed }) := by
  refine ⟨w.printed ++ ("Checking file " ++ Text.quoted path ++ "\n"), ?_⟩
  have hread : (staleness path text : StateM World _).run w = (match w.readBytes path with
      | .error cause => some (Staleness.unreadable cause)
      | .ok bytes => if bytes == text.toUTF8 then none else some Staleness.different,
      { w with printed := w.printed ++ ("Checking file " ++ Text.quoted path ++ "\n") }) := by
    change (match w.readBytes path with
      | .error cause => (pure (some (Staleness.unreadable cause)) : StateM World _)
      | .ok bytes => pure (if bytes == text.toUTF8 then none else some Staleness.different)).run
      { w with printed := w.printed ++ ("Checking file " ++ Text.quoted path ++ "\n") } = _
    cases w.readBytes path <;> rfl
  rw [hread, staleAt]

lemma run_staleFiles (directory : String) (files : List (String × String)) (w : World) :
    ∃ printed, (staleFiles directory files : StateM World _).run w
      = (staleAmong w directory files, { w with printed := printed }) := by
  induction files generalizing w with
  | nil => exact ⟨w.printed, rfl⟩
  | cons f files ih =>
    obtain ⟨first, hfirst⟩ := run_staleness (joinPath directory f.1) f.2 w
    obtain ⟨printed, hrest⟩ := ih { w with printed := first }
    refine ⟨printed, ?_⟩
    have hlater (others : List (String × String × Staleness) →
        List (String × String × Staleness)) :
        (staleFiles directory files >>= fun found => pure (others found) : StateM World _).run
            { w with printed := first }
          = (others (staleAmong w directory files), { w with printed := printed }) := by
      rw [StateT.run_bind, hrest]
      rfl
    rw [staleFiles, StateT.run_bind, hfirst]
    cases hstale : staleAt w (joinPath directory f.1) f.2 with
    | none =>
      have hsame : staleAmong w directory (f :: files) = staleAmong w directory files := by
        rw [staleAmong, List.filterMap_cons_none (by rw [hstale]; rfl), staleAmong]
      rw [hsame]
      exact hlater id
    | some s =>
      have hnew : staleAmong w directory (f :: files)
          = (f.1, joinPath directory f.1, s) :: staleAmong w directory files := by
        rw [staleAmong, List.filterMap_cons_some (by rw [hstale]; rfl), staleAmong]
      rw [hnew]
      exact hlater _

/-- **A check changes no file**, and fails where an export is stale. -/
lemma run_checkFiles (directory : String) (files : List (String × String)) (w : World) :
    ∃ printed, (checkFiles directory files : Step (StateM World) Unit).run.run w
      = (if staleAmong w directory files = [] then .ok ()
          else refuse (.outOfDate (staleAmong w directory files)),
        { w with printed := printed }) := by
  obtain ⟨printed, hstale⟩ := run_staleFiles directory files w
  refine ⟨printed, ?_⟩
  have hlift := run_liftM (staleFiles directory files) w
  rw [hstale] at hlift
  refine (run_bind hlift).trans ?_
  cases staleAmong w directory files <;> rfl

/-! ### Writes -/

/-- Through an empty temporary file the file is replaced, and the temporary file is gone. -/
lemma run_replaceThrough (temporary path : String) (content : ByteArray) (w : World) :
    (replaceThrough temporary path content : Step (StateM World) Unit).run.run
        (w.addTemporary temporary .empty)
      = match w.replaceFile path content with
        | .ok w' => (.ok (), w')
        | .error cause => (refuse (.cannotReplace path cause), w) := by
  have hfill : (MonadFiles.fillTemporary temporary content : StateM World _).run
      (w.addTemporary temporary .empty) = (.ok (), w.addTemporary temporary content) := by
    refine run_attempt_eq_ok_iff.2 (fillTemporary_eq_ok_iff.2
      ⟨.empty, temporary?_addTemporary w temporary .empty, ?_⟩)
    rw [removeTemporary_addTemporary, ByteArray.empty_append]
  have hpersist : (MonadFiles.persistTemporary temporary path : StateM World _).run
        (w.addTemporary temporary content)
      = match w.replaceFile path content with
        | .ok w' => (.ok (), w')
        | .error cause => (.error cause, w.addTemporary temporary content) := by
    refine (run_attempt _ _).trans ?_
    rw [persistTemporary, temporary?_addTemporary]
    dsimp only
    rw [removeTemporary_addTemporary]
    cases w.replaceFile path content <;> rfl
  have hremove : ((MonadFiles.removeTemporary temporary : StateM World Unit).run
      (w.addTemporary temporary content)).2 = w := removeTemporary_addTemporary w temporary content
  rw [run_replaceThrough_eq, hfill]
  dsimp only
  rw [hpersist]
  cases w.replaceFile path content with
  | error cause => exact congrArg (Prod.mk _) hremove
  | ok w' => rfl

/-- A write prints, and replaces the file where its directory takes a temporary file. -/
lemma run_writeExport (text : String) (htakes : w.TakesTemporary (directoryOf path)) : ∃ printed,
    (writeExport path text : Step (StateM World) Unit).run.run w
      = match ({ w with printed := printed } : World).replaceFile path text.toUTF8 with
        | .ok w' => (.ok (), w')
        | .error cause => (refuse (.cannotReplace path cause), { w with printed := printed }) := by
  refine ⟨w.printed ++ ("Writing to " ++ Text.quoted path ++ "\n"), ?_⟩
  have hprint : ((MonadFiles.print ("Writing to " ++ Text.quoted path ++ "\n") :
      StateM World Unit).run w).2
        = { w with printed := w.printed ++ ("Writing to " ++ Text.quoted path ++ "\n") } := rfl
  have hfollows : w.Follows
      { w with printed := w.printed ++ ("Writing to " ++ Text.quoted path ++ "\n") } :=
    ⟨rfl, fun _ h => h⟩
  have htakes := hfollows.takesTemporary htakes
  rw [run_writeExport_eq, hprint]
  generalize ({ w with printed := _ } : World) = mid at htakes ⊢
  have hcreate : (MonadFiles.createTemporary (directoryOf path) : StateM World _).run mid
      = (.ok (temporaryPath (directoryOf path)),
        mid.addTemporary (temporaryPath (directoryOf path)) .empty) :=
    run_attempt_eq_ok_iff.2 (createTemporary_eq_ok_iff.2 ⟨htakes, rfl, rfl⟩)
  rw [hcreate]
  exact run_replaceThrough _ path text.toUTF8 mid

lemma takesTemporary_of_run_writeExport
    (h : (writeExport path text : Step (StateM World) Unit).run.run w = (.ok (), w')) :
    w.TakesTemporary (directoryOf path) := by
  have hprint := faithful_world.print ("Writing to " ++ Text.quoted path ++ "\n") w
  rw [run_writeExport_eq] at h
  generalize ((MonadFiles.print _ : StateM World Unit).run w).2 = mid at h hprint
  rcases hcreate : (MonadFiles.createTemporary (directoryOf path) : StateM World _).run mid with
    ⟨cause | temporary, next⟩
  · rw [hcreate] at h
    cases h
  · have htakes := (createTemporary_eq_ok_iff.1 (run_attempt_eq_ok_iff.1 hcreate)).1
    exact hprint.symm.follows.takesTemporary htakes

/-- Exports that are written hold their texts, and nothing else has changed. -/
lemma run_writeAll (hproper : ∀ f ∈ files, IsProper f.1) (hnames : (files.map (·.1)).Nodup)
    (h : (writeAll directory files).run.run w = (.ok (), w')) :
    Written w w' directory files := by
  rcases written_of_writeAll faithful_world hproper hnames h with
    ⟨-, hwritten⟩ | ⟨_, _, _, _, _, hfails, -⟩
  · exact hwritten
  · cases hfails

/-- The directory of the path takes a temporary file, and no directory is in the place of the
file. -/
structure Writable (w : World) (path : String) : Prop where
  takes : w.TakesTemporary (directoryOf path)
  free : ∃ place, w.locate path = .ok place ∧ w.tree.get? place ≠ some .directory

/-- Exports can be written where their paths are writable. -/
lemma exists_run_writeAll (h : ∀ f ∈ files, Writable w (joinPath directory f.1)) :
    ∃ w', (writeAll directory files).run.run w = (.ok (), w') ∧ w.Follows w' := by
  induction files generalizing w with
  | nil => exact ⟨w, rfl, .refl w⟩
  | cons f files ih =>
    rw [List.forall_mem_cons] at h
    obtain ⟨⟨htakes, place, hplace, hfree⟩, hrest⟩ := h
    obtain ⟨printed, hwrite⟩ := run_writeExport f.2 htakes
    have hreplace : World.replaceFile { w with printed := printed } (joinPath directory f.1)
        f.2.toUTF8 = .ok { w with
          tree := w.tree.put place (.file f.2.toUTF8)
          printed := printed } :=
      replaceFile_eq_ok_iff.2 ⟨place, hplace, hfree, rfl⟩
    have hfollows : w.Follows { w with
        tree := w.tree.put place (.file f.2.toUTF8)
        printed := printed } := ⟨rfl, keepsDirectories_put hfree _⟩
    obtain ⟨w', hrun, hlater⟩ := ih (w := { w with
        tree := w.tree.put place (.file f.2.toUTF8)
        printed := printed }) fun g hg => by
      obtain ⟨hgTakes, other, hother, hotherFree⟩ := hrest g hg
      refine ⟨hfollows.takesTemporary hgTakes, other, hfollows.locate hother, ?_⟩
      by_cases heq : other = place
      · rw [heq, get?_put_self _ (ne_nil_of_get?_ne hfree)]
        exact nofun
      · rwa [get?_put_of_ne _ heq]
    refine ⟨w', ?_, hfollows.trans hlater⟩
    rw [writeAll_cons, run_bind_eq, hwrite, hreplace]
    exact hrun

/-- Where exports have been written, their directory takes temporary files. -/
lemma takesTemporary_of_run_writeAll (h : (writeAll directory files).run.run w = (.ok (), w')) :
    w.Follows w' ∧ ∀ f ∈ files, w'.TakesTemporary (directoryOf (joinPath directory f.1)) := by
  induction files generalizing w with
  | nil =>
    cases h
    exact ⟨.refl _, fun _ hf => absurd hf List.not_mem_nil⟩
  | cons f files ih =>
    rw [writeAll_cons, run_bind_eq] at h
    rcases hwrite : (writeExport (joinPath directory f.1) f.2 :
      Step (StateM World) Unit).run.run w with ⟨failure | u, next⟩
    · rw [hwrite] at h
      cases h
    · rw [hwrite] at h
      obtain ⟨hrest, htakes⟩ := ih h
      rcases written_of_writeExport faithful_world hwrite with ⟨-, hfirst⟩ | ⟨_, hfails, -⟩
      · have hfollows : w.Follows w' := hfirst.follows.trans hrest
        refine ⟨hfollows, List.forall_mem_cons.2 ⟨?_, htakes⟩⟩
        exact hfollows.takesTemporary (takesTemporary_of_run_writeExport hwrite)
      · cases hfails

/-- To write exports that hold their texts leaves the tree as it is. -/
lemma run_writeAll_of_fresh (h : ∀ f ∈ files, Fresh w directory f)
    (htakes : ∀ f ∈ files, w.TakesTemporary (directoryOf (joinPath directory f.1))) :
    ∃ again, (writeAll directory files).run.run w = (.ok (), again) ∧ w.Unchanged again := by
  induction files generalizing w with
  | nil => exact ⟨w, rfl, .refl w⟩
  | cons f files ih =>
    rw [List.forall_mem_cons] at h htakes
    obtain ⟨printed, hwrite⟩ := run_writeExport f.2 htakes.1
    have hread : World.readBytes { w with printed := printed } (joinPath directory f.1)
        = .ok f.2.toUTF8 := h.1
    obtain ⟨mid, hreplace, hhere, hsame⟩ := replaceFile_of_readBytes hread
    have hunchanged : w.Unchanged mid := ⟨hhere, hsame⟩
    obtain ⟨again, hrest, hagain⟩ :=
      ih (w := mid) (fun g hg => readBytes_of_same hhere hsame (h.2 g hg))
        fun g hg => hunchanged.follows.takesTemporary (htakes.2 g hg)
    refine ⟨again, ?_, hunchanged.trans hagain⟩
    rw [writeAll_cons, run_bind_eq, hwrite, hreplace]
    exact hrest

/-- The exports of a write that succeeds hold their texts, what is read elsewhere stays, and a
further write leaves the tree as it is. -/
lemma run_writeExports (hproper : ∀ f ∈ files, IsProper f.1) (hnames : (files.map (·.1)).Nodup)
    (h : (writeExports directory files : Step (StateM World) Unit).run.run w = (.ok (), w')) :
    w.Follows w' ∧ (∀ f ∈ files, Fresh w' directory f) ∧
      (∀ path bytes, w.readBytes path = .ok bytes →
        (∀ f ∈ files, w'.locate path ≠ w'.locate (joinPath directory f.1)) →
        w'.readBytes path = .ok bytes) ∧
      ∀ later : World, later.here = w'.here → later.tree = w'.tree →
        ∃ again, (writeExports directory files : Step (StateM World) Unit).run.run later
          = (.ok (), again) ∧ later.tree.Same again.tree := by
  rw [run_writeExports_eq, run_createDirectories] at h
  rcases hcreate : w.createDirectories directory with ⟨cause | u, next⟩
  · rw [hcreate] at h
    cases h
  · rw [hcreate] at h
    obtain ⟨hhere, hstart, hagain⟩ := createDirectories_ok hcreate
    obtain ⟨hfollows, hfresh, huntouched⟩ := run_writeAll hproper hnames h
    obtain ⟨-, htakes⟩ := takesTemporary_of_run_writeAll h
    have hnext : w.Follows next := ⟨hhere, hstart.keepsDirectories⟩
    refine ⟨hnext.trans hfollows, hfresh, fun path bytes hread hapart => ?_,
      fun later hhere' htree => ?_⟩
    · obtain ⟨place, hlocate, hfile⟩ := readBytes_eq_ok_iff.1 hread
      have hlater := (hnext.trans hfollows).locate hlocate
      refine readBytes_eq_ok_iff.2 ⟨place, hlater, ?_⟩
      rw [huntouched place, hstart place _ hfile]
      intro f hf hother
      exact hapart f hf (hlater.trans hother.symm)
    · have hsame : w'.tree.Same later.tree := fun place => by rw [htree]
      have hlater : w'.Follows later := ⟨hhere', hsame.keepsDirectories⟩
      obtain ⟨again, hrun, hagainUnchanged⟩ := run_writeAll_of_fresh (w := later)
        (fun f hf => readBytes_of_same hhere' hsame (hfresh f hf))
        fun f hf => hlater.takesTemporary (htakes f hf)
      refine ⟨again, ?_, hagainUnchanged.tree⟩
      rw [run_writeExports_eq, run_createDirectories, hagain later (hfollows.trans hlater)]
      exact hrun

/-! ### Runs -/

/-- A run builds the system, renders the exports, and checks or writes them. -/
lemma run_generate (check : Bool) (source : Source) (directory : Option String)
    (accessors : Bool) (w : World) : ∃ events,
    (run (.generate check source directory accessors) : StateM World _).run w =
      match answer source w with
      | .error failure => (.error failure, { w with events := events })
      | .ok soc =>
        match exports soc accessors with
        | .error cause => (refuse (.refused cause), { w with events := events })
        | .ok files =>
          (if check then checkFiles (directory.getD defaultDirectory) files
            else writeExports (directory.getD defaultDirectory) files :
            Step (StateM World) Unit).run.run { w with events := events } := by
  refine ⟨w.events ++ (chosenFrom source w.readBytes).2, ?_⟩
  rw [run_generate_eq, run_chosenSoc, ← answer_eq]
  cases answer source w with
  | error failure => rfl
  | ok soc => rfl

/-- The names of the exports. -/
lemma map_name_exports {soc : Soc} {accessors : Bool} (h : exports soc accessors = .ok files) :
    files.map (·.1) = ["csr.h", "csr.json", "csr.csv"] := by
  obtain ⟨header, -, heq⟩ := bind_eq_ok_iff.1 h
  cases heq
  rfl

lemma isProper_of_mem {name : String} (h : name ∈ ["csr.h", "csr.json", "csr.csv"]) :
    IsProper name := by
  simp only [List.mem_cons, List.not_mem_nil, or_false] at h
  rcases h with rfl | rfl | rfl <;> exact ⟨by decide, by decide, by decide, by decide⟩

lemma exports_apart {soc : Soc} {accessors : Bool} (h : exports soc accessors = .ok files) :
    (∀ f ∈ files, IsProper f.1) ∧ (files.map (·.1)).Nodup := by
  have hnames := map_name_exports h
  refine ⟨fun f hf => isProper_of_mem (hnames ▸ List.mem_map_of_mem hf), ?_⟩
  rw [hnames]
  decide

/-- A check changes no file, and tells exactly of the exports that are stale. -/
lemma run_check {source : Source} {accessors : Bool} {soc : Soc}
    (hanswer : answer source w = .ok soc) (hexports : exports soc accessors = .ok files)
    (output : Option String) : ∃ checked,
    (run (.generate true source output accessors) : StateM World _).run w
      = (if staleAmong w (output.getD defaultDirectory) files = [] then .ok ()
          else refuse (.outOfDate (staleAmong w (output.getD defaultDirectory) files)), checked) ∧
      checked.tree = w.tree := by
  obtain ⟨events, hrun⟩ := run_generate true source output accessors w
  rw [hanswer] at hrun
  simp only [hexports, if_true] at hrun
  obtain ⟨printed, hcheck⟩ := run_checkFiles (output.getD defaultDirectory) files
    { w with events := events }
  rw [hcheck] at hrun
  exact ⟨_, hrun, rfl⟩

/-- A write that succeeds has built a system and rendered its exports. It leaves each export with
its text, and the same paths lead to the same places. -/
lemma run_write {source : Source} {output : Option String} {accessors : Bool}
    (h : (run (.generate false source output accessors) : StateM World _).run w = (.ok (), w')) :
    ∃ soc files, answer source w = .ok soc ∧ exports soc accessors = .ok files ∧
      w.Follows w' ∧ (∀ f ∈ files, Fresh w' (output.getD defaultDirectory) f) ∧
      (∀ path bytes, w.readBytes path = .ok bytes → (∀ f ∈ files,
          w'.locate path ≠ w'.locate (joinPath (output.getD defaultDirectory) f.1)) →
        w'.readBytes path = .ok bytes) ∧
      ∀ later : World, later.here = w'.here → later.tree = w'.tree → ∃ again,
        (writeExports (output.getD defaultDirectory) files : Step (StateM World) Unit).run.run later
          = (.ok (), again) ∧ later.tree.Same again.tree := by
  obtain ⟨events, hrun⟩ := run_generate false source output accessors w
  rw [h] at hrun
  cases hanswer : answer source w with
  | error failure =>
    rw [hanswer] at hrun
    cases hrun
  | ok soc =>
    rw [hanswer] at hrun
    cases hexports : exports soc accessors with
    | error cause =>
      simp only [hexports] at hrun
      cases hrun
    | ok files =>
      simp only [hexports, Bool.false_eq_true, if_false] at hrun
      obtain ⟨hproper, hnodup⟩ := exports_apart hexports
      obtain ⟨hfollows, hfresh, hkept, hagain⟩ := run_writeExports hproper hnodup hrun.symm
      exact ⟨soc, files, rfl, hexports, ⟨hfollows.here, hfollows.directories⟩, hfresh, hkept,
        hagain⟩

/-- A write succeeds where its directory can be made and its exports are writable there. -/
lemma exists_run_write {source : Source} {output : Option String} {accessors : Bool} {soc : Soc}
    (hanswer : answer source w = .ok soc) (hexports : exports soc accessors = .ok files)
    (hcreate : ∀ events, ∃ next,
      World.createDirectories { w with events := events } (output.getD defaultDirectory)
        = (.ok (), next) ∧
      ∀ f ∈ files, Writable next (joinPath (output.getD defaultDirectory) f.1)) :
    ∃ w', (run (.generate false source output accessors) : StateM World _).run w
      = (.ok (), w') := by
  obtain ⟨events, hrun⟩ := run_generate false source output accessors w
  obtain ⟨next, hnext, hplaces⟩ := hcreate events
  obtain ⟨w', hwrite, -⟩ := exists_run_writeAll hplaces
  refine ⟨w', hrun.trans ?_⟩
  rw [hanswer]
  simp only [hexports, Bool.false_eq_true, if_false]
  rw [run_writeExports_eq, run_createDirectories, hnext]
  exact hwrite

/-- **A check agrees with what a write leaves.** Where a write succeeds and does not replace its
own input, a check of the same options succeeds and changes nothing, and a further write leaves the
tree as it is. Wherever the system can be built and rendered, a check changes nothing, succeeds
exactly where each export holds its text, and otherwise names the others in their order. -/
theorem run_check_agrees (source : Source) (output : Option String) (accessors : Bool) :
    (∀ w w', (run (.generate false source output accessors) : StateM World _).run w
        = (.ok (), w') →
      (∀ path, inputPath source = some path → ∀ name ∈ ["csr.h", "csr.json", "csr.csv"],
        w'.locate path ≠ w'.locate (joinPath (output.getD defaultDirectory) name)) →
      ∀ later : World, later.here = w'.here → later.tree = w'.tree →
        (∃ checked, (run (.generate true source output accessors) : StateM World _).run later
          = (.ok (), checked) ∧ checked.tree = later.tree) ∧
        ∃ again, (run (.generate false source output accessors) : StateM World _).run later
          = (.ok (), again) ∧ later.tree.Same again.tree) ∧
    ∀ w soc files, answer source w = .ok soc → exports soc accessors = .ok files →
      files.map (·.1) = ["csr.h", "csr.json", "csr.csv"] ∧
      ∃ outcome checked, (run (.generate true source output accessors) : StateM World _).run w
          = (outcome, checked) ∧ checked.tree = w.tree ∧
        (outcome = .ok () ↔ ∀ f ∈ files, Fresh w (output.getD defaultDirectory) f) ∧
        (outcome ≠ .ok () →
          outcome = refuse (.outOfDate (staleAmong w (output.getD defaultDirectory) files))) ∧
        (staleAmong w (output.getD defaultDirectory) files).map (·.1)
          = (files.filter fun f => ¬ Fresh w (output.getD defaultDirectory) f).map (·.1) := by
  refine ⟨fun w w' hrun hinput later hhere htree => ?_, fun w soc files hanswer hexports => ?_⟩
  · obtain ⟨soc, files, hanswer, hexports, -, hfresh, hkept, hagain⟩ := run_write hrun
    have hnames := map_name_exports hexports
    have hsame : w'.tree.Same later.tree := fun place => by rw [htree]
    have hlaterAnswer : answer source later = .ok soc := by
      rw [← hanswer]
      refine (answer_congr fun path hpath => ?_).symm
      obtain ⟨bytes, hread⟩ := exists_bytes_of_answer hanswer hpath
      rw [hread, readBytes_of_same hhere hsame (hkept path bytes hread fun f hf => ?_)]
      exact hinput path hpath f.1 (hnames ▸ List.mem_map_of_mem hf)
    have hlaterFresh : ∀ f ∈ files, Fresh later (output.getD defaultDirectory) f := fun f hf =>
      readBytes_of_same hhere hsame (hfresh f hf)
    constructor
    · obtain ⟨checked, hcheck, hunchanged⟩ := run_check hlaterAnswer hexports output
      rw [if_pos (staleAmong_eq_nil_iff.2 hlaterFresh)] at hcheck
      exact ⟨checked, hcheck, hunchanged⟩
    · obtain ⟨laterEvents, hgenerate⟩ := run_generate false source output accessors later
      obtain ⟨again, hrewrite, hunchanged⟩ :=
        hagain { later with events := laterEvents } hhere htree
      rw [hlaterAnswer] at hgenerate
      simp only [hexports, Bool.false_eq_true, if_false, hrewrite] at hgenerate
      exact ⟨again, hgenerate, hunchanged⟩
  · obtain ⟨checked, hcheck, hunchanged⟩ := run_check hanswer hexports output
    refine ⟨map_name_exports hexports, _, checked, hcheck, hunchanged, ?_, ?_,
      map_name_staleAmong w _ files⟩
    · rw [← staleAmong_eq_nil_iff]
      by_cases hfresh : staleAmong w (output.getD defaultDirectory) files = []
      · rw [if_pos hfresh]
        exact iff_of_true rfl hfresh
      · rw [if_neg hfresh]
        exact iff_of_false nofun hfresh
    · intro hfails
      rw [if_neg]
      intro hfresh
      exact hfails (if_pos hfresh)

/-! ### A blueprint that declares nothing -/

/-- The system of a blueprint that declares nothing. -/
def bareSoc : Soc := ⟨{}, [], ⟨0, 0, []⟩, {}, [], []⟩

lemma answer_bare : answer { description := some "soc" } (holdingFile "soc" "banks: []")
    = .ok bareSoc := by
  have hread := readsAs_holdingFile
    (show Blueprint.read "banks: []" = .ok { banks := [] } by decide +kernel)
  rw [answer_eq]
  simp only [chosenFrom, given_eq_ok_of_readsAs hread]
  decide +kernel

lemma exists_exports_bare : ∃ files, exports bareSoc false = .ok files := by
  have hcomplete : Declarations.complete {} {} = .ok bareSoc := by decide +kernel
  rw [exports, Header.header_eq_ok hcomplete]
  exact ⟨_, rfl⟩

lemma isRelative_out : IsRelative "out" ["out"] := by decide +kernel

lemma isRelative_export : ∀ name ∈ ["csr.h", "csr.json", "csr.csv"],
    IsRelative (joinPath "out" name) ["out", name] := by decide +kernel

/-- The exports of a directory share the path of their temporary files. -/
lemma isRelative_temporary : ∀ name ∈ ["csr.h", "csr.json", "csr.csv"],
    IsRelative (temporaryPath (directoryOf (joinPath "out" name))) ["out", ".tmpXXXXXX"] := by
  decide +kernel

/-- A blueprint without banks: its exports are missing, are written, and are then as they should
be. -/
theorem run_check_agrees_missing :
    (∃ stale checked, (run (.generate true { description := some "soc" } (some "out") false) :
        StateM World _).run (holdingFile "soc" "banks: []")
          = (refuse (.outOfDate stale), checked) ∧
      stale.map (·.1) = ["csr.h", "csr.json", "csr.csv"]) ∧
    ∃ w' checked, (run (.generate false { description := some "soc" } (some "out") false) :
        StateM World _).run (holdingFile "soc" "banks: []") = (.ok (), w') ∧
      (run (.generate true { description := some "soc" } (some "out") false) :
        StateM World _).run w' = (.ok (), checked) ∧ checked.tree = w'.tree := by
  have hanswer := answer_bare
  obtain ⟨files, hexports⟩ := exists_exports_bare
  have hnames := map_name_exports hexports
  have hmem (f : String × String) (hf : f ∈ files) : f.1 ∈ ["csr.h", "csr.json", "csr.csv"] :=
    hnames ▸ List.mem_map_of_mem hf
  have hagrees := run_check_agrees { description := some "soc" } (some "out") false
  generalize "banks: []" = text at *
  constructor
  · obtain ⟨-, outcome, checked, hcheck, -, hok, hfails, hstale⟩ :=
      hagrees.2 _ _ _ hanswer hexports
    have hmissing : ∀ f ∈ files, ¬ Fresh (holdingFile "soc" text) "out" f := by
      intro f hf
      have hnone : (holdingFile "soc" text).readBytes (joinPath "out" f.1) = .error .notFound := by
        rw [World.readBytes, (isRelative_export f.1 (hmem f hf)).locate]
        rfl
      exact not_fresh_of_error hnone
    have hall : files.filter (fun f => ¬ Fresh (holdingFile "soc" text) "out" f) = files :=
      List.filter_eq_self.2 fun f hf => by simpa using hmissing f hf
    refine ⟨_, checked, ?_, hstale.trans ((congrArg _ hall).trans hnames)⟩
    rw [hcheck, hfails]
    intro hsucceeds
    have hfirst : "csr.h" ∈ files.map (·.1) := by simp [hnames]
    obtain ⟨f, hf, -⟩ := List.mem_map.1 hfirst
    exact hmissing f hf (hok.1 hsucceeds f hf)
  · obtain ⟨w', hrun⟩ : ∃ w', (run (.generate false { description := some "soc" } (some "out")
        false) : StateM World _).run (holdingFile "soc" text) = (.ok (), w') := by
      refine exists_run_write hanswer hexports fun events => ⟨
        { tree := ⟨[(["out"], .directory), (["soc"], .file text.toUTF8)]⟩, events := events },
        isRelative_out.createDirectories _, fun f hf => ⟨⟨["out", ".tmpXXXXXX"], ?_⟩,
          ["out", f.1], ?_, ?_⟩⟩
      · exact (isRelative_temporary f.1 (hmem f hf)).locate _
      · rw [Option.getD_some, (isRelative_export f.1 (hmem f hf)).locate]
        have hname := hmem f hf
        simp only [List.mem_cons, List.not_mem_nil, or_false] at hname
        rcases hname with hname | hname | hname <;> rw [hname] <;> rfl
      · have hnone : Tree.get? ⟨[(["out"], .directory), (["soc"], .file text.toUTF8)]⟩ ["out", f.1]
            = none := rfl
        rw [hnone]
        exact (Option.some_ne_none _).symm
    obtain ⟨soc, files, -, -, hfollows, -⟩ := run_write hrun
    have hsoc : w'.locate "soc" = .ok ["soc"] := hfollows.locate (isRelative_soc.locate _)
    obtain ⟨⟨checked, hcheck, hunchanged⟩, -⟩ := hagrees.1 _ _ hrun (by
      intro path hpath name hname hsame
      cases hpath
      rw [hsoc] at hsame
      have hlast := getLast?_of_locate (isProper_of_mem hname) hsame.symm
      cases hlast
      exact absurd hname (by decide)) w' rfl rfl
    exact ⟨w', checked, hrun, hcheck, hunchanged⟩

end CsrMap.Program
