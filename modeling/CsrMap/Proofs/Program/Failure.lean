import CsrMap.Proofs.Files.Faithful
import CsrMap.Proofs.Program.Check

/-!
The run that writes exports and fails.

The system is built and its exports are rendered before anything is written, and these steps change
no file. Then directories are only added, and each export is replaced as a whole or not at all,
whether it is the temporary file that fails or the last step. So wherever a run fails, the exports
before the failure hold their new texts and the others what they held before. This holds on every
file system that shows as a world, whatever its effects fail for.
-/

namespace CsrMap.Program

open CommandLine Files Tree World

variable {σ α β : Type} {worldOf : σ → World} {s s' : σ} {w w' mid : World}
  {directory : String}

/-! ### Steps that change no file -/

/-- The step changes no file and no directory, whether or not it succeeds. -/
def Keeps (worldOf : σ → World) (x : Step (StateM σ) α) : Prop :=
  ∀ s, (worldOf s).Unchanged (worldOf (x.run.run s).2)

lemma keeps_pure (a : α) : Keeps worldOf (pure a) := fun s => .refl (worldOf s)

lemma keeps_throw (failure : Failure ProgramError) :
    Keeps worldOf (throw failure : Step (StateM σ) α) := fun s => .refl (worldOf s)

lemma keeps_liftM {x : StateM σ α} (h : ∀ s, (worldOf s).Unchanged (worldOf (x.run s).2)) :
    Keeps worldOf (liftM x) := h

lemma Keeps.bind {x : Step (StateM σ) α} {f : α → Step (StateM σ) β} (hx : Keeps worldOf x)
    (hf : ∀ a, Keeps worldOf (f a)) : Keeps worldOf (x >>= f) := by
  intro s
  have hfirst := hx s
  rw [run_bind_eq]
  generalize x.run.run s = out at hfirst ⊢
  rcases out with ⟨failure | a, next⟩
  · exact hfirst
  · exact hfirst.trans (hf a next)

lemma keeps_forM {x : α → Step (StateM σ) Unit} (h : ∀ a, Keeps worldOf (x a)) (as : List α) :
    Keeps worldOf (as.forM x) := by
  induction as with
  | nil => exact keeps_pure ()
  | cons a as ih => exact (h a).bind fun _ => ih

section Faithful

variable [MonadFiles (StateM σ)] (hfaithful : Faithful worldOf)

include hfaithful

lemma keeps_logged (x : Logged ConfigError α) :
    Keeps worldOf (logged x : Step (StateM σ) α) := by
  refine (keeps_forM (fun e => keeps_liftM (hfaithful.report e)) x.events).bind fun _ => ?_
  cases x.outcome with
  | ok a => exact keeps_pure a
  | error failure =>
    cases failure with
    | overflow => exact keeps_throw _
    | refused cause => exact keeps_throw _

lemma keeps_readInput (read : String → Except ConfigError α) (path : String) :
    Keeps worldOf (readInput read path : Step (StateM σ) α) := by
  have htext : Keeps worldOf (readText path : Step (StateM σ) String) := by
    refine (keeps_liftM (hfaithful.readBytes path)).bind fun bytes => ?_
    cases bytes with
    | error cause => exact keeps_throw _
    | ok bytes =>
      dsimp only
      cases String.fromUTF8? bytes with
      | none => exact keeps_throw _
      | some text => exact keeps_pure text
  refine htext.bind fun text => ?_
  cases read text with
  | ok a => exact keeps_pure a
  | error cause => exact keeps_throw _

/-- **Until it has built its system** the program changes no file. -/
lemma keeps_chosenSoc (source : Source) :
    Keeps worldOf (chosenSoc source : Step (StateM σ) Soc) := by
  unfold chosenSoc
  cases source.description with
  | some path =>
    cases source.ethernet || source.config.isSome with
    | true =>
      exact (keeps_throw _).bind fun _ =>
        (keeps_readInput hfaithful _ path).bind fun _ => keeps_logged hfaithful _
    | false => exact (keeps_readInput hfaithful _ path).bind fun _ => keeps_logged hfaithful _
  | none =>
    cases source.config with
    | none => exact (keeps_pure _).bind fun _ => keeps_logged hfaithful _
    | some path => exact (keeps_readInput hfaithful _ path).bind fun _ => keeps_logged hfaithful _

end Faithful

/-! ### Failures -/

/-- The exports of `front` hold their texts, and at the places of those of `back` is what was there
before. Nothing else is different but for new directories. -/
structure WrittenUpTo (w w' : World) (directory : String) (front back : List (String × String)) :
    Prop where
  follows : w.Follows w'
  fresh : ∀ f ∈ front, Fresh w' directory f
  kept : ∀ f ∈ back, ∀ place, w'.locate (joinPath directory f.1) = .ok place →
    w'.tree.content? place = w.tree.content? place
  elsewhere : ∀ place, (∀ f ∈ front, w'.locate (joinPath directory f.1) ≠ .ok place) →
    w'.tree.get? place = w.tree.get? place ∨
      w.tree.get? place = none ∧ w'.tree.get? place = some .directory

lemma Written.writtenUpTo {front back : List (String × String)} (hgains : w.GainsDirectories mid)
    (hwritten : Written mid w' directory front) (hproper : ∀ f ∈ front ++ back, IsProper f.1)
    (hnames : ((front ++ back).map (·.1)).Nodup) : WrittenUpTo w w' directory front back where
  follows := hgains.follows.trans hwritten.follows
  fresh := hwritten.fresh
  kept := by
    intro f hf place hlocate
    rw [← hgains.tree.content?_eq place]
    unfold content?
    rw [hwritten.elsewhere place]
    intro g hg hother
    have hname := name_eq_of_locate (hproper g (List.mem_append_left _ hg))
      (hproper f (List.mem_append_right _ hf)) hother hlocate
    rw [List.map_append, List.nodup_append] at hnames
    exact hnames.2.2 _ (List.mem_map_of_mem hg) _ (List.mem_map_of_mem hf) hname
  elsewhere place hplace := by
    rw [hwritten.elsewhere place hplace]
    exact hgains.tree place

section Failures

variable [MonadFiles (StateM σ)]

/-- How a run that writes exports ends, and what it leaves. -/
inductive Ends (worldOf : σ → World) (source : Source) (directory : String) (accessors : Bool)
    (s s' : σ) : Outcome ProgramError Unit → Prop
  | building {failure : Failure ProgramError} {next : σ}
    (fails : (chosenSoc source : Step (StateM σ) Soc).run.run s = (.error failure, next))
    (unchanged : (worldOf s).Unchanged (worldOf s')) :
    Ends worldOf source directory accessors s s' (.error failure)
  | rendering {soc : Soc} {next : σ} {cause : ConfigError}
    (built : (chosenSoc source : Step (StateM σ) Soc).run.run s = (.ok soc, next))
    (fails : exports soc accessors = .error cause)
    (unchanged : (worldOf s).Unchanged (worldOf s')) :
    Ends worldOf source directory accessors s s' (refuse (.refused cause))
  | creating {soc : Soc} {next : σ} {files : List (String × String)} {cause : FileError}
    (built : (chosenSoc source : Step (StateM σ) Soc).run.run s = (.ok soc, next))
    (rendered : exports soc accessors = .ok files)
    (gains : (worldOf s).GainsDirectories (worldOf s'))
    (contents : ∀ place, (worldOf s').tree.content? place = (worldOf s).tree.content? place) :
    Ends worldOf source directory accessors s s' (refuse (.cannotCreate directory cause))
  | writing {soc : Soc} {next : σ} {front back : List (String × String)} {f : String × String}
    {cause : ProgramError}
    (built : (chosenSoc source : Step (StateM σ) Soc).run.run s = (.ok soc, next))
    (rendered : exports soc accessors = .ok (front ++ f :: back))
    (names : (front ++ f :: back).map (·.1) = ["csr.h", "csr.json", "csr.csv"])
    (fails : FailsWriting (joinPath directory f.1) cause)
    (written : WrittenUpTo (worldOf s) (worldOf s') directory front (f :: back)) :
    Ends worldOf source directory accessors s s' (refuse cause)
  | succeeding {soc : Soc} {next : σ} {files : List (String × String)}
    (built : (chosenSoc source : Step (StateM σ) Soc).run.run s = (.ok soc, next))
    (rendered : exports soc accessors = .ok files)
    (names : files.map (·.1) = ["csr.h", "csr.json", "csr.csv"])
    (written : WrittenUpTo (worldOf s) (worldOf s') directory files []) :
    Ends worldOf source directory accessors s s' (.ok ())

/-- **A run that fails leaves the exports intact.** Where the system cannot be built or rendered, the
run fails, and no file and no directory is created, changed or removed. Where the directory cannot be
created, no file is changed. Where an export cannot be written, as its temporary file cannot be made,
filled or persisted, those before it hold their new texts, and it and those after it hold what they
held before. Otherwise all hold their new texts. -/
theorem run_failure_intact (hfaithful : Faithful worldOf) (source : Source)
    (output : Option String) (accessors : Bool) {outcome : Outcome ProgramError Unit}
    (h : (run (.generate false source output accessors) : StateM σ _).run s = (outcome, s')) :
    Ends worldOf source (output.getD defaultDirectory) accessors s s' outcome := by
  have hkeeps := keeps_chosenSoc hfaithful source s
  rw [run_generate_eq] at h
  rcases hbuilt : (chosenSoc source : Step (StateM σ) Soc).run.run s with ⟨failure | soc, next⟩
  · rw [hbuilt] at h hkeeps
    cases h
    exact .building hbuilt hkeeps
  · rw [hbuilt] at h hkeeps
    cases hexports : exports soc accessors with
    | error cause =>
      simp only [hexports] at h
      cases h
      exact .rendering hbuilt hexports hkeeps
    | ok files =>
      simp only [hexports, Bool.false_eq_true, if_false] at h
      rw [run_writeExports_eq] at h
      have hgains := hkeeps.gainsDirectories.trans
        (hfaithful.createDirectories (output.getD defaultDirectory) next)
      rcases hcreate : (MonadFiles.createDirectories (output.getD defaultDirectory) :
        StateM σ _).run next with ⟨cause | u, created⟩
      · rw [hcreate] at h hgains
        cases h
        exact .creating hbuilt hexports hgains hgains.tree.content?_eq
      · rw [hcreate] at h hgains
        have hnames := map_name_exports hexports
        obtain ⟨hproper, hnodup⟩ := exports_apart hexports
        rcases written_of_writeAll hfaithful hproper hnodup h with
          ⟨rfl, hwritten⟩ | ⟨front, f, back, cause, rfl, rfl, hfails, hwritten⟩
        · rw [← List.append_nil files] at hproper hnodup
          exact .succeeding hbuilt hexports hnames (hwritten.writtenUpTo hgains hproper hnodup)
        · exact .writing hbuilt hexports hnames hfails
            (hwritten.writtenUpTo hgains hproper hnodup)

end Failures

/-! ### A directory in the way -/

/-- A write fails at the first export that has a directory in its place. -/
lemma exists_run_writeAll_error {front : List (String × String)} {f : String × String}
    {place : Place} (back : List (String × String))
    (hfront : ∀ g ∈ front, Writable w (joinPath directory g.1))
    (htakes : w.TakesTemporary (directoryOf (joinPath directory f.1)))
    (hplace : w.locate (joinPath directory f.1) = .ok place)
    (hdirectory : w.tree.get? place = some .directory) :
    ∃ w', (writeAll directory (front ++ f :: back)).run.run w
      = (refuse (.cannotReplace (joinPath directory f.1) .isDirectory), w') := by
  obtain ⟨mid, hmid, hfollows⟩ := exists_run_writeAll hfront
  obtain ⟨printed, hwrite⟩ := run_writeExport f.2 (hfollows.takesTemporary htakes)
  have hreplace : World.replaceFile { mid with printed := printed } (joinPath directory f.1)
      f.2.toUTF8 = .error .isDirectory :=
    replaceFile_of_directory (hfollows.locate hplace) (hfollows.directories place hdirectory)
  rw [hreplace] at hwrite
  refine ⟨{ mid with printed := printed }, ?_⟩
  rw [writeAll_append, run_bind hmid, writeAll_cons, run_bind_eq, hwrite]
  rfl

/-- A world with a directory where the second export belongs, and an old third one. -/
def blocked (text : String) : World where
  tree := ⟨[(["soc"], .file text.toUTF8), (["out"], .directory), (["out", "csr.json"], .directory),
    (["out", "csr.csv"], .file "old".toUTF8)]⟩

lemma answer_blocked : answer { description := some "soc" } (blocked "banks: []") = .ok bareSoc := by
  rw [← answer_bare]
  refine answer_congr fun path hpath => ?_
  cases hpath
  have hplace : (blocked "banks: []").locate "soc" = .ok ["soc"] := isRelative_soc.locate _
  rw [readBytes_holdingFile, World.readBytes, hplace]
  rfl

lemma run_blocked : ∃ w', (run (.generate false { description := some "soc" } (some "out") false) :
    StateM World _).run (blocked "banks: []")
      = (refuse (.cannotReplace (joinPath "out" "csr.json") .isDirectory), w') := by
  have hanswer := answer_blocked
  obtain ⟨files, hexports⟩ := exists_exports_bare
  generalize "banks: []" = text at *
  obtain ⟨events, hrun⟩ := run_generate false { description := some "soc" } (some "out") false
    (blocked text)
  obtain ⟨header, -, hfiles⟩ := bind_eq_ok_iff.1 hexports
  cases hfiles
  have hcreate : World.createDirectories { blocked text with events := events } "out"
      = (.ok (), { blocked text with events := events }) := isRelative_out.createDirectories _
  have htakes {name : String} (hname : name ∈ ["csr.h", "csr.json", "csr.csv"]) :
      World.TakesTemporary { blocked text with events := events }
        (directoryOf (joinPath "out" name)) :=
    ⟨["out", ".tmpXXXXXX"], (isRelative_temporary name hname).locate _⟩
  have hfirst : World.locate { blocked text with events := events } (joinPath "out" "csr.h")
      = .ok ["out", "csr.h"] := (isRelative_export "csr.h" (by simp)).locate _
  have hsecond : World.locate { blocked text with events := events } (joinPath "out" "csr.json")
      = .ok ["out", "csr.json"] := (isRelative_export "csr.json" (by simp)).locate _
  have hfront : ∀ g ∈ [("csr.h", header)],
      Writable { blocked text with events := events } (joinPath "out" g.1) := by
    have hnone : (blocked text).tree.get? ["out", "csr.h"] = none := rfl
    rw [List.forall_mem_singleton]
    refine ⟨htakes (by simp), _, hfirst, ?_⟩
    rw [hnone]
    exact (Option.some_ne_none _).symm
  obtain ⟨w', hwrite⟩ := exists_run_writeAll_error [("csr.csv", bareSoc.csv)] hfront
    (f := ("csr.json", bareSoc.json)) (htakes (by simp)) hsecond rfl
  rw [hanswer] at hrun
  simp only [hexports, Bool.false_eq_true, if_false] at hrun
  rw [run_writeExports_eq, run_createDirectories, Option.getD_some, hcreate] at hrun
  exact ⟨w', hrun.trans hwrite⟩

/-- The second export cannot be replaced: the first one is new, and the third one is as it was. -/
theorem run_failure_intact_blocked : ∃ w' f files,
    (run (.generate false { description := some "soc" } (some "out") false) : StateM World _).run
        (blocked "banks: []") = (refuse (.cannotReplace "out/csr.json" .isDirectory), w') ∧
    exports bareSoc false = .ok (f :: files) ∧ Fresh w' "out" f ∧
    w'.tree.content? ["out", "csr.csv"] = some "old".toUTF8 := by
  have hpaths : joinPath "out" "csr.h" ≠ "out/csr.json" ∧
    joinPath "out" "csr.json" = "out/csr.json" := by decide +kernel
  obtain ⟨w', hrun⟩ := run_blocked
  rw [hpaths.2] at hrun
  have hends := run_failure_intact faithful_world { description := some "soc" } (some "out") false
    hrun
  have hanswer := answer_blocked
  generalize "banks: []" = text at *
  refine ⟨w', ?_⟩
  simp only [hrun, true_and]
  generalize hfailure : refuse (ProgramError.cannotReplace "out/csr.json" .isDirectory) = outcome
    at hends
  cases hends with
  | building fails =>
    rw [answer, fails] at hanswer
    cases hanswer
  | rendering => cases hfailure
  | creating => cases hfailure
  | succeeding => cases hfailure
  | @writing soc next front back f cause built rendered names fails written =>
    rw [answer, built] at hanswer
    cases hanswer
    have hthird : ∃ g ∈ f :: back, g.1 = "csr.csv" := by
      have hlast := congrArg List.getLast? names
      rw [List.getLast?_map, List.getLast?_append_of_ne_nil _ (List.cons_ne_nil f back)] at hlast
      obtain ⟨g, hget, hname⟩ := Option.map_eq_some_iff.1 hlast
      exact ⟨g, List.mem_of_getLast? hget, hname⟩
    cases front with
    | nil =>
      rw [List.nil_append, List.map_cons, List.cons.injEq] at names
      obtain rfl := Failure.refused.inj (Except.error.inj hfailure)
      generalize hpath : joinPath (Option.getD (some "out") defaultDirectory) f.1 = path at fails
      rw [Option.getD_some, names.1] at hpath
      cases fails
      exact absurd hpath hpaths.1
    | cons first front =>
      obtain ⟨g, hg, hname⟩ := hthird
      have hplace : (blocked text).locate (joinPath "out" "csr.csv") = .ok ["out", "csr.csv"] :=
        (isRelative_export "csr.csv" (by simp)).locate _
      refine ⟨first, _, rendered, written.fresh first List.mem_cons_self, ?_⟩
      refine (written.kept g hg _ ?_).trans rfl
      rw [hname]
      exact written.follows.locate hplace

end CsrMap.Program
