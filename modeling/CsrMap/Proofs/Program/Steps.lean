import CsrMap.Program
import CsrMap.Proofs.Files.World
import Mathlib.Tactic.Common

/-!
The steps of the program in a world, up to the system that it builds.

The program reads at most one input, and nothing else of the world decides which system it builds
or why there is none. Until it has built one it only reports.
-/

namespace CsrMap.Program

open CommandLine Files

variable {α β : Type} {w w' : World} {path : String} {source : Source}

/-- What the program answers in a world: the system, or why there is none. -/
def answer (source : Source) (w : World) : Outcome ProgramError Soc :=
  ((chosenSoc source : Step (StateM World) Soc).run.run w).1

/-- The file at `path` has a text that reads as `a`. -/
def ReadsAs (w : World) (path : String) (read : String → Except ConfigError α) (a : α) : Prop :=
  ∃ text, w.readBytes path = .ok text.toUTF8 ∧ read text = .ok a

/-- How the program tells the outcome of a system. -/
def told : Outcome ConfigError α → Outcome ProgramError α
  | .ok a => .ok a
  | .error .overflow => .error .overflow
  | .error (.refused cause) => refuse (.refused cause)

/-- How the program tells what it reads from the bytes of its input. -/
def given (read : String → Except ConfigError α) (path : String) :
    Except FileError ByteArray → Outcome ProgramError α
  | .error cause => refuse (.unreadableInput path cause)
  | .ok bytes =>
    match String.fromUTF8? bytes with
    | none => refuse (.unreadableInput path .notText)
    | some text =>
      match read text with
      | .ok a => .ok a
      | .error cause => refuse (.badInput path cause)

/-! ### Steps one after another -/

section States

variable {σ : Type} {s s' : σ}

lemma run_bind_eq (x : Step (StateM σ) α) (f : α → Step (StateM σ) β) (s : σ) :
    (x >>= f).run.run s = match x.run.run s with
      | (.ok a, s') => (f a).run.run s'
      | (.error e, s') => (.error e, s') := by
  show (ExceptT.bindCont f (x.run.run s).1 : StateM σ _) (x.run.run s).2 = _
  rcases x.run.run s with ⟨e | a, s'⟩ <;> rfl

lemma run_bind {x : Step (StateM σ) α} {f : α → Step (StateM σ) β} {a : α}
    (h : x.run.run s = (.ok a, s')) : (x >>= f).run.run s = (f a).run.run s' := by
  rw [run_bind_eq, h]

/-- A step that is one effect succeeds with its answer. -/
lemma run_liftM (x : StateM σ α) (s : σ) :
    (liftM x : Step (StateM σ) α).run.run s = (.ok (x.run s).1, (x.run s).2) := rfl

end States

lemma run_forM_report (events : List Event) (w : World) :
    (events.forM fun e => (MonadFiles.report e : StateM World Unit) :
        Step (StateM World) Unit).run.run w
      = (.ok (), { w with events := w.events ++ events }) := by
  induction events generalizing w with
  | nil =>
    rw [List.append_nil]
    rfl
  | cons e events ih =>
    have hfirst : (liftM (MonadFiles.report e : StateM World Unit) :
        Step (StateM World) Unit).run.run w
          = (.ok (), { w with events := w.events ++ [e] }) := rfl
    refine (run_bind hfirst).trans ?_
    rw [ih, List.append_assoc]
    rfl

lemma run_logged (x : Logged ConfigError α) (w : World) :
    (logged x : Step (StateM World) α).run.run w
      = (told x.outcome, { w with events := w.events ++ x.events }) := by
  refine (run_bind (run_forM_report x.events w)).trans ?_
  rcases x with ⟨events, (_ | cause) | a⟩ <;> rfl

/-! ### The input -/

lemma fromUTF8?_toUTF8 (text : String) : String.fromUTF8? text.toUTF8 = some text := by
  rw [String.fromUTF8?, String.toUTF8_eq_toByteArray, dif_pos text.isValidUTF8]
  rfl

lemma run_readInput_eq (read : String → Except ConfigError α) (path : String) (w : World) :
    (readInput read path : Step (StateM World) α).run.run w
      = (given read path (w.readBytes path), w) := by
  have hlift : (liftM (MonadFiles.readBytes path : StateM World _) :
      Step (StateM World) _).run.run w = (.ok (w.readBytes path), w) := rfl
  have htext : (readText path : Step (StateM World) String).run.run w
      = (given .ok path (w.readBytes path), w) := by
    refine (run_bind hlift).trans ?_
    cases w.readBytes path with
    | error cause => rfl
    | ok bytes =>
      unfold given
      dsimp only
      cases String.fromUTF8? bytes <;> rfl
  refine (run_bind_eq _ _ w).trans ?_
  rw [htext]
  unfold given
  cases w.readBytes path with
  | error cause => rfl
  | ok bytes =>
    dsimp only
    cases String.fromUTF8? bytes with
    | none => rfl
    | some text =>
      dsimp only
      cases read text <;> rfl

lemma given_eq_ok_of_readsAs {read : String → Except ConfigError α} {a : α}
    (h : ReadsAs w path read a) : given read path (w.readBytes path) = .ok a := by
  obtain ⟨text, hbytes, hread⟩ := h
  rw [hbytes]
  simp only [given, fromUTF8?_toUTF8, hread]

lemma run_readInput {read : String → Except ConfigError α} {a : α} (h : ReadsAs w path read a) :
    (readInput read path : Step (StateM World) α).run.run w = (.ok a, w) := by
  rw [run_readInput_eq, given_eq_ok_of_readsAs h]

/-! ### The system -/

/-- The file that the options name for the input. -/
def inputPath (source : Source) : Option String := source.description.or source.config

/-- What the program answers and reports, by what it reads. -/
def chosenFrom (source : Source) (read : String → Except FileError ByteArray) :
    Outcome ProgramError Soc × List Event :=
  let finished (x : Logged ConfigError Soc) := (told x.outcome, x.events)
  match source.description with
  | some path =>
    if source.ethernet || source.config.isSome then (refuse .boardOptionsOnly, [])
    else
      match given Blueprint.read path (read path) with
      | .ok b => finished (describedSoc source b)
      | .error failure => (.error failure, [])
  | none =>
    match source.config with
    | none => finished (boardSoc source {})
    | some path =>
      match given Board.Choices.read path (read path) with
      | .ok choices => finished (boardSoc source choices)
      | .error failure => (.error failure, [])

/-- The program builds its system from what it reads, and leaves the world but for its reports. -/
lemma run_chosenSoc (source : Source) (w : World) :
    (chosenSoc source : Step (StateM World) Soc).run.run w
      = ((chosenFrom source w.readBytes).1,
        { w with events := w.events ++ (chosenFrom source w.readBytes).2 }) := by
  unfold chosenSoc chosenFrom
  cases source.description with
  | some path =>
    cases hboard : source.ethernet || source.config.isSome with
    | true =>
      simp only [if_true, List.append_nil]
      rfl
    | false =>
      simp only [Bool.false_eq_true, if_false]
      rw [run_bind_eq, run_readInput_eq]
      cases given Blueprint.read path (w.readBytes path) with
      | error failure => simp only [List.append_nil]
      | ok b => exact run_logged _ w
  | none =>
    cases source.config with
    | none => exact run_logged _ w
    | some path =>
      simp only
      rw [run_bind_eq, run_readInput_eq]
      cases given Board.Choices.read path (w.readBytes path) with
      | error failure => simp only [List.append_nil]
      | ok choices => exact run_logged _ w

lemma answer_eq (source : Source) (w : World) :
    answer source w = (chosenFrom source w.readBytes).1 := by
  rw [answer, run_chosenSoc]

/-- Only what is read from the input matters. -/
lemma answer_congr
    (h : ∀ path, inputPath source = some path → w.readBytes path = w'.readBytes path) :
    answer source w = answer source w' := by
  rw [answer_eq, answer_eq]
  unfold inputPath at h
  unfold chosenFrom
  cases hdescription : source.description with
  | some path =>
    rw [hdescription, Option.some_or] at h
    simp only [h path rfl]
  | none =>
    rw [hdescription, Option.none_or] at h
    cases hconfig : source.config with
    | none => rfl
    | some path => simp only [h path hconfig]

/-- A system is built from an input that can be read. -/
lemma exists_bytes_of_answer {soc : Soc} (h : answer source w = .ok soc)
    (hpath : inputPath source = some path) : ∃ bytes, w.readBytes path = .ok bytes := by
  rw [answer_eq] at h
  unfold inputPath at hpath
  unfold chosenFrom at h
  cases hread : w.readBytes path with
  | ok bytes => exact ⟨bytes, rfl⟩
  | error cause =>
    cases hdescription : source.description with
    | some other =>
      rw [hdescription, Option.some_or] at hpath
      cases hpath
      simp only [hdescription, hread, given, refuse] at h
      split at h <;> cases h
    | none =>
      rw [hdescription, Option.none_or] at hpath
      simp only [hdescription, hpath, hread, given, refuse] at h
      cases h

/-! ### One file -/

/-- A world with one file. -/
def holdingFile (name text : String) : World := { tree := ⟨[([name], .file text.toUTF8)]⟩ }

lemma isRelative_soc : World.IsRelative "soc" ["soc"] := by decide +kernel

lemma readBytes_holdingFile (text : String) :
    (holdingFile "soc" text).readBytes "soc" = .ok text.toUTF8 := by
  have hplace : (holdingFile "soc" text).locate "soc" = .ok ["soc"] := isRelative_soc.locate _
  rw [World.readBytes, hplace]
  rfl

lemma readsAs_holdingFile {read : String → Except ConfigError α} {a : α} {text : String}
    (h : read text = .ok a) : ReadsAs (holdingFile "soc" text) "soc" read a :=
  ⟨text, readBytes_holdingFile text, h⟩

end CsrMap.Program
