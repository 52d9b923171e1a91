import CsrMap.Board.Assembly
import CsrMap.CommandLine
import CsrMap.Export.Document
import CsrMap.Export.Rows
import CsrMap.Files.Effect
import CsrMap.Header.Text
import CsrMap.Report

/-!
The program: it builds a system, from a blueprint or for the built-in board, and prints its map
or writes its exports.

Options for the bus replace what the input says. All exports are rendered before anything is
written, so a system that cannot be built leaves the files as they were. Each export is written to a
temporary file that then takes its place, so no reader finds a part of it.
-/

namespace CsrMap.Program

open CommandLine Files

/-- Why a file of exports is not what it should be. -/
inductive Staleness where
  | unreadable (cause : FileError)
  | different
  deriving DecidableEq, Repr

inductive ProgramError where
  | boardOptionsOnly
  | unreadableInput (path : String) (cause : FileError)
  | badInput (path : String) (cause : ConfigError)
  | refused (cause : ConfigError)
  | outOfDate (files : List (String × String × Staleness))
  | cannotCreate (path : String) (cause : FileError)
  | cannotWrite (cause : FileError)
  | cannotReplace (path : String) (cause : FileError)
  deriving DecidableEq, Repr

def Staleness.message (path : String) : Staleness → String
  | unreadable cause => "cannot read " ++ Text.quoted path ++ ": " ++ cause.message
  | different => Text.quoted path ++ " does not match the generator output"

def ProgramError.message : ProgramError → String
  | boardOptionsOnly =>
    "--with-ethernet and --config only apply to the built-in Arty target"
  | unreadableInput path cause =>
    "failed to read " ++ Text.quoted path ++ ": " ++ cause.message
  | badInput path cause => Text.quoted path ++ ": " ++ cause.message
  | refused cause => cause.message
  | outOfDate files =>
    "generated CSR files are out of date:\n  "
      ++ "\n  ".intercalate (files.map fun (name, path, staleness) =>
        name ++ ": " ++ staleness.message path)
      ++ "\nRun \"cargo xtask csr-autogen\" to update them."
  | cannotCreate path cause => "failed to create " ++ Text.quoted path ++ ": " ++ cause.message
  | cannotWrite cause => cause.message
  | cannotReplace path cause =>
    "failed to replace " ++ Text.quoted path ++ ": failed to persist temporary file: "
      ++ cause.message ++ ": " ++ cause.message

/-! ## The system -/

/-- The bus with the widths and addresses that the options ask for. -/
def overrideBus (source : Source) (bus : BusGeometry) : BusGeometry :=
  { bus with
    dataWidth := source.dataWidth.getD bus.dataWidth
    base := source.base.getD bus.base }

def overrideBoard (source : Source) (choices : Board.Choices) : Board.Choices :=
  { choices with
    ethernet := choices.ethernet || source.ethernet
    dataWidth := source.dataWidth.getD choices.dataWidth
    base := source.base.getD choices.base }

/-- The system of a blueprint. -/
def describedSoc (source : Source) (b : Blueprint) : Logged ConfigError Soc := do
  let bus ← b.geometry {}
  let declarations ← b.declarations
  declarations.completeLogged (overrideBus source bus)

/-- The system of the built-in board. -/
def boardSoc (source : Source) (choices : Board.Choices) : Logged ConfigError Soc :=
  (overrideBoard source choices).completeLogged

section

variable {m : Type → Type} [Monad m] [MonadFiles m]

abbrev Step (m : Type → Type) (α : Type) : Type := ExceptT (Failure ProgramError) m α

def fail {α : Type} (e : ProgramError) : Step m α := throw (.refused e)

/-- The events of a computation are reported also where it fails. -/
def logged {α : Type} (x : Logged ConfigError α) : Step m α := do
  x.events.forM fun e => (MonadFiles.report e : m Unit)
  match x.outcome with
  | .ok a => pure a
  | .error .overflow => throw .overflow
  | .error (.refused cause) => fail (.refused cause)

def readText (path : String) : Step m String := do
  match ← (MonadFiles.readBytes path : m _) with
  | .error cause => fail (.unreadableInput path cause)
  | .ok bytes =>
    match String.fromUTF8? bytes with
    | some text => pure text
    | none => fail (.unreadableInput path .notText)

def readInput {α : Type} (read : String → Except ConfigError α) (path : String) :
    Step m α := do
  match read (← readText path) with
  | .ok a => pure a
  | .error cause => fail (.badInput path cause)

def chosenSoc (source : Source) : Step m Soc := do
  match source.description with
  | some path =>
    if source.ethernet || source.config.isSome then
      fail .boardOptionsOnly
    logged (describedSoc source (← readInput Blueprint.read path))
  | none =>
    let choices ← match source.config with
      | some path => readInput Board.Choices.read path
      | none => pure {}
    logged (boardSoc source choices)

/-! ## Exports -/

def banner : String :=
  "Licensed under the Apache-2.0 license.\n\nGenerated by `cargo xtask csr-autogen`. Do not edit."

/-- The files of a system with their texts. -/
def exports (soc : Soc) (accessors : Bool) : Except ConfigError (List (String × String)) := do
  let header ← soc.header { bannerText := some banner, withAccessors := accessors }
  pure [("csr.h", header), ("csr.json", soc.json), ("csr.csv", soc.csv)]

def staleness (path text : String) : m (Option Staleness) := do
  MonadFiles.print ("Checking file " ++ Text.quoted path ++ "\n")
  match ← MonadFiles.readBytes path with
  | .error cause => pure (some (.unreadable cause))
  | .ok bytes => pure (if bytes == text.toUTF8 then none else some .different)

/-- The files that are missing or differ from what would be written. -/
def staleFiles (directory : String) :
    List (String × String) → m (List (String × String × Staleness))
  | [] => pure []
  | (name, text) :: files => do
    let path := joinPath directory name
    let found ← staleness path text
    let others ← staleFiles directory files
    pure (match found with
      | some s => (name, path, s) :: others
      | none => others)

def checkFiles (directory : String) (files : List (String × String)) : Step m Unit := do
  let stale ← (staleFiles directory files : m _)
  if !stale.isEmpty then
    fail (.outOfDate stale)

/-- Fails without leaving the temporary file. -/
def abandon (temporary : String) (e : ProgramError) : Step m Unit := do
  (MonadFiles.removeTemporary temporary : m Unit)
  fail e

/-- Fills the temporary file and puts it in the place of the file at the path. -/
def replaceThrough (temporary path : String) (content : ByteArray) : Step m Unit := do
  match ← (MonadFiles.fillTemporary temporary content : m _) with
  | .error cause => abandon temporary (.cannotWrite cause)
  | .ok () =>
    match ← (MonadFiles.persistTemporary temporary path : m _) with
    | .error cause => abandon temporary (.cannotReplace path cause)
    | .ok () => pure ()

def writeExport (path text : String) : Step m Unit := do
  (MonadFiles.print ("Writing to " ++ Text.quoted path ++ "\n") : m Unit)
  match ← (MonadFiles.createTemporary (directoryOf path) : m _) with
  | .error cause => fail (.cannotWrite cause)
  | .ok temporary => replaceThrough temporary path text.toUTF8

def writeExports (directory : String) (files : List (String × String)) : Step m Unit := do
  match ← (MonadFiles.createDirectories directory : m _) with
  | .error cause => fail (.cannotCreate directory cause)
  | .ok () => files.forM fun (name, text) => writeExport (joinPath directory name) text

def generate (check : Bool) (source : Source) (directory : String) (accessors : Bool) :
    Step m Unit := do
  let soc ← chosenSoc source
  match exports soc accessors with
  | .error cause => fail (.refused cause)
  | .ok files => if check then checkFiles directory files else writeExports directory files

def showMap (source : Source) : Step m Unit := do
  let soc ← chosenSoc source
  match soc.report with
  | none => throw .overflow
  | some text => (MonadFiles.print text : m Unit)

/-- The directory of the exports if none is given. -/
def defaultDirectory : String := "software/include/generated"

def run (command : Command) : m (Outcome ProgramError Unit) :=
  ExceptT.run
    (match command with
    | .generate check source directory accessors =>
      generate check source (directory.getD defaultDirectory) accessors
    | .show source => showMap source)

end

end CsrMap.Program
