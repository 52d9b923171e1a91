import CsrMap.Program

/-!
The program on the command line. Events go to the standard error stream; those of the lowest
level only where more is asked for.
-/

namespace CsrMap.Main

open Files

def fileError : IO.Error → FileError
  | .noFileOrDirectory .. => .notFound
  | .alreadyExists .. => .exists
  | .inappropriateType _ 20 _ => .notDirectory
  | .inappropriateType _ 21 _ => .isDirectory
  | .invalidArgument _ 36 _ => .nameTooLong
  | e => .other (toString e)

def attempt {α : Type} (action : IO α) : IO (Except FileError α) := do
  try
    return .ok (← action)
  catch e =>
    return .error (fileError e)

/-- The characters of a drawn name. -/
def drawable : List Char :=
  "ABCDEFGHIJKLMNOPQRSTUVWXYZabcdefghijklmnopqrstuvwxyz0123456789".toList

def drawName : IO String := do
  let bytes ← IO.getRandomBytes 6
  return ".tmp" ++ String.ofList (bytes.toList.map fun b => drawable.getD (b.toNat % 62) 'x')

/-- Names are drawn until one is free, but not for ever. Only its owner may read or write the file. -/
def createTemporary (directory : String) : Nat → IO (Except FileError String)
  | 0 => return .error (.atPath directory (.other "too many temporary files exist"))
  | draws + 1 => do
    let path := joinPath directory (← drawName)
    match ← attempt (IO.FS.Handle.mk path .writeNew) with
    | .ok _ =>
      let _ ← attempt (IO.setAccessRights path { user := { read := true, write := true } })
      return .ok path
    | .error .exists => createTemporary directory draws
    | .error cause => return .error (.atPath path cause)

def fillTemporary (path : String) (content : ByteArray) : IO Unit := do
  let file ← IO.FS.Handle.mk path .append
  file.write content
  file.flush

/-- Programs that write into the world, told which events to show. -/
abbrev Shown : Type → Type := ReaderT Level IO

def isShown : Level → Level → Bool
  | .debug, _ => true
  | _, .debug => false
  | _, _ => true

instance : MonadFiles Shown where
  readBytes path := attempt (IO.FS.readBinFile path)
  createDirectories path := attempt (IO.FS.createDirAll path)
  createTemporary directory := createTemporary directory 65536
  fillTemporary path content := do
    return (← attempt (fillTemporary path content)).mapError (.atPath path)
  persistTemporary temporary path := attempt (IO.FS.rename temporary path)
  removeTemporary path := do
    let _ ← attempt (IO.FS.removeFile path)
  print text := do (← IO.getStdout).putStr text
  report e := do
    if isShown (← read) e.level then
      IO.eprintln e.line

def usage : String :=
  "usage: csr-map [OPTIONS] | csr-autogen [--check] [--output-dir DIR] [--no-access-functions]"
    ++ " [OPTIONS]\n"
    ++ "options: [--verbose] [--with-ethernet] [--description FILE] [--config FILE]"
    ++ " [--csr-data-width N] [--csr-base ADDRESS]"

def run (arguments : List String) : IO UInt32 := do
  match CommandLine.parse? arguments with
  | none =>
    IO.eprintln usage
    return 2
  | some invocation =>
    let lowest : Level := if invocation.verbose then .debug else .info
    match ← (Program.run invocation.command : Shown _).run lowest with
    | .ok () => return 0
    | .error .overflow =>
      IO.eprintln "Error: arithmetic overflow"
      return 101
    | .error (.refused cause) =>
      IO.eprintln ("Error: " ++ cause.message)
      return 1

end CsrMap.Main

def main (arguments : List String) : IO UInt32 := CsrMap.Main.run arguments
