import CsrMap.Log
import CsrMap.Text.Quoted

/-!
What a program may do outside of itself: read files, create directories, write temporary files and
put them in the place of other files, print, and report events.

What fails may be done in part, so a temporary file that cannot be filled may hold anything. Only to
put a file in the place of another is done as a whole or not at all.
-/

namespace CsrMap.Files

inductive FileError where
  | notFound
  | exists
  | notDirectory
  | isDirectory
  | nameTooLong
  /-- A null character would end the path early. -/
  | nullInPath
  /-- The bytes are no text in UTF-8. -/
  | notText
  /-- Nobody has named the path of a temporary file, so it is told with the cause. -/
  | atPath (path : String) (cause : FileError)
  | other (text : String)
  deriving DecidableEq, Repr

def FileError.message : FileError → String
  | notFound => "No such file or directory (os error 2)"
  | «exists» => "File exists (os error 17)"
  | notDirectory => "Not a directory (os error 20)"
  | isDirectory => "Is a directory (os error 21)"
  | nameTooLong => "File name too long (os error 36)"
  | nullInPath => "file name contained an unexpected NUL byte"
  | notText => "stream did not contain valid UTF-8"
  | atPath path cause => cause.message ++ " at path " ++ Text.quoted path
  | other text => text

class MonadFiles (m : Type → Type) where
  readBytes : String → m (Except FileError ByteArray)
  /-- Creates a directory and those above it, as far as they are missing. -/
  createDirectories : String → m (Except FileError Unit)
  /-- Makes an empty temporary file in a directory, and gives its path. -/
  createTemporary : String → m (Except FileError String)
  /-- Writes to the end of a temporary file. -/
  fillTemporary : String → ByteArray → m (Except FileError Unit)
  /-- Moves a temporary file to a path, over the file that is there, as a whole or not at all. -/
  persistTemporary : String → String → m (Except FileError Unit)
  /-- Removes a temporary file, if it can. -/
  removeTemporary : String → m Unit
  print : String → m Unit
  report : Event → m Unit

/-- The path of a file in a directory. -/
def joinPath (directory name : String) : String :=
  if directory.isEmpty || directory.endsWith "/" then directory ++ name
  else directory ++ "/" ++ name

/-- The directory of a path: what stands in it up to the last slash. -/
def directoryOf (path : String) : String :=
  String.ofList (path.toList.reverse.dropWhile (· ≠ '/')).reverse

end CsrMap.Files
