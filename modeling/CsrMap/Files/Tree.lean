import CsrMap.Files.Effect

/-!
A tree of directories and files, and the effects of a program on it.

Every entry is kept under its place, the names on the way to it from the root. A path is walked
name by name; what is walked through must be a directory.
-/

namespace CsrMap.Files

inductive Entry where
  | directory
  | file (content : ByteArray)

/-- The names on the way from the root. -/
abbrev Place : Type := List String

/-- The number of bytes that the name of an entry may have. -/
def longestName : Nat := 255

/-- The number of bytes that a path may have. -/
def longestPath : Nat := 4095

structure Tree where
  entries : List (Place × Entry) := []

/-- Entries of other places do not matter to a look-up. -/
theorem lookup_filter_ne (entries : List (Place × Entry)) {place other : Place}
    (h : other ≠ place) :
    (entries.filter (·.1 ≠ place)).lookup other = entries.lookup other := by
  induction entries with
  | nil => rfl
  | cons e entries ih =>
    by_cases hp : e.1 = place
    · rw [List.filter_cons_of_neg (by simp [hp]), ih, List.lookup_cons,
        beq_false_of_ne (hp ▸ h)]
    · rw [List.filter_cons_of_pos (by simp [hp]), List.lookup_cons, List.lookup_cons, ih]

/-- The paths that end in one of the names, which are read backwards; none ends in a dot. -/
def pathsEnding : List String → List (List String)
  | [] => []
  | name :: names =>
    if name = "." then pathsEnding names else (name :: names).reverse :: pathsEnding names

/-- A path and those above it, nearest first. What ends in dots lies below the same paths as what
is before the dots. -/
def ascending (names : List String) : List (List String) :=
  names :: pathsEnding ((names.reverse.dropWhile (· = ".")).drop 1)

namespace Tree

/-- The root is always a directory. -/
def get? (t : Tree) (place : Place) : Option Entry :=
  if place.isEmpty then some .directory else t.entries.lookup place

/-- Puts an entry at a place, over what is there. -/
def put (t : Tree) (place : Place) (entry : Entry) : Tree :=
  ⟨(place, entry) :: t.entries.filter (·.1 ≠ place)⟩

@[simp] theorem get?_root (t : Tree) : t.get? [] = some .directory := rfl

theorem get?_put_self {t : Tree} {place : Place} (entry : Entry) (h : place ≠ []) :
    (t.put place entry).get? place = some entry := by
  unfold get? put
  simp [h]

theorem get?_put_of_ne {t : Tree} {place other : Place} (entry : Entry) (h : other ≠ place) :
    (t.put place entry).get? other = t.get? other := by
  unfold get? put
  split
  · rfl
  · rw [List.lookup_cons, beq_false_of_ne h]
    exact lookup_filter_ne t.entries h

def isDirectory (t : Tree) (place : Place) : Bool :=
  match t.get? place with
  | some .directory => true
  | _ => false

/-- The place to which names lead; it need not exist, but what is above it must. -/
def walk (t : Tree) : Place → List String → Except FileError Place
  | here, [] => .ok here
  | here, name :: names =>
    match t.get? here with
    | none => .error .notFound
    | some (.file _) => .error .notDirectory
    | some .directory =>
      if name = "" ∨ name = "." then walk t here names
      else if name = ".." then walk t here.dropLast names
      else if longestName < name.utf8ByteSize then .error .nameTooLong
      else walk t (here ++ [name]) names

/-- The names of the entries of a directory, in order. -/
def names (t : Tree) (place : Place) : List String :=
  let inside := t.entries.filterMap fun (p, _) =>
    match p.getLast? with
    | some name => if p.dropLast = place then some name else none
    | none => none
  inside.mergeSort (· ≤ ·)

/-- The tree with a new directory. -/
def createDirectory (t : Tree) (here : Place) (names : List String) : Except FileError Tree := do
  let place ← t.walk here names
  match t.get? place with
  | some _ => .error .exists
  | none => .ok (t.put place .directory)

/-- The names lead to a directory. -/
def leadsToDirectory (t : Tree) (here : Place) (names : List String) : Bool :=
  match t.walk here names with
  | .ok place => t.isDirectory place
  | .error _ => false

/--
The tree with a directory where the first of `paths` leads. Each path is tried once the next one
leads to a directory, if without it something is missing on the way. A directory that is there
already is left alone, and those created before a failure stay.
-/
def createAll (t : Tree) (here : Place) : List (List String) → Except FileError Unit × Tree
  | [] => (.ok (), t)
  | names :: above =>
    match t.createDirectory here names with
    | .ok t => (.ok (), t)
    | .error .notFound =>
      match createAll t here above with
      | (.error e, t) => (.error e, t)
      | (.ok (), t) =>
        match t.createDirectory here names with
        | .ok t => (.ok (), t)
        | .error e => (if t.leadsToDirectory here names then .ok () else .error e, t)
    | .error e => (if t.leadsToDirectory here names then .ok () else .error e, t)

end Tree

/-- The world of a program: files, the directory where relative paths start, what it told, and its
temporary files, which are no part of the tree. -/
structure World where
  tree : Tree := {}
  here : Place := []
  printed : String := ""
  events : List Event := []
  /-- The contents of the temporary files, by their paths. -/
  temporaries : List (String × ByteArray) := []

namespace World

/-- What stands between the slashes of a path. -/
def namesOf (path : String) : List String := (path.toList.splitOn '/').map String.ofList

/-- Where a path starts, and its names. -/
def start (w : World) (path : String) : Place × List String :=
  if path.startsWith "/" then ([], (namesOf path).drop 1) else (w.here, namesOf path)

/-- What no path can be is refused before anything is looked up. -/
def checkPath (path : String) : Except FileError Unit :=
  if path.contains '\x00' then .error .nullInPath
  else if longestPath < path.utf8ByteSize then .error .nameTooLong
  else .ok ()

def locate (w : World) (path : String) : Except FileError Place := do
  checkPath path
  if path.isEmpty then .error .notFound
  else
    let (here, names) := w.start path
    w.tree.walk here names

def readBytes (w : World) (path : String) : Except FileError ByteArray := do
  let place ← w.locate path
  match w.tree.get? place with
  | none => .error .notFound
  | some .directory => .error .isDirectory
  | some (.file content) => .ok content

def createDirectories (w : World) (path : String) : Except FileError Unit × World :=
  match checkPath path with
  | .error e => (.error e, w)
  | .ok () =>
    let (here, names) := w.start path
    let (outcome, tree) := w.tree.createAll here (ascending (names.filter (· ≠ "")))
    (outcome, { w with tree := tree })

def replaceFile (w : World) (path : String) (content : ByteArray) : Except FileError World := do
  let place ← w.locate path
  match w.tree.get? place with
  | some .directory => .error .isDirectory
  | _ => .ok { w with tree := w.tree.put place (.file content) }

/-- The path of a temporary file in a directory. The letters stand for those that are drawn until no
file has the name. -/
def temporaryPath (directory : String) : String := joinPath directory ".tmpXXXXXX"

/-- What a temporary file holds. -/
def temporary? (w : World) (path : String) : Option ByteArray := w.temporaries.lookup path

def addTemporary (w : World) (path : String) (content : ByteArray) : World :=
  { w with temporaries := (path, content) :: w.temporaries }

def removeTemporary (w : World) (path : String) : World :=
  { w with temporaries := w.temporaries.eraseP (·.1 == path) }

@[simp] theorem temporary?_addTemporary (w : World) (path : String) (content : ByteArray) :
    (w.addTemporary path content).temporary? path = some content := List.lookup_cons_self

@[simp] theorem removeTemporary_addTemporary (w : World) (path : String) (content : ByteArray) :
    (w.addTemporary path content).removeTemporary path = w := by
  simp [addTemporary, removeTemporary]

def createTemporary (w : World) (directory : String) : Except FileError (String × World) :=
  let path := temporaryPath directory
  match w.locate path with
  | .error cause => .error (.atPath path cause)
  | .ok _ => .ok (path, w.addTemporary path .empty)

def fillTemporary (w : World) (path : String) (content : ByteArray) :
    Except FileError (Unit × World) :=
  match w.temporary? path with
  | none => .error (.atPath path .notFound)
  | some start => .ok ((), (w.removeTemporary path).addTemporary path (start ++ content))

def persistTemporary (w : World) (temporary path : String) : Except FileError (Unit × World) :=
  match w.temporary? temporary with
  | none => .error .notFound
  | some content => ((w.removeTemporary temporary).replaceFile path content).map ((), ·)

/-- An effect that leaves the world as it is where it fails. -/
def attempt {α : Type} (change : World → Except FileError (α × World)) :
    StateM World (Except FileError α) := fun w =>
  match change w with
  | .ok (a, w) => (.ok a, w)
  | .error e => (.error e, w)

end World

instance : MonadFiles (StateM World) where
  readBytes path := do pure ((← get).readBytes path)
  createDirectories path := fun w => w.createDirectories path
  createTemporary directory := World.attempt (·.createTemporary directory)
  fillTemporary path content := World.attempt (·.fillTemporary path content)
  persistTemporary temporary path := World.attempt (·.persistTemporary temporary path)
  removeTemporary path := modify (·.removeTemporary path)
  print text := modify fun w => { w with printed := w.printed ++ text }
  report e := modify fun w => { w with events := w.events ++ [e] }

end CsrMap.Files
