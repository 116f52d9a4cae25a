import LayerView.Files.Path

/-!
# A disk in memory

Directories and files below a working directory.  A path is walked part by part: every part but the
last has to lead to a directory, and so has one that a slash follows.  What fails on the way has the
meaning and the wording of the operating system's own errors.
-/

namespace LayerView

/-- Why an operation on files failed. -/
inductive OsError where
  | notFound
  | alreadyExists
  | notDirectory
  | isDirectory
  /-- An error that only a real system reports. -/
  | other (code : Nat) (wording : Text)
deriving DecidableEq, Repr

/-- The wording of an error. -/
def OsError.message : OsError → Text
  | .notFound => "No such file or directory (os error 2)".toList
  | .alreadyExists => "File exists (os error 17)".toList
  | .notDirectory => "Not a directory (os error 20)".toList
  | .isDirectory => "Is a directory (os error 21)".toList
  | .other code wording =>
    wording ++ " (os error ".toList ++ Nat.toDigits 10 code ++ ")".toList

/-- What a path may lead to. -/
inductive FileKind where
  | file
  | directory
deriving DecidableEq, Repr

/-- A place on a disk: the names from the working directory down.  Names of two dots may come first,
for places above it; a first name of a slash stands for the root. -/
abbrev Location := List Text

/-- The directories and files of a disk. -/
structure Disk where
  directories : List Location := []
  files : List (Location × ByteArray) := []

namespace Disk

/-- The location of the root. -/
def root : Location := [['/']]

/-- Whether a location is a directory of every disk: the root, the working directory and those above
it. -/
def isBase (l : Location) : Bool := l == root || l.all (· == ['.', '.'])

/-- What is at a location. -/
def kindAt? (d : Disk) (l : Location) : Option FileKind :=
  if isBase l then some .directory
  else if d.files.any (·.1 == l) then some .file
  else if d.directories.contains l then some .directory
  else none

/-- The location above a directory. -/
def above (l : Location) : Location :=
  -- The root is above itself; above the working directory a location grows by two dots.
  if l == root then l else if isBase l then l ++ [['.', '.']] else l.dropLast

/-- The location that a part leads to from a directory. -/
def step (l : Location) (part : Text) : Location :=
  -- Empty parts come of doubled slashes.
  if part = [] ∨ part = ['.'] then l
  else if part = ['.', '.'] then above l
  else l ++ [part]

/-- Follow parts from a location. -/
def walk (d : Disk) : Location → List Text → Except OsError Location
  | l, [] => .ok l
  | l, part :: parts =>
    -- A part is only taken from a directory, also if it is a dot.
    match d.kindAt? l with
    | none => .error .notFound
    | some .file => .error .notDirectory
    | some .directory => walk d (step l part) parts

/-- The parts of a text between slashes. -/
def parts : Text → List Text
  | [] => [[]]
  | c :: t =>
    if c = '/' then [] :: parts t
    else
      match parts t with
      | [] => [[c]]
      | p :: ps => (c :: p) :: ps

/-- Where a path starts, and its parts from there. -/
def route : Path → Location × List Text
  | '/' :: t => (root, parts t)
  | p => ([], parts p)

/-- The location that a path leads to; nothing has to be there yet. -/
def locate (d : Disk) (p : Path) : Except OsError Location :=
  if p.isEmpty then .error .notFound else d.walk (route p).1 (route p).2

/-- What a path leads to. -/
def kind? (d : Disk) (p : Path) : Option FileKind :=
  match d.locate p with
  | .ok l => d.kindAt? l
  | .error _ => none

/-- The content of a file. -/
def read (d : Disk) (p : Path) : Except OsError ByteArray := do
  let l ← d.locate p
  match d.files.find? (·.1 == l) with
  | some (_, content) => return content
  | none => .error (if d.kindAt? l = some .directory then .isDirectory else .notFound)

/-! ## Changes -/

/-- Put a file at a location, in place of one that is there. -/
def put (d : Disk) (l : Location) (content : ByteArray) : Disk :=
  { d with files := d.files.filter (·.1 != l) ++ [(l, content)] }

/-- A path without the slashes at its end. -/
def withoutSlashes (p : Path) : Path := (p.reverse.dropWhile (· == '/')).reverse

/-- Whether a slash follows the last name of a path, so that it can only mean a directory. -/
def namesDirectory (p : Path) : Bool :=
  p.getLast? == some '/' && !Path.isDots (Path.lastPart (withoutSlashes p))

/-- The disk on which the file at a path holds a content.  It fails where the file cannot be opened for
writing, and then no disk comes of it; what a file holds whose writing stops halfway is told by
`Machine.writeFile`. -/
def write (d : Disk) (p : Path) (content : ByteArray) : Except OsError Disk :=
  if namesDirectory p then do
    -- What is missing on the way is reported before the slash at the end is.
    let _ ← d.locate (withoutSlashes p)
    .error .isDirectory
  else do
    let l ← d.locate p
    match d.kindAt? l with
    | some .directory => .error .isDirectory
    | _ => return d.put l content

/-- Make a directory. -/
def makeDirectory (d : Disk) (p : Path) : Except OsError Disk := do
  let l ← d.locate p
  match d.kindAt? l with
  | some _ => .error .alreadyExists
  | none => return { d with directories := d.directories ++ [l] }

/-- Take a failure for success if the directory is there. -/
def orPresent (d : Disk) (p : Path) (e : OsError) : Except OsError Disk :=
  if d.kind? p = some .directory then .ok d else .error e

/-- Make a directory and those above it, going up at most a number of times. -/
def makeDirectoriesIn (d : Disk) : Nat → Path → Except OsError Disk
  | 0, _ => .error .notFound
  | steps + 1, p =>
    if p.isEmpty then .ok d
    else
      match d.makeDirectory p with
      | .ok d' => .ok d'
      -- Something above is missing: that is made first, then this is tried once more.
      | .error .notFound =>
        match Path.parent? p with
        | none => .error .notFound
        | some dir => do
          let d' ← makeDirectoriesIn d steps dir
          match d'.makeDirectory p with
          | .ok d'' => .ok d''
          -- By way of two dots, what was made above can be this very directory.
          | .error e => d'.orPresent p e
      | .error e => d.orPresent p e

/-- Make a directory and those above it, as far as they are missing. -/
def makeDirectories (d : Disk) (p : Path) : Except OsError Disk :=
  -- Every step up drops a character at least.
  d.makeDirectoriesIn (p.length + 1) p

end Disk

end LayerView
