import LayerView.Files.Host
import LayerView.Pair.Conversion

/-!
# Reading drawings and writing views

A Swift drawing is one file.  An Objective-C drawing is a header and an implementation that differ in
their extension; either may be named, and both have to be there.
-/

namespace LayerView

open LayerView.Text

/-- Why a drawing could not be read or a view not be written. -/
inductive SourceError where
  | unsupported (path : Path)
  | notFound (path : Path)
  | missingPair (path pair : Path)
  | unreadable (path : Path) (cause : OsError)
  | notText (path : Path)
  | unwritable (path : Path) (cause : OsError)
deriving DecidableEq, Repr

/-- The wording of an error. -/
def SourceError.message : SourceError → Text
  | .unsupported path => "Unsupported source type: ".toList ++ path
  | .notFound path => "Input file not found: ".toList ++ path
  | .missingPair path pair =>
    "Missing paired file for ".toList ++ path ++ ": expected ".toList ++ pair
  | .unreadable path cause => "Failed to read ".toList ++ path ++ ": ".toList ++ cause.message
  | .notText path => "Input is not valid UTF-8: ".toList ++ path
  | .unwritable path cause => "Failed to write ".toList ++ path ++ ": ".toList ++ cause.message

/-- A drawing that was read. -/
inductive Input where
  | swift (path : Path) (source : Text)
  | objc (headerPath implementationPath : Path) (pair : SourcePair)
deriving DecidableEq, Repr

/-- The dialect of a drawing. -/
def Input.dialect : Input → Dialect
  | .swift .. => .swift
  | .objc .. => .objc

namespace Source

variable {m : Type → Type} [Monad m]

/-- The text of a file. -/
def readText (h : Host m) (p : Path) : m (Except SourceError Text) := do
  -- A directory counts as missing, too.
  if (← h.kind? p) != some .file then return .error (.notFound p)
  match ← h.read p with
  | .error e => return .error (.unreadable p e)
  | .ok bytes =>
    match decode? bytes with
    | some t => return .ok t
    | none => return .error (.notText p)

/-- The header and the implementation of a pair, from the path of one and that of the other. -/
def orderPair (p pair : Path) : Path × Path :=
  if Path.extension? p = some ['h'] then (p, pair) else (pair, p)

/-- Read the two files of a pair. -/
def loadPair (h : Host m) (p pair : Path) : m (Except SourceError Input) := do
  -- The file that was named comes first: if both are missing, it is the one reported.
  if (← h.kind? p) != some .file then return .error (.notFound p)
  if (← h.kind? pair) != some .file then return .error (.missingPair p pair)
  let (headerPath, implementationPath) := orderPair p pair
  match ← readText h headerPath with
  | .error e => return .error e
  | .ok header =>
    match ← readText h implementationPath with
    | .error e => return .error e
    | .ok implementation =>
      return .ok (.objc headerPath implementationPath { header, implementation })

/-- Read the drawing that a path names. -/
def load (h : Host m) (p : Path) : m (Except SourceError Input) := do
  match Path.dialect? p with
  | none => return .error (.unsupported p)
  | some .swift =>
    match ← readText h p with
    | .error e => return .error e
    | .ok source => return .ok (.swift p source)
  | some .objc =>
    match Path.paired? p with
    -- Every path of this dialect has a partner, so this does not occur.
    | none => return .error (.unsupported p)
    | some pair => loadPair h p pair

/-- Where the header and the implementation of a view go.  Into a directory they go under the stem of
the drawing; otherwise they take the given path, each with its extension. -/
def pairOutputs (h : Host m) (output input : Path) : m (Path × Path) := do
  let base :=
    if (← h.kind? output) = some .directory then
      Path.join output ((Path.stem? input).getD "output".toList)
    else output
  return (Path.withExtension base ['h'], Path.withExtension base ['m'])

/-- Make the directory that a file goes into. -/
def makeParent (h : Host m) (p : Path) : m (Except OsError Unit) :=
  match Path.parent? p with
  -- A bare file name goes into the working directory, which is there.
  | none | some [] => pure (.ok ())
  | some dir => h.makeDirectories dir

/-- Write a text to a file, in directories that are made where they are missing. -/
def write (h : Host m) (p : Path) (t : Text) : m (Except SourceError Unit) := do
  match ← makeParent h p with
  | .error e => return .error (.unwritable p e)
  | .ok () =>
    match ← h.write p (encode t) with
    | .error e => return .error (.unwritable p e)
    | .ok () => return .ok ()

end Source

end LayerView
