import LayerView.Dialect

/-!
# Paths

A path is a text of parts between slashes.  Slashes at the end, and parts that are a single dot
there, do not count when its file name is looked for; the root and a part of two dots have no file
name.  The extension is what follows the last dot of the file name, where a dot at its very start
opens none.
-/

namespace LayerView

/-- A path of a file system. -/
abbrev Path := Text

namespace Path

/-! ## The file name -/

/-- Drop slashes and single dots from the end of a path that is given in reverse. -/
def dropTrailing : Text → Text
  | '/' :: t => dropTrailing t
  | '.' :: '/' :: t => dropTrailing t
  | t => t

/-- A path without the slashes and single dots at its end. -/
def trimmed (p : Path) : Path := (dropTrailing p.reverse).reverse

/-- The last part of a path that does not end in a slash. -/
def lastPart (p : Path) : Text := (p.reverse.takeWhile (· != '/')).reverse

/-- A path up to its last part. -/
def beforeLast (p : Path) : Path := (p.reverse.dropWhile (· != '/')).reverse

/-- Whether a part names no file. -/
def isDots (part : Text) : Bool := part.isEmpty || part == ['.'] || part == ['.', '.']

/-- What stands before the file name, and the file name. -/
def splitName? (p : Path) : Option (Path × Text) :=
  let name := lastPart (trimmed p)
  if isDots name then none else some (beforeLast (trimmed p), name)

/-! ## Stem and extension -/

/-- The stem and the extension of a file name that has one. -/
def splitDot? (name : Text) : Option (Text × Text) :=
  match name.reverse.dropWhile (· != '.') with
  | '.' :: stem =>
    -- A dot at the very start hides a file and opens no extension.
    if stem.isEmpty then none
    else some (stem.reverse, (name.reverse.takeWhile (· != '.')).reverse)
  | _ => none

/-- The stem of a file name. -/
def stemOf (name : Text) : Text :=
  match splitDot? name with
  | some (stem, _) => stem
  | none => name

/-- The extension of a path. -/
def extension? (p : Path) : Option Text := do
  let (_, name) ← splitName? p
  let (_, ext) ← splitDot? name
  return ext

/-- The stem of a path's file name. -/
def stem? (p : Path) : Option Text := (splitName? p).map fun (_, name) => stemOf name

/-- A path without the extension that it ends in; the dot before it stays. -/
def dropExtension (p : Path) : Path :=
  match extension? p with
  -- Before a slash the extension is not at the end of the text, and it stays.
  | some ext => if trimmed p = p then p.take (p.length - ext.length) else p
  | none => p

/-- A path that ends after the stem of its file name and an extension; a path without a file name
stays. -/
def setExtension (p : Path) (ext : Text) : Path :=
  match splitName? p with
  | some (dir, name) => dir ++ stemOf name ++ ['.'] ++ ext
  | none => p

/-- A path with another extension.  The old one is dropped first, and what is left may have no file
name any more: a stem of a single dot leaves two dots, which name the directory above. -/
def withExtension (p : Path) (ext : Text) : Path := setExtension (dropExtension p) ext

/-! ## Directories -/

/-- Whether a path starts at the root. -/
def isAbsolute (p : Path) : Bool := p.head? == some '/'

/-- The directory that holds what a path names; the root and the empty path have none. -/
def parent? (p : Path) : Option Path :=
  if (trimmed p).isEmpty then none
  else
    let dir := trimmed (beforeLast (trimmed p))
    -- Trimming has taken the slash of the root along.
    if dir.isEmpty && isAbsolute p then some ['/'] else some dir

/-- A path taken from a directory. -/
def join (dir p : Path) : Path :=
  if isAbsolute p || dir.isEmpty then p
  else if dir.getLast? = some '/' then dir ++ p
  else dir ++ ['/'] ++ p

/-! ## Drawings -/

/-- The dialect of the drawing in a file, from its extension. -/
def dialect? (p : Path) : Option Dialect :=
  match extension? p with
  | none => none
  | some ext =>
    if ext = "swift".toList then some .swift
    else if ext = ['h'] ∨ ext = ['m'] then some .objc
    else none

/-- The other file of an Objective-C pair. -/
def paired? (p : Path) : Option Path :=
  match extension? p with
  | none => none
  | some ext =>
    if ext = ['h'] then some (withExtension p ['m'])
    else if ext = ['m'] then some (withExtension p ['h'])
    else none

end Path

end LayerView
