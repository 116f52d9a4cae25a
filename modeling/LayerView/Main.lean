import LayerView.Command.Run

/-!
# The command

The command line on a real machine, which has no clipboard.
-/

open LayerView LayerView.Command

namespace LayerView.Command

/-- The code and the wording of an error of the system. -/
def codeOf : IO.Error → Nat × String
  | .alreadyExists _ code details => (code.toNat, details)
  | .otherError code details => (code.toNat, details)
  | .resourceBusy code details => (code.toNat, details)
  | .resourceVanished code details => (code.toNat, details)
  | .unsupportedOperation code details => (code.toNat, details)
  | .hardwareFault code details => (code.toNat, details)
  | .unsatisfiedConstraints code details => (code.toNat, details)
  | .illegalOperation code details => (code.toNat, details)
  | .protocolError code details => (code.toNat, details)
  | .timeExpired code details => (code.toNat, details)
  | .interrupted _ code details => (code.toNat, details)
  | .noFileOrDirectory _ code details => (code.toNat, details)
  | .invalidArgument _ code details => (code.toNat, details)
  | .permissionDenied _ code details => (code.toNat, details)
  | .resourceExhausted _ code details => (code.toNat, details)
  | .inappropriateType _ code details => (code.toNat, details)
  | .noSuchThing _ code details => (code.toNat, details)
  | .unexpectedEof => (0, "unexpected end of file")
  | .userError details => (0, details)

/-- An error of the system. -/
def osError (e : IO.Error) : OsError :=
  -- These are the codes that the program tells apart.
  match codeOf e with
  | (2, _) => .notFound
  | (17, _) => .alreadyExists
  | (20, _) => .notDirectory
  | (21, _) => .isDirectory
  | (code, details) => .other code details.toList

/-- Run an operation of the system and keep its error. -/
def attempt {α : Type} (action : IO α) : IO (Except OsError α) := do
  try
    return .ok (← action)
  catch e => return .error (osError e)

/-- What a path leads to: reading from a directory fails in a way of its own. -/
def realKind? (p : Path) : IO (Option FileKind) := do
  match ← attempt (IO.FS.readBinFile (String.ofList p)) with
  | .ok _ => return some .file
  | .error .isDirectory => return some .directory
  | .error _ => return none

/-- Add a text to the end of a file. -/
def appendText (p : Path) (t : Text) : IO Unit := do
  let handle ← IO.FS.Handle.mk (String.ofList p) .append
  handle.putStr (String.ofList t)

/-- The operations of the machine that the command runs on. -/
def realHost : Host IO where
  kind? := realKind?
  read p := attempt (IO.FS.readBinFile (String.ofList p))
  write p content := attempt (IO.FS.writeBinFile (String.ofList p) content)
  append p t := do
    let _ ← attempt (appendText p t)
  makeDirectories p := attempt (IO.FS.createDirAll (String.ofList p))
  envValue? name := return (← IO.getEnv (String.ofList name)).map String.toList
  accountHome? := return none
  hasClipboard := return false
  copy _ := return .error (.notStarted .notFound)
  print t := attempt (IO.print (String.ofList t))
  report t := attempt (IO.eprint (String.ofList t))

end LayerView.Command

/-- Do what the command line asks for. -/
def main (arguments : List String) : IO UInt32 := do
  return (← runCommand realHost (arguments.map String.toList)).toUInt32
