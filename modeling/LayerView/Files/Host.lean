import LayerView.Files.Disk
import LayerView.Text.Pattern

/-!
# Hosts

What a run needs from the machine it runs on: files, environment variables, a clipboard, and two
streams to write to.  A host gives these in some monad.  `Machine` is a host that is all in memory,
as the state that the operations read and change.

Operations fail, and some of them fail halfway.  A file is emptied when it is opened for writing, so
an error after that leaves it with the part that was written.  A stream takes what it can before it
fails.  A clipboard may have been given a text, or a part of it, before it turns out not to work.
-/

namespace LayerView

open LayerView.Text

/-- Why a text could not be handed to the clipboard. -/
inductive CopyError where
  | notStarted (cause : OsError)
  | noInput
  | notWritten (cause : OsError)
  | notAwaited (cause : OsError)
  | failed (status : Nat)
deriving DecidableEq, Repr

/-- The wording of a failure of the clipboard. -/
def CopyError.message : CopyError → Text
  | .notStarted cause => "failed to start pbcopy: ".toList ++ cause.message
  | .noInput => "pbcopy has no stdin".toList
  | .notWritten cause => "failed to write to pbcopy: ".toList ++ cause.message
  | .notAwaited cause => "failed to wait for pbcopy: ".toList ++ cause.message
  | .failed status => "pbcopy exited with exit status: ".toList ++ Nat.toDigits 10 status

/-- The operations of a host. -/
structure Host (m : Type → Type) where
  kind? : Path → m (Option FileKind)
  read : Path → m (Except OsError ByteArray)
  /-- Open a file for writing, which makes it or empties it, and write a content to it. -/
  write : Path → ByteArray → m (Except OsError Unit)
  /-- Add a text to the end of a file that was made before; what the file does not take is lost. -/
  append : Path → Text → m Unit
  makeDirectories : Path → m (Except OsError Unit)
  envValue? : Text → m (Option Text)
  /-- The home directory of the account, where no variable tells it. -/
  accountHome? : m (Option Text)
  hasClipboard : m Bool
  copy : Text → m (Except CopyError Unit)
  /-- Write to the standard output. -/
  print : Text → m (Except OsError Unit)
  /-- Write to the standard error stream. -/
  report : Text → m (Except OsError Unit)

/-- The bytes of a text. -/
def encode (t : Text) : ByteArray := (String.ofList t).toUTF8

/-- The text of bytes, if they are one. -/
def decode? (bytes : ByteArray) : Option Text := (String.fromUTF8? bytes).map String.toList

/-! ## A host in memory -/

/-- How the clipboard of a machine behaves. -/
inductive Clipboard where
  | missing
  | working
  /-- It takes a text but ends with a status that tells of failure. -/
  | failing (status : Nat)
  /-- It is there but cannot be started. -/
  | broken (cause : OsError := .notFound)
  /-- It is started without a way to hand it a text. -/
  | closed
  /-- It takes a number of characters and then no more. -/
  | stopping (taken : Nat) (cause : OsError)
  /-- It takes a text, but its end cannot be awaited. -/
  | unawaited (cause : OsError)
deriving DecidableEq, Repr

/-- How much is taken in all before an error, and that error; where there is no limit, everything
is. -/
abbrev Limit := Option (Nat × OsError)

/-- Where a limit cuts off what is still to come, after `used` have been taken: how many of those to
come it takes, and the error. -/
def Limit.cut? (limit : Limit) (used coming : Nat) : Option (Nat × OsError) :=
  match limit with
  | some (most, cause) => if used + coming ≤ most then none else some (most - used, cause)
  | none => none

/-- What fails on a machine for reasons that are not on its disk, such as missing rights, a full
device or a closed stream. -/
structure Faults where
  /-- Files that cannot be opened for writing. -/
  opening? : Path → Option OsError := fun _ => none
  /-- How many bytes a file takes. -/
  writing? : Path → Limit := fun _ => none
  /-- Directories that cannot be made. -/
  making? : Path → Option OsError := fun _ => none
  /-- How many characters the standard output takes. -/
  output? : Limit := none
  /-- How many characters the standard error stream takes. -/
  errors? : Limit := none

/-- A machine: its disk, environment and clipboard, what was written to its streams, and what fails
on it. -/
structure Machine where
  disk : Disk := {}
  environment : List (Text × Text) := []
  accountHome? : Option Text := none
  clipboard : Clipboard := .missing
  /-- What the program behind the clipboard was given last. -/
  handed? : Option Text := none
  /-- What is on the clipboard. -/
  copied? : Option Text := none
  output : Text := []
  errors : Text := []
  faults : Faults := {}

namespace Machine

/-- Change the disk, if that succeeds. -/
def changeDisk (change : Disk → Except OsError Disk) : StateM Machine (Except OsError Unit) := do
  let s ← get
  match change s.disk with
  | .ok disk =>
    set { s with disk }
    return .ok ()
  | .error e => return .error e

/-- Open a file and write a content to it.  If the file takes only a part of the content, that part
stays in it. -/
def writeFile (p : Path) (content : ByteArray) : StateM Machine (Except OsError Unit) := do
  let s ← get
  match s.faults.opening? p with
  | some cause => return .error cause
  | none =>
    -- Opening has emptied the file, so the limit counts from its start.
    match (s.faults.writing? p).cut? 0 content.size with
    | none => changeDisk (·.write p content)
    | some (taken, cause) =>
      match ← changeDisk (·.write p (content.extract 0 taken)) with
      | .error e => return .error e
      | .ok () => return .error cause

/-- Make a directory and those above it. -/
def makeDirectories (p : Path) : StateM Machine (Except OsError Unit) := do
  let s ← get
  match s.faults.making? p with
  | some cause => return .error cause
  | none => changeDisk (·.makeDirectories p)

/-- What a stream holds once a text was written to it, and how that went. -/
def streamed (limit : Limit) (held t : Text) : Text × Except OsError Unit :=
  match limit.cut? held.length t.length with
  | none => (held ++ t, .ok ())
  | some (taken, cause) => (held ++ t.take taken, .error cause)

/-- A file's content followed by a text. -/
def extended (d : Disk) (p : Path) (t : Text) : ByteArray :=
  match d.read p with
  | .ok content => content ++ encode t
  | .error _ => encode t

/-- The value of a variable.  An environment is a list of entries of the form `name=value`, and a
value is what follows the name and its equals sign at the start of an entry; so a name that itself
holds an equals sign can reach into the value of a shorter one.  The empty name has no value. -/
def lookUp (environment : List (Text × Text)) (name : Text) : Option Text :=
  if name.isEmpty then none
  else environment.findSome? fun (key, value) => skip? (name ++ ['=']) (key ++ ['='] ++ value)

/-- Hand a text to the clipboard. -/
def copyText (t : Text) : StateM Machine (Except CopyError Unit) := do
  let s ← get
  match s.clipboard with
  | .working =>
    set { s with handed? := some t, copied? := some t }
    return .ok ()
  -- The text has reached the program, but its status says that it is not on the clipboard.
  | .failing status =>
    set { s with handed? := some t }
    return .error (.failed status)
  | .stopping taken cause =>
    set { s with handed? := some (t.take taken) }
    return .error (.notWritten cause)
  -- The text is there; only the end of the program stays unknown.
  | .unawaited cause =>
    set { s with handed? := some t, copied? := some t }
    return .error (.notAwaited cause)
  | .closed => return .error .noInput
  | .broken cause => return .error (.notStarted cause)
  | .missing => return .error (.notStarted .notFound)

/-- Write a text to the standard output. -/
def print (t : Text) : StateM Machine (Except OsError Unit) := do
  let s ← get
  let (output, r) := streamed s.faults.output? s.output t
  set { s with output }
  return r

/-- Write a text to the standard error stream. -/
def report (t : Text) : StateM Machine (Except OsError Unit) := do
  let s ← get
  let (errors, r) := streamed s.faults.errors? s.errors t
  set { s with errors }
  return r

end Machine

/-- The operations of a machine in memory. -/
def Host.machine : Host (StateM Machine) where
  kind? p := do return (← get).disk.kind? p
  read p := do return (← get).disk.read p
  write := Machine.writeFile
  append p t := do
    -- Nobody is told when the file takes no more.
    let _ ← Machine.writeFile p (Machine.extended (← get).disk p t)
  makeDirectories := Machine.makeDirectories
  envValue? name := do return Machine.lookUp (← get).environment name
  accountHome? := do return (← get).accountHome?
  hasClipboard := do return (← get).clipboard != .missing
  copy := Machine.copyText
  print := Machine.print
  report := Machine.report

end LayerView
