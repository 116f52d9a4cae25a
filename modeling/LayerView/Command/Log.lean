import LayerView.Event
import LayerView.Files.Host
import LayerView.Settings.Basic
import LayerView.Text.LetterCase

/-!
# The log of a run

Events go to the standard error stream and, if the settings name a file, to that file too.  Each of
the two has a threshold.  A verbose run shows warnings on the stream whatever its threshold.  The
environment can override both thresholds.
-/

namespace LayerView.Command

open LayerView.Text

/-- The least important level that is let through; with none, nothing is. -/
abbrev Threshold := Option Level

/-- Whether a threshold lets a level through. -/
def allows (t : Threshold) (l : Level) : Bool :=
  match t with
  | none => false
  | some least => decide (l.rank ≤ least.rank)

/-- The threshold that a word names, in small or capital letters. -/
def threshold? (word : Text) : Option Threshold :=
  let word := lower word
  if word = "off".toList then some none
  else if word = "error".toList then some (some .error)
  else if word = "warn".toList then some (some .warn)
  else if word = "info".toList then some (some .info)
  else if word = "debug".toList then some (some .debug)
  else if word = "trace".toList then some (some .trace)
  else none

/-- Let warnings through. -/
def withWarnings (t : Threshold) : Threshold := if allows t .warn then t else some .warn

/-- The threshold of the stream. -/
def streamThreshold (l : Logging) (verbose : Bool) : Threshold :=
  -- A word that names no level counts as the default.
  let chosen := (threshold? l.level).getD (some .info)
  if verbose then withWarnings chosen else chosen

/-- The threshold of the log file. -/
def fileThreshold (l : Logging) : Threshold :=
  (threshold? (l.fileLevel?.getD l.level)).getD (some .debug)

/-- The threshold after the environment had its say.  An empty word says nothing; one that names no
level lets nothing through. -/
def overridden (word? : Option Text) (t : Threshold) : Threshold :=
  match word? with
  | none | some [] => t
  | some word => (threshold? word).getD none

/-- Where events go. -/
structure Log where
  stream : Threshold
  /-- A file and its threshold. -/
  file? : Option (Path × Threshold) := none
deriving DecidableEq, Repr

/-- The variable that overrides the thresholds. -/
def levelVariable : Text := "RUST_LOG".toList

/-- Why a log could not be opened. -/
structure LogError where
  path : Path
  cause : OsError
deriving DecidableEq, Repr

/-- The wording of the error. -/
def LogError.message (e : LogError) : Text :=
  "Failed to create log file ".toList ++ e.path ++ ": ".toList ++ e.cause.message

namespace Log

variable {m : Type → Type} [Monad m]

/-- Open the log that the settings ask for; its file starts empty. -/
def start (h : Host m) (l : Logging) (verbose : Bool) : m (Except LogError Log) := do
  let word? ← h.envValue? levelVariable
  let stream := overridden word? (streamThreshold l verbose)
  match l.file? with
  | none => return .ok { stream }
  | some path =>
    -- The file is made before anything is logged, so a bad path ends the run at its start.
    match ← h.write path (encode []) with
    | .error cause => return .error { path, cause }
    | .ok () => return .ok { stream, file? := some (path, overridden word? (fileThreshold l)) }

/-- The line of an event, ended. -/
def lineOf (e : Event) : Text := e.line ++ ['\n']

/-- Write an event to the error stream, if the stream lets its level through. -/
def emitToStream (h : Host m) (log : Log) (e : Event) : m (Except OsError Unit) :=
  if allows log.stream e.level then h.report (lineOf e) else return .ok ()

/-- Write an event to the log file, if there is one and it lets the level of the event through. -/
def emitToFile (h : Host m) (log : Log) (e : Event) : m Unit :=
  match log.file? with
  | some (path, threshold) => if allows threshold e.level then h.append path (lineOf e) else pure ()
  | none => pure ()

/-- Write an event where its level is let through.  A stream that fails takes no complaint about that
either, so its error is one of the run; the file can fail without notice. -/
def emit (h : Host m) (log : Log) (e : Event) : m (Except OsError Unit) := do
  match ← log.emitToStream h e with
  | .error cause => return .error cause
  | .ok () =>
    log.emitToFile h e
    return .ok ()

/-- Write events in order, up to the first that the stream does not take. -/
def emitAll (h : Host m) (log : Log) : List Event → m (Except OsError Unit)
  | [] => return .ok ()
  | e :: es => do
    match ← log.emit h e with
    | .error cause => return .error cause
    | .ok () => emitAll h log es

end Log

end LayerView.Command
