import LayerView.Files.Host
import LayerView.Settings.File
import LayerView.Settings.Template

/-!
# Loading settings

Settings come from a file that is named, or from the file at the default place if there is one there.
The path of a log file may refer to environment variables and to the home directory.
-/

namespace LayerView.Settings

open LayerView.Text

variable {m : Type → Type} [Monad m]

/-- The home directory: the one that the environment tells, or else that of the account. -/
def home? (h : Host m) : m (Option Text) := do
  match ← h.envValue? "HOME".toList with
  -- A variable without a value tells no home.
  | some (c :: home) => return some (c :: home)
  | _ => h.accountHome?

/-- The default place of the settings file. -/
def defaultPath (h : Host m) : m Path := do
  match ← h.envValue? "XDG_CONFIG_HOME".toList with
  -- Without a value this is the directory of the run.
  | some dir => return Path.join (Path.join dir "fumes".toList) "config.toml".toList
  | none =>
    let home := (← home? h).getD ['~']
    return Path.join (Path.join (Path.join home ".config".toList) "fumes".toList)
      "config.toml".toList

/-- The value of a piece of a template. -/
def segmentValue (h : Host m) : Segment → m (Option Text)
  | .literal t => pure (some t)
  | .reference name fallback? => do return (← h.envValue? name) <|> fallback?

/-- A path with its references filled in, if all of them are known. -/
def expand (h : Host m) (t : Text) : m (Option Text) := do
  let values ← (Template.segments t).mapM (segmentValue h)
  return Template.fill t values (← home? h)

/-- Fill in the path of the log file. -/
def resolveLogging (h : Host m) (l : Logging) : m (Option Logging) := do
  match l.file? with
  | none => return some l
  | some file => return (← expand h file).map fun path => { l with file? := some path }

/-- The settings in the text of a file. -/
def ofText (h : Host m) (p : Path) (t : Text) : m (Except SettingsError Settings) := do
  match parse? t with
  | none => return .error (.invalid p)
  | some file =>
    if file.version ≠ 1 then return .error (.badVersion file.version)
    -- Only a file of the known version is looked into further.
    match ← resolveLogging h file.logging with
    | none => return .error .noHome
    | some logging => return .ok { path? := some p, defaults := file.defaults, logging }

/-- Load the settings file at a path. -/
def loadFrom (h : Host m) (p : Path) : m (Except SettingsError Settings) := do
  if (← h.kind? p).isNone then return .error (.notFound p)
  match ← h.read p with
  | .error e => return .error (.unreadable p (.os e))
  | .ok bytes =>
    match decode? bytes with
    | none => return .error (.unreadable p .notText)
    | some t => ofText h p t

/-- Load the settings file that is named, or else the one at the default place if it is there. -/
def load (h : Host m) (p? : Option Path) : m (Except SettingsError Settings) := do
  match p? with
  | some p => loadFrom h p
  | none =>
    let p ← defaultPath h
    -- Nobody asked for this file, so it may be missing.
    if (← h.kind? p).isNone then return .ok {}
    loadFrom h p

end LayerView.Settings
