import LayerView.Dialect
import LayerView.Files.Disk

/-!
# Settings

What a settings file can choose: defaults for every conversion, and what is logged where.
-/

namespace LayerView

/-- Defaults for every conversion. -/
structure Defaults where
  baseType : Text := defaultBaseType
  background? : Option Text := none
  verbose : Bool := false
deriving DecidableEq, Repr

/-- What is logged where.  The levels are kept as they were written. -/
structure Logging where
  level : Text := "info".toList
  fileLevel? : Option Text := none
  file? : Option Text := none
deriving DecidableEq, Repr

/-- The settings in effect. -/
structure Settings where
  /-- The file that they were read from, if there was one. -/
  path? : Option Path := none
  defaults : Defaults := {}
  logging : Logging := {}
deriving DecidableEq, Repr

/-- The options of a conversion as the settings have them. -/
def Settings.options (s : Settings) (dialect : Dialect) : Options where
  dialect := dialect
  baseType := s.defaults.baseType
  background? := s.defaults.background?
  verbose := s.defaults.verbose

/-- Why the text of a file could not be had. -/
inductive ReadFailure where
  | os (cause : OsError)
  | notText
deriving DecidableEq, Repr

/-- The wording of a failure to read. -/
def ReadFailure.message : ReadFailure → Text
  | .os cause => cause.message
  | .notText => "stream did not contain valid UTF-8".toList

/-- Why there are no settings. -/
inductive SettingsError where
  | notFound (path : Path)
  | unreadable (path : Path) (cause : ReadFailure)
  | invalid (path : Path)
  | badVersion (version : Nat)
  /-- A path in the settings refers to something that is not known. -/
  | noHome
deriving DecidableEq, Repr

/-- The wording of an error. -/
def SettingsError.message : SettingsError → Text
  | .notFound path => "config file not found at ".toList ++ path
  | .unreadable path cause =>
    "failed to read config file ".toList ++ path ++ ": ".toList ++ cause.message
  | .invalid path =>
    "failed to parse TOML in ".toList ++ path ++ ": the file does not describe settings".toList
  | .badVersion version =>
    "version ".toList ++ Nat.toDigits 10 version ++ " is unsupported (expected 1)".toList
  | .noHome => "home directory not available to expand '~'".toList

end LayerView
