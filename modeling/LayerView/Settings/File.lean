import LayerView.Settings.Basic
import LayerView.Toml.Document

/-!
# The settings file

A settings file is a TOML document with a version and two tables.  Entries that are not known are
passed over, though the numbers in them have to have values; entries that are known have to be of
their type.  A table of settings may also be given as an array, whose items then stand for the table's
entries in their order; what comes after them is not looked at.  A date in its place counts as a table
of entries that are not known.
-/

namespace LayerView.Settings

/-- A settings file that was read, before its version is looked at. -/
structure File where
  version : Nat
  defaults : Defaults
  logging : Logging
deriving DecidableEq, Repr

/-- The entries of a table with known keys, if the others are readable. -/
def known? (keys : List String) (entries : Toml.Entries) : Option Toml.Entries :=
  if entries.all fun (key, v) => (keys.map String.toList).contains key || v.isReadable then
    some entries
  else none

/-- The entries of a table of settings whose keys are given in order. -/
def fields? (keys : List String) : Toml.Value → Option Toml.Entries
  | .table _ entries => known? keys entries
  | .array _ items => some ((keys.map String.toList).zip items)
  | .moment => some []
  | _ => none

/-- The value of an entry: `some none` if it is missing, `none` if it is of another type. -/
def field? {α : Type} (ofValue : Toml.Value → Option α) (key : String)
    (entries : Toml.Entries) : Option (Option α) :=
  match entries.lookup key.toList with
  | none => some none
  | some v => (ofValue v).map some

/-- The text of a string value. -/
def text? : Toml.Value → Option Text
  | .string t => some t
  | _ => none

/-- The truth of a boolean value. -/
def flag? : Toml.Value → Option Bool
  | .boolean b => some b
  | _ => none

/-- The version that a value denotes, a number of 32 bits. -/
def version? : Toml.Value → Option Nat
  | .integer n => if 0 ≤ n ∧ n < 4294967296 then some n.toNat else none
  | _ => none

/-- Defaults from their table. -/
def defaults? (v : Toml.Value) : Option Defaults := do
  let entries ← fields? ["base_type", "background", "verbose"] v
  let baseType ← field? text? "base_type" entries
  let background? ← field? text? "background" entries
  let verbose ← field? flag? "verbose" entries
  return { baseType := baseType.getD defaultBaseType, background?, verbose := verbose.getD false }

/-- What is logged where, from its table. -/
def logging? (v : Toml.Value) : Option Logging := do
  let entries ← fields? ["level", "file_level", "file"] v
  let level ← field? text? "level" entries
  let fileLevel? ← field? text? "file_level" entries
  let file? ← field? text? "file" entries
  return { level := level.getD "info".toList, fileLevel?, file? }

/-- The settings that a document describes. -/
def ofEntries? (all : Toml.Entries) : Option File := do
  let entries ← known? ["version", "transpiler", "logging"] all
  -- The version is the one entry that may not be missing.
  let version ← version? (← entries.lookup "version".toList)
  let defaults ← field? defaults? "transpiler" entries
  let logging ← field? logging? "logging" entries
  return { version, defaults := defaults.getD {}, logging := logging.getD {} }

/-- The settings in the text of a file. -/
def parse? (t : Text) : Option File := do ofEntries? (← Toml.read? t)

end LayerView.Settings
