import LayerView.Command.Json
import LayerView.Files.Path
import LayerView.Variable

/-!
# The report of a run

After a conversion the run tells which files it wrote.  On request it reports in JSON what it
declared, too.
-/

namespace LayerView.Command

open LayerView.Text

/-- What a run has to tell. -/
structure Report where
  input : Path
  dialect : Dialect
  /-- The files written; none if the view went to the clipboard. -/
  outputs : List Path
  declarations : List Declaration
  duplicates : List Text
deriving DecidableEq, Repr

namespace Report

/-- A declaration in a report. -/
def declaration (d : Declaration) : Json :=
  .object
    [("name", .string d.name), ("kind", .string d.kind.word), ("type", .string d.type),
     ("value", .string d.value), ("group", .string d.label),
     ("visibility", .string d.visibility.word)]

/-- A report as a JSON value. -/
def toJson (r : Report) : Json :=
  .object
    [("input", .string r.input), ("dialect", .string r.dialect.word),
     ("outputs", .array (r.outputs.map .string)),
     ("declarations", .array (r.declarations.map declaration)),
     ("duplicates", .array (r.duplicates.map .string))]

/-- The lines that name the files written. -/
def summary (r : Report) : Text :=
  r.outputs.flatMap fun p => "Wrote ".toList ++ p ++ ['\n']

/-- The text that a run prints. -/
def text (r : Report) (json : Bool) : Text :=
  if json then r.toJson.pretty ++ ['\n'] else r.summary

end Report

end LayerView.Command
