import LayerView.Event
import LayerView.Text.Lines

/-!
# Line edits

A pass over a source treats one line after the other.  An edit tells what becomes of one line: the
line that stands in its place, the lines put above and below it, what was found on it, and the events
to report.  The outcome of a pass is the list of its edits, one for each line of the source.
-/

namespace LayerView

open LayerView.Text

/-- What a pass does to one line. -/
structure Edit (α : Type) where
  above : List Text := []
  line : Text
  below : List Text := []
  found? : Option α := none
  events : List Event := []
deriving DecidableEq, Repr

namespace Edit

variable {α : Type}

/-- The lines that an edit leaves. -/
def lines (e : Edit α) : List Text := e.above ++ e.line :: e.below

/-- The source that a pass leaves. -/
def source (es : List (Edit α)) : Text := joinLines (es.flatMap lines)

/-- What a pass found, in the order of the lines. -/
def findings (es : List (Edit α)) : List α := es.filterMap found?

/-- What a pass reports, in order. -/
def reports (es : List (Edit α)) : List Event := es.flatMap events

end Edit

end LayerView
