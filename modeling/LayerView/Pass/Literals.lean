import LayerView.Caption
import LayerView.Capture
import LayerView.Edit
import LayerView.Variable

/-!
# Literals that become properties

Colors and fonts are treated alike.  A literal is looked for on each line of a source.  Where the line
belongs to a layer, the literal becomes a property of the view and the line reads the property in its
place.
-/

namespace LayerView.Pass

open LayerView.Text

/-- A kind of literals: what a pass has to know to turn them into properties. -/
structure LiteralKind (β α : Type) where
  /-- The literal on a line, with what else the line tells of it. -/
  find? : Text → Option (β × Capture)
  /-- The variable for a literal of a layer. -/
  variableOf : Layer → β → Text → α
  /-- How code reads the variable. -/
  reference : α → Text
  /-- What is reported of the variable. -/
  event : α → Event

namespace LiteralKind

variable {α β : Type}

/-- What becomes of a line that holds a literal of a layer. -/
def edit (k : LiteralKind β α) (v : α) (c : Capture) : Edit α where
  line := c.fill (k.reference v)
  found? := some v
  events := [k.event v]

/-- The literal on a line of a source that belongs to a layer, and where it stands. -/
def at? (k : LiteralKind β α) (mark source : Text) (l : Located) : Option (α × Capture) := do
  let (told, c) ← k.find? l.line
  -- Above the first caption a literal belongs to no layer, and it stays.
  let label ← Caption.labelBefore? mark source l.offset
  return (k.variableOf ⟨label⟩ told c.text, c)

/-- What becomes of one line of a source. -/
def editAt (k : LiteralKind β α) (mark source : Text) (l : Located) : Edit α :=
  match k.at? mark source l with
  | some (v, c) => k.edit v c
  | none => { line := l.line }

/-- Turn the literals of a source into properties. -/
def edits (k : LiteralKind β α) (mark source : Text) : List (Edit α) :=
  (locatedLines source).map (k.editAt mark source)

end LiteralKind

end LayerView.Pass
