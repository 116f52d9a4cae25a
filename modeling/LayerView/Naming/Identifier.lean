import LayerView.Text.Blank
import LayerView.Text.LetterCase

/-!
# Identifiers of a layer

Drawing code refers to a layer by its label with the first character lowered.  Properties of the
view are named after the same label, without the underscores around it and without blanks.
-/

namespace LayerView.Naming

open LayerView.Text

/-- A text with its first character in lower case. -/
def lowerFirst : Text → Text
  | [] => []
  | c :: t => lowerChar c ++ t

/-- The stem of the property names of a layer: `_Big Triangle` gives `bigTriangle`. -/
def baseIdentifier (label : Text) : Text :=
  -- The underscores go first, so that it is the letter after them that is lowered.
  (lowerFirst (trimChar '_' label)).filter fun c => !isBlank c

/-- The name of a layer's object in the drawing code. -/
def codeIdentifier (label : Text) : Text := lowerFirst label

end LayerView.Naming
