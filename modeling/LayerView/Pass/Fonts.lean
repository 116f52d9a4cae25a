import LayerView.Pass.Literals

/-!
# Fonts of a drawing

The expression that gives a string its font becomes a property when its line belongs to a layer.
-/

namespace LayerView.Pass

open LayerView.Text

/-- Around the expression of a font. -/
def fontValue : Delimited := ⟨".addAttribute(.font, value: ".toList, ", range: ".toList⟩

/-- Fonts as literals; nothing is told besides. -/
def fontLiteral : LiteralKind Unit FontVariable where
  find? line := (fontValue.find? line).map fun c => ((), c)
  variableOf layer _ expression := { layer, expression }
  reference v := v.name
  event v := .fontFound v.name v.expression

/-- Turn the fonts of a source into properties. -/
def fonts (mark source : Text) : List (Edit FontVariable) := fontLiteral.edits mark source

end LayerView.Pass
