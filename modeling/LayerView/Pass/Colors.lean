import LayerView.Pass.Literals

/-!
# Colors of a drawing

A color stands on a line that sets it as fill or stroke, or gives it to a string as the color of its
letters.  Where the line belongs to a layer, the color becomes a property of the view and the line
reads the property.
-/

namespace LayerView.Pass

open LayerView.Text

/-- A call that sets a fill color. -/
def fillCall : CallSuffix := ⟨".setFill()".toList⟩

/-- A call that sets a stroke color. -/
def strokeCall : CallSuffix := ⟨".setStroke()".toList⟩

/-- Around the color of the letters of a string. -/
def foreground : Delimited :=
  ⟨".addAttribute(.foregroundColor, value: ".toList, ", range".toList⟩

/-- Shows that a line gives a string a color literal. -/
def foregroundLiteral : Text := ".addAttribute(.foregroundColor, value: UIColor".toList

/-- The color of letters on a line. -/
def textColor? (line : Text) : Option Capture :=
  -- Only a literal becomes a property; a color that has a name keeps it.
  if contains foregroundLiteral line then foreground.find? line else none

/-- The color on a line and what it is used for.  The color of letters is looked for first, then a
fill, then a stroke. -/
def color? (line : Text) : Option (ColorUse × Capture) :=
  match textColor? line with
  | some c => some (.text, c)
  | none =>
    match fillCall.find? line with
    | some c => some (.fill, c)
    | none => (strokeCall.find? line).map fun c => (.stroke, c)

/-- How code reads a property. -/
def propertyRead (name : Text) : Text := "self.".toList ++ name

/-- Colors as literals; what is told besides is the use. -/
def colorLiteral : LiteralKind ColorUse ColorVariable where
  find? := color?
  variableOf layer use color := { layer, color, use }
  reference v := propertyRead v.name
  event v := .colorFound v.name v.color

/-- Turn the colors of a source into properties. -/
def colors (mark source : Text) : List (Edit ColorVariable) := colorLiteral.edits mark source

end LayerView.Pass
