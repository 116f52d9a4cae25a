import LayerView.Layer
import LayerView.PointSize

/-!
# Variables and their declarations

A literal of the drawing that becomes a property of the view is described by a variable: which layer
it belongs to, and the text that was found.  Each variable gives one declaration; a text gives two
more, for an attributed text that overrides it and for the frame that it is drawn in.
-/

namespace LayerView

open LayerView.Text

/-- What a color is used for. -/
inductive ColorUse where
  | stroke
  | fill
  | text
deriving DecidableEq, Repr

/-- How the names of properties for a use of color end. -/
def ColorUse.ending : ColorUse → Text
  | .stroke => "StrokeColor".toList
  | .fill => "FillColor".toList
  | .text => "TextColor".toList

/-- A color of a layer, as its expression. -/
structure ColorVariable where
  layer : Layer
  color : Text
  use : ColorUse
deriving DecidableEq, Repr

/-- The property's name. -/
def ColorVariable.name (v : ColorVariable) : Text := v.layer.identifier v.use.ending

/-- A string that a layer shows, as the inside of its literal. -/
structure TextVariable where
  layer : Layer
  text : Text
deriving DecidableEq, Repr

namespace TextVariable

/-- The property's name. -/
def name (v : TextVariable) : Text := v.layer.identifier "Text".toList

/-- The name of the property for an attributed text that takes the string's place. -/
def attributedName (v : TextVariable) : Text := v.layer.identifier "AttributedText".toList

/-- The name of the property for the frame that the text is drawn in. -/
def frameName (v : TextVariable) : Text := v.layer.identifier "Frame".toList

end TextVariable

/-- A font of a layer, as the expression that makes it. -/
structure FontVariable where
  layer : Layer
  expression : Text
deriving DecidableEq, Repr

namespace FontVariable

/-- The property's name. -/
def name (v : FontVariable) : Text := v.layer.identifier "Font".toList

/-- The font's size, if its expression states one. -/
def size? (v : FontVariable) : Option PointSize := PointSize.ofExpression? v.expression

/-- The property's initial value.  With a known size the expression is not unwrapped by force: where
the named font is missing, the system's font of that size stands in. -/
def value (v : FontVariable) : Text :=
  match v.size? with
  | some size =>
    -- The mark that unwraps by force goes wherever it stands.
    v.expression.filter (· != '!') ++ " ?? UIFont.systemFont(ofSize: ".toList ++ size.toText ++ [')']
  | none => v.expression

end FontVariable

/-- The bounds of a filled layer. -/
structure FrameVariable where
  layer : Layer
deriving DecidableEq, Repr

namespace FrameVariable

/-- The property's name. -/
def name (v : FrameVariable) : Text := v.layer.identifier "Frame".toList

/-- The name of the layer's path in the drawing code. -/
def pathName (v : FrameVariable) : Text := v.layer.codeName

end FrameVariable

/-- The kinds of properties. -/
inductive Kind where
  | color
  | text
  | font
  | frame
deriving DecidableEq, Repr

/-- The word for a kind in reports. -/
def Kind.word : Kind → Text
  | .color => "color".toList
  | .text => "text".toList
  | .font => "font".toList
  | .frame => "frame".toList

/-- A property declaration of the view. -/
structure Declaration where
  label : Text
  name : Text
  type : Text
  value : Text
  kind : Kind
  visibility : Visibility
deriving DecidableEq, Repr

/-- The line that declares a stored property in the body of a class. -/
def Declaration.line (d : Declaration) : Text :=
  "    ".toList ++ d.visibility.keyword ++ " ".toList ++ d.name ++ ": ".toList ++ d.type ++
    " = ".toList ++ d.value

/-- A variable of any kind. -/
inductive Variable where
  | color (v : ColorVariable)
  | text (v : TextVariable)
  | font (v : FontVariable)
  | frame (v : FrameVariable)
deriving DecidableEq, Repr

namespace Variable

/-- The layer that a variable belongs to. -/
def layer : Variable → Layer
  | .color v => v.layer
  | .text v => v.layer
  | .font v => v.layer
  | .frame v => v.layer

/-- The kind of a variable. -/
def kind : Variable → Kind
  | .color _ => .color
  | .text _ => .text
  | .font _ => .font
  | .frame _ => .frame

/-- The type of the property. -/
def type : Variable → Text
  | .color _ => "UIColor".toList
  | .text _ => "String".toList
  | .font _ => "UIFont".toList
  | .frame _ => "CGRect".toList

/-- The property's name. -/
def name : Variable → Text
  | .color v => v.name
  | .text v => v.name
  | .font v => v.name
  | .frame v => v.name

/-- The visibility of the property. -/
def visibility (v : Variable) : Visibility := v.layer.visibility

/-- The property's initial value. -/
def value : Variable → Text
  | .color v => v.color
  | .text v => "\"".toList ++ v.text ++ "\"".toList
  | .font v => v.value
  | .frame _ => ".zero".toList

/-- The declaration of the property itself. -/
def declaration (v : Variable) : Declaration where
  label := v.layer.label
  name := v.name
  type := v.type
  value := v.value
  kind := v.kind
  visibility := v.visibility

/-- The declarations that come with that of the property. -/
def companions (v : Variable) : List Declaration :=
  match v with
  | .text t =>
    -- An attributed text is reported as a text, the frame of a text as a frame.
    [{ v.declaration with
        name := t.attributedName, type := "NSAttributedString?".toList, value := "nil".toList },
     { v.declaration with
        name := t.frameName, type := "CGRect".toList, value := ".zero".toList, kind := .frame }]
  | _ => []

/-- The declarations that a variable gives, in order. -/
def declarations (v : Variable) : List Declaration := v.declaration :: v.companions

end Variable

end LayerView
