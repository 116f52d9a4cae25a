import LayerView.Naming.Identifier

/-!
# Layers

A layer of a drawing is known by its label.  A label that starts with an underscore keeps the
layer's properties out of the view's public interface.
-/

namespace LayerView

/-- Whether a property belongs to the public interface of the view. -/
inductive Visibility where
  | visible
  | hidden
deriving DecidableEq, Repr

/-- The visibility of the properties of a layer, from its label. -/
def Visibility.ofLabel : Text → Visibility
  | '_' :: _ => .hidden
  | _ => .visible

/-- How a stored property of this visibility is introduced. -/
def Visibility.keyword : Visibility → Text
  | .visible => "public var".toList
  | .hidden => "let".toList

/-- The word for a visibility in reports. -/
def Visibility.word : Visibility → Text
  | .visible => "public".toList
  | .hidden => "private".toList

/-- A layer of a drawing. -/
structure Layer where
  label : Text
deriving DecidableEq, Repr

namespace Layer

/-- The visibility of a layer's properties. -/
def visibility (l : Layer) : Visibility := .ofLabel l.label

/-- The name of the property of a layer with a given ending, such as `dotFillColor`. -/
def identifier (l : Layer) (ending : Text) : Text := Naming.baseIdentifier l.label ++ ending

/-- The name of the layer's object in the drawing code. -/
def codeName (l : Layer) : Text := Naming.codeIdentifier l.label

end Layer

end LayerView
