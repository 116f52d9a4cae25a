import LayerView.Text.Basic

/-!
# Dialects and conversion options

Drawings are exported in one of two shapes: a single Swift file, or an Objective-C header with its
implementation.
-/

namespace LayerView

/-- The shape of an exported drawing. -/
inductive Dialect where
  | swift
  | objc
deriving DecidableEq, Repr

/-- The word for a dialect in reports. -/
def Dialect.word : Dialect → Text
  | .swift => "swift".toList
  | .objc => "objc".toList

/-- The background of a view for which none was chosen. -/
def Dialect.defaultBackground : Dialect → Text
  | .swift => ".clear".toList
  | .objc => "[UIColor clearColor]".toList

/-- The class that a view extends when none was chosen. -/
def defaultBaseType : Text := "UIView".toList

/-- What can be chosen for one conversion. -/
structure Options where
  dialect : Dialect
  /-- The class that the view extends. -/
  baseType : Text := defaultBaseType
  /-- The expression of the background color. -/
  background? : Option Text := none
  /-- Whether repeated names are reported. -/
  verbose : Bool := false
deriving DecidableEq, Repr

/-- The background in effect. -/
def Options.background (o : Options) : Text := o.background?.getD o.dialect.defaultBackground

end LayerView
