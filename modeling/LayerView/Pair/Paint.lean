import LayerView.Caption
import LayerView.Naming.Words
import LayerView.Text.Pattern
import LayerView.Variable

/-!
# Colors of an implementation

In an implementation a color is set by a statement such as `[[UIColor redColor] setFill];`.  Where
the statement belongs to a layer, its color expression is replaced by a property read.  Fills and
strokes are looked for separately and put in the order of their places; the replacements are made
from the last to the first, so that the places still to be treated keep their offsets.
-/

namespace LayerView.Pair

open LayerView.Text

/-- What a statement does with a color. -/
inductive Paint where
  | fill
  | stroke
deriving DecidableEq, Repr

/-- The word for a paint in the name of a property. -/
def Paint.word : Paint → Text
  | .fill => "fill".toList
  | .stroke => "stroke".toList

/-- How a statement that sets a color ends. -/
def Paint.closing : Paint → Text
  | .fill => " setFill];".toList
  | .stroke => " setStroke];".toList

/-- How a statement that sets a color starts. -/
def paintOpening : Text := "[[UIColor ".toList

/-- A color that was found in an implementation. -/
structure PaintMatch where
  /-- The byte offset of the color expression. -/
  start : Nat
  color : Text
  label : Text
  name : Text
deriving DecidableEq, Repr

/-- The label of a property: the layer's label with underscores for blanks, and what it is for. -/
def propertyLabel (label : Text) (p : Paint) : Text :=
  (label.map fun c => if isBlank c then '_' else c) ++ "_".toList ++ p.word ++ "_color".toList

/-- The name of the property for a color of a layer. -/
def propertyName (label : Text) (p : Paint) : Text := Naming.camelCase (propertyLabel label p)

/-- A color expression: it is closed by the first bracket and has no semicolon. -/
def colorExpression : Pattern := fun t =>
  if "[UIColor ".toList.isPrefixOf t then
    let inner := (t.drop 9).takeWhile fun c => c != ';' && c != ']'
    if !inner.isEmpty && ((t.drop 9).drop inner.length).head? == some ']' then
      some (9 + inner.length + 1)
    else none
  else none

/-- The text before a call that sets a color in a statement, and the call to the statement's end. -/
def paintCall? (p : Paint) (statement : Text) : Option (Text × Text) := do
  let (lead, rest) ← breakOn? paintOpening statement
  -- There has to be something between the two: the color.
  if p.closing.isSuffixOf rest && decide (p.closing.length < rest.length) then
    some (lead, paintOpening ++ rest)
  else none

/-- The statements of a code with their byte offsets; each but the last ends with a semicolon. -/
def statementsFrom : Nat → List Text → List (Nat × Text)
  | _, [] => []
  | offset, s :: ss => (offset, s) :: statementsFrom (offset + size s) ss

/-- The color that a statement sets, if it belongs to a layer. -/
def paintMatch? (p : Paint) (code : Text) (offset : Nat) (statement : Text) :
    Option PaintMatch := do
  let (lead, call) ← paintCall? p statement
  let (before, color, _) ← breakAt? colorExpression call
  -- What counts is the caption above the statement, so its start is the place to look from.
  let label ← Caption.labelBefore? Caption.objcMark code (offset + size lead)
  return ⟨offset + size lead + size before, color, label, propertyName label p⟩

/-- The colors of one use, in the order of their places. -/
def paintMatches (p : Paint) (code : Text) : List PaintMatch :=
  (statementsFrom 0 (piecesAt ';' code)).filterMap fun (offset, s) => paintMatch? p code offset s

/-- All colors in the order of their places. -/
def colorMatches (code : Text) : List PaintMatch :=
  (paintMatches .fill code ++ paintMatches .stroke code).mergeSort fun a b => a.start ≤ b.start

/-- How an implementation reads the property of a color. -/
def PaintMatch.reference (m : PaintMatch) : Text := "self.".toList ++ m.name

/-- Replace one color by its property. -/
def replaceColor (m : PaintMatch) (code : Text) : Text :=
  (splice? code m.start (m.start + size m.color) m.reference).getD code

/-- Replace colors by their properties, the last one first. -/
def replaceColors (ms : List PaintMatch) (code : Text) : Text := ms.foldr replaceColor code

/-! ## Declarations -/

/-- The declaration of the property for a color. -/
def PaintMatch.declaration (m : PaintMatch) : Declaration where
  label := m.label
  name := m.name
  type := "UIColor *".toList
  value := m.color
  kind := .color
  visibility := .ofLabel m.label

/-- Insert a declaration in the order of names, unless its name is there already. -/
def insertByName (d : Declaration) : List Declaration → List Declaration
  | [] => [d]
  | e :: es =>
    if d.name < e.name then d :: e :: es
    else if d.name = e.name then e :: es
    else e :: insertByName d es

/-- The declarations for colors, by name; of several colors of one name the first one counts. -/
def declarationsOf (ms : List PaintMatch) : List Declaration :=
  ms.foldl (fun ds m => insertByName m.declaration ds) []

end LayerView.Pair
