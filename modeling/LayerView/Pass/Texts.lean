import LayerView.Caption
import LayerView.DrawWatch
import LayerView.Edit

/-!
# Texts of a drawing

A string literal that starts an attributed string becomes a property when its line belongs to a
layer.  The pass also watches for the call that draws it.
-/

namespace LayerView.Pass

open LayerView.Text

/-- Around the characters of a string literal. -/
def stringLiteral : Delimited :=
  ⟨"NSMutableAttributedString(string: \"".toList, "\")".toList⟩

/-- The literal on a line, which has to be closed. -/
def text? (line : Text) : Option Capture := (stringLiteral.find? line).filter (·.closed)

/-- What becomes of a line that holds a text of a layer; the quotes go with the literal. -/
def textEdit (v : TextVariable) (c : Capture) : Edit TextVariable where
  line := c.widen.fill v.name
  found? := some v
  events := [.textFound v.name v.text]

/-- What becomes of a line without a literal. -/
def drawEdit (line : Text) (block : List Text) : Edit TextVariable where
  above := block
  line := line
  events := if block.isEmpty then [] else [.drawCallFound (trim line)]

/-- What becomes of one line, and the watch after it. -/
def textEditAt (mark source : Text) (w : DrawWatch) (l : Located) :
    Edit TextVariable × DrawWatch :=
  match text? l.line with
  | some c =>
    match Caption.labelBefore? mark source l.offset with
    | some label => (textEdit ⟨⟨label⟩, c.text⟩ c, w.remember ⟨⟨label⟩, c.text⟩)
    -- A text of no layer stays, and the text waited for is waited for further.
    | none => ({ line := l.line }, w)
  | none =>
    -- Only a line without a literal can be the draw call.
    let (block, w') := w.observe l.line
    (drawEdit l.line block, w')

/-- What becomes of the lines that follow, with a watch kept so far. -/
def textsFrom (mark source : Text) (w : DrawWatch) : List Located → List (Edit TextVariable)
  | [] => []
  | l :: ls =>
    let (e, w') := textEditAt mark source w l
    e :: textsFrom mark source w' ls

/-- Turn the texts of a source into properties. -/
def texts (mark source : Text) : List (Edit TextVariable) :=
  textsFrom mark source .idle (locatedLines source)

end LayerView.Pass
