import LayerView.Text.Blank
import LayerView.Text.Lines

/-!
# Layer captions

Above the code that draws a layer stands a comment with the layer's label:

    /// Dot
    let dot = UIBezierPath(ovalIn: CGRect(x: 10, y: 10, width: 100, height: 100))

The mark that opens such a comment differs between the dialects.  A place in the code belongs to the
label of the nearest caption above it.  A caption without a label hides those above it.
-/

namespace LayerView.Caption

open LayerView.Text

/-- The mark of captions in Swift code. -/
def swiftMark : Text := "/// ".toList

/-- The mark of captions in Objective-C code. -/
def objcMark : Text := "//! ".toList

/-- The label on a line that has the mark, if it is not blank. -/
def label? (mark line : Text) : Option Text :=
  let label := trim (replaceAll mark [] line)
  if label.isEmpty then none else some label

/-- The label that holds at a byte offset of a source.  There is none at an offset that is not a
character boundary of it. -/
def labelBefore? (mark source : Text) (offset : Nat) : Option Text := do
  let (head, _) ← cut? offset source
  -- The nearest caption decides, also where it holds no label.
  let line ← (lines head).reverse.find? (contains mark)
  label? mark line

end LayerView.Caption
