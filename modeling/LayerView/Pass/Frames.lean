import LayerView.DrawWatch
import LayerView.Edit

/-!
# Frames of filled layers

Every filled layer of a drawing has a frame property.  The bounds of its path are stored in it right
after the path is filled.
-/

namespace LayerView.Pass

open LayerView.Text

/-- The frames of the layers with a fill color, one for each such color. -/
def framesOf (colors : List ColorVariable) : List FrameVariable :=
  (colors.filter (·.use = .fill)).map fun c => ⟨c.layer⟩

/-- How a line fills the path of a frame. -/
def pathFill (f : FrameVariable) : Text := " ".toList ++ f.pathName ++ ".fill()".toList

/-- The line that stores the bounds of a path. -/
def boundsAssignment (f : FrameVariable) : Text :=
  DrawWatch.frameAssignment f.name (f.pathName ++ ".bounds".toList)

/-- What becomes of one line: the first frame whose path it fills is assigned below it. -/
def frameEditAt (frames : List FrameVariable) (line : Text) : Edit FrameVariable :=
  match frames.find? fun f => contains (pathFill f) line with
  | some f =>
    { line, below := [boundsAssignment f], found? := some f, events := [.frameAssigned f.name] }
  | none => { line }

/-- Assign frames where their paths are filled. -/
def frames (fs : List FrameVariable) (source : Text) : List (Edit FrameVariable) :=
  (lines source).map (frameEditAt fs)

end LayerView.Pass
