import LayerView.Text.Blank
import LayerView.Text.Pattern
import LayerView.Text.WordChar

/-!
# The draw call of an implementation

An implementation holds a call that draws the whole picture at its own size:

    [Diagram drawCanvasWithFrame:CGRectMake(0, 0, 240, 120) resizing:DiagramResizingAspectFit]

From it come the method to draw with, the native size, and the resizing behaviour.
-/

namespace LayerView.Pair

open LayerView.Text

/-- What a draw call says about a picture. -/
structure DrawCall where
  method : Text
  width : Text
  height : Text
  resizing : Text
deriving DecidableEq, Repr

/-- Whether a name is that of a draw method that takes a frame. -/
def isDrawMethod (name : Text) : Bool :=
  -- The two words may not be the whole name.
  "draw".toList.isPrefixOf name && "WithFrame".toList.isSuffixOf name && decide (13 < name.length)

/-- Whether a character may be part of a number. -/
def isFigure (c : Char) : Bool := isDecimalDigit c || c == '.'

/-- A comma, blanks and a number: the number and what follows it. -/
def nextFigure? (t : Text) : Option (Text × Text) := do
  let t ← skip? ",".toList t
  let (_, t) ← run? isBlank t
  run? isFigure t

/-- The draw call that starts a text. -/
def drawCallAt? (t : Text) : Option DrawCall := do
  let t ← skip? "[".toList t
  let (_, t) ← run? isWordChar t
  let t ← skip? " ".toList t
  let (method, t) ← run? isWordChar t
  if !isDrawMethod method then none
  else
    let t ← skip? ":CGRectMake(".toList t
    -- The origin is passed over; only the size counts.
    let (_, t) ← run? isFigure t
    let (_, t) ← nextFigure? t
    let (width, t) ← nextFigure? t
    let (height, t) ← nextFigure? t
    let t ← skip? ")".toList t
    let (_, t) ← run? isBlank t
    let t ← skip? "resizing:".toList t
    let (resizing, t) ← run? isWordChar t
    let _ ← skip? "]".toList t
    return ⟨method ++ [':'], width, height, resizing⟩

/-- The first draw call of an implementation. -/
def drawCall? : Text → Option DrawCall
  | [] => none
  | c :: t =>
    match drawCallAt? (c :: t) with
    | some call => some call
    | none => drawCall? t

end LayerView.Pair
