import LayerView.Capture
import LayerView.Variable

/-!
# Watching for the draw call of a text

A text found in the code is drawn some lines further down.  Between the two places a watch keeps the
text in mind.  When the draw call comes, the lines go above it that store the text's frame and let an
attributed text take its place.  Only the latest text is kept: one that is not drawn before the next
text is found is forgotten.
-/

namespace LayerView

open LayerView.Text

/-- The text whose draw call is waited for, if any. -/
structure DrawWatch where
  waiting? : Option TextVariable := none
deriving DecidableEq, Repr

namespace DrawWatch

/-- Watch for nothing. -/
def idle : DrawWatch := {}

/-- Watch for the draw call of a text, and for no other. -/
def remember (_ : DrawWatch) (v : TextVariable) : DrawWatch := ⟨some v⟩

/-- How the draw call of a text starts. -/
def callOf (v : TextVariable) : Text := v.layer.codeName ++ ".draw(in: ".toList

/-- The line that stores a rectangle of the drawing in a property, in view coordinates. -/
def frameAssignment (name rect : Text) : Text :=
  "        ".toList ++ name ++ " = convertRectToViewSpace(".toList ++ rect ++
    ", context: context)".toList

/-- The lines that go above the draw call of a text. -/
def overrideBlock (v : TextVariable) (call : Text) : List Text :=
  let code := v.layer.codeName
  -- A call that draws into a variable has no rectangle to store.
  (match rectLiteral? call with
    | some rect => [frameAssignment v.frameName rect]
    | none => []) ++
  ["            // if explicit text for ".toList ++ code ++ " was defined, use that".toList,
   "            if let attributedText = ".toList ++ v.attributedName ++ " \x7b".toList,
   "                ".toList ++ code ++ ".setAttributedString(attributedText)".toList,
   "            \x7d".toList]

/-- Show the watch a line: the lines to put above it, and what is waited for afterwards. -/
def observe (w : DrawWatch) (line : Text) : List Text × DrawWatch :=
  match w.waiting? with
  | some v => if contains (callOf v) line then (overrideBlock v line, idle) else ([], w)
  | none => ([], w)

end DrawWatch

end LayerView
