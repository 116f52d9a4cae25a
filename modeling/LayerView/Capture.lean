import LayerView.Text.Blank
import LayerView.Text.Offset

/-!
# Captured literals

Drawing code is regular enough that a literal can be told by the text around it on its line.  A
capture cuts a line into what stands before the literal, the literal, and what stands after, so that
filling in another text leaves the rest of the line as it was.
-/

namespace LayerView

open LayerView.Text

/-- A literal on a line with its surroundings. -/
structure Capture where
  before : Text
  text : Text
  after : Text
  /-- Whether the text that has to end the literal was found. -/
  closed : Bool
deriving DecidableEq, Repr

namespace Capture

/-- The line that was cut. -/
def line (c : Capture) : Text := c.before ++ c.text ++ c.after

/-- The byte offset at which the literal starts. -/
def start (c : Capture) : Nat := size c.before

/-- The byte offset at which the literal ends. -/
def stop (c : Capture) : Nat := size c.before + size c.text

/-- The line with another text in place of the literal. -/
def fill (c : Capture) (new : Text) : Text := c.before ++ new ++ c.after

/-- Take one character more on either side into the literal. -/
def widen (c : Capture) : Capture :=
  { c with
    before := c.before.dropLast
    text := c.before.getLast?.toList ++ c.text ++ c.after.head?.toList
    after := c.after.tail }

/-- Filling the literal itself in gives the line back. -/
@[simp] theorem fill_text (c : Capture) : c.fill c.text = c.line := rfl

end Capture

/-! ## Literals between two delimiters -/

/-- A pair of delimiters. -/
structure Delimited where
  left : Text
  right : Text
deriving DecidableEq, Repr

/-- The literal after the first left delimiter of a line.  It ends at the first right delimiter, and
in any case before the next left one.  An empty literal is none. -/
def Delimited.find? (d : Delimited) (line : Text) : Option Capture := do
  let (lead, rest) ← breakOn? d.left line
  -- A second opening belongs to another literal, so the search for the end stops there.
  let (segment, beyond, _) := cutBefore d.left rest
  let (text, tail, closed) := cutBefore d.right segment
  if text.isEmpty then none
  else some { before := lead ++ d.left, text, after := tail ++ beyond, closed }

/-- A capture between delimiters cuts the line that it was found on. -/
theorem Delimited.line_eq_of_find? {d : Delimited} {line : Text} {c : Capture}
    (h : d.find? line = some c) : c.line = line := by
  cases hl : breakOn? d.left line with
  | none => simp [Delimited.find?, hl] at h
  | some parts =>
    simp only [Delimited.find?, hl, Option.bind_eq_bind, Option.bind_some,
      Option.ite_none_left_eq_some, Option.some.injEq] at h
    obtain ⟨-, rfl⟩ := h
    have hsegment := cutBefore_append d.right (cutBefore d.left parts.2).1
    have hrest := cutBefore_append d.left parts.2
    have hline := eq_append_of_breakOn? hl
    -- From the inside out: first the segment is whole again, then the rest of the line.
    calc
      _ = parts.1 ++ d.left ++ (((cutBefore d.right (cutBefore d.left parts.2).1).1 ++
            (cutBefore d.right (cutBefore d.left parts.2).1).2.1) ++
            (cutBefore d.left parts.2).2.1) := by simp only [Capture.line, List.append_assoc]
      _ = parts.1 ++ d.left ++ parts.2 := by rw [hsegment, hrest]
      _ = line := hline.symm

/-! ## Receivers of a call -/

/-- A call that follows its receiver, such as `.setFill()`. -/
structure CallSuffix where
  marker : Text
deriving DecidableEq, Repr

/-- The text before the first call on a line, without the blanks around it. -/
def CallSuffix.find? (s : CallSuffix) (line : Text) : Option Capture := do
  let (head, rest) ← breakOn? s.marker line
  let text := trim head
  if text.isEmpty then none
  else
    -- Blanks on either side of the receiver stay where they are.
    let indent := head.takeWhile isBlank
    some
      { before := indent
        text
        after := (head.drop indent.length).drop text.length ++ s.marker ++ rest
        closed := true }

/-- The receiver of a call cuts the line that it was found on. -/
theorem CallSuffix.line_eq_of_find? {s : CallSuffix} {line : Text} {c : Capture}
    (h : s.find? line = some c) : c.line = line := by
  cases hm : breakOn? s.marker line with
  | none => simp [CallSuffix.find?, hm] at h
  | some parts =>
    simp only [CallSuffix.find?, hm, Option.bind_eq_bind, Option.bind_some,
      Option.ite_none_left_eq_some, Option.some.injEq] at h
    obtain ⟨-, rfl⟩ := h
    have hhead := takeWhile_append_trim parts.1
    have hline := eq_append_of_breakOn? hm
    calc
      _ = (parts.1.takeWhile isBlank ++ trim parts.1 ++
            (parts.1.drop (parts.1.takeWhile isBlank).length).drop (trim parts.1).length) ++
            s.marker ++ parts.2 := by simp only [Capture.line, List.append_assoc]
      _ = parts.1 ++ s.marker ++ parts.2 := by rw [hhead]
      _ = line := hline.symm

/-! ## Rectangles -/

/-- How a rectangle literal starts. -/
def rectOpening : Text := "CGRect(x:".toList

/-- The rectangle that is the last argument of a draw call. -/
def rectLiteral? (line : Text) : Option Text := do
  let (_, rest) ← breakOn? rectOpening line
  -- The first parenthesis closes the rectangle, the second the call around it.
  let (inner, _) ← breakOn? "))".toList rest
  return rectOpening ++ inner ++ [')']

end LayerView
