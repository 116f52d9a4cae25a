import LayerView.Caption
import LayerView.Proofs.Lines
import Mathlib.Data.List.Induction

/-!
# Captions in reading order

The label at a place is found by going back from the place to the nearest caption.  A reader who goes
through the lines of a source once, from the first to the last, and keeps one label in mind, has the
same label in mind at the start of every line.  A caption without a label takes the label before it
from the reader's mind, and so hides it.

Main statements:
- `foldl_heed`: the last caption of some lines is what a reader has in mind after them
- `labelBefore?_eq_heeded`: both ways to find the label agree at every line
-/

namespace LayerView.Caption

open LayerView.Text

/-! ## A reader -/

/-- What a reader has in mind after a line: where the line has the mark, what is left of it without
the marks and the blanks around, if anything is; else what it was before. -/
def heed (mark : Text) (current : Option Text) (line : Text) : Option Text :=
  if contains mark line then
    if trim (replaceAll mark [] line) = [] then none else some (trim (replaceAll mark [] line))
  else current

/-- What a reader has in mind before each of the lines that follow. -/
def heededBefore (mark : Text) : Option Text → List Text → List (Option Text)
  | _, [] => []
  | current, line :: rest => current :: heededBefore mark (heed mark current line) rest

/-- At a caption the reader takes its label, or none if it has none. -/
private theorem heed_of_contains {mark line : Text} (h : contains mark line = true)
    (current : Option Text) : heed mark current line = label? mark line := by
  simp [heed, label?, h]

/-- Any other line leaves the reader with what was there. -/
private theorem heed_of_not_contains {mark line : Text} (h : contains mark line = false)
    (current : Option Text) : heed mark current line = current := by
  simp [heed, h]

/-- The last caption counts, whichever side it is looked for from. -/
theorem foldl_heed (mark : Text) (ls : List Text) :
    ls.foldl (heed mark) none = (ls.reverse.find? (contains mark)).bind (label? mark) := by
  -- from the end: the backward search meets the last line first
  induction ls using List.reverseRecOn with
  | nil => rfl
  | append_singleton ls l ih =>
    rw [List.foldl_append, List.foldl_cons, List.foldl_nil, List.reverse_append,
      List.reverse_singleton, List.singleton_append, List.find?_cons]
    -- the last line is a caption and decides, or the lines before it do
    cases hl : contains mark l with
    | true => simp [heed_of_contains hl]
    | false => simp [heed_of_not_contains hl, ih]

/-! ## Reading a source -/

/-- At the start of a piece, the look-up sees the lines of the pieces before it. -/
private theorem labelBefore?_of_pieces {source p : Text} {done ps : List Text}
    (h : pieces source = done ++ p :: ps) (mark : Text) :
    labelBefore? mark source (size done.flatten) = (done.map chomp).foldl (heed mark) none := by
  have hsource : source = done.flatten ++ (p :: ps).flatten := by
    rw [← List.flatten_append, ← h, flatten_piecesAt]
  have hcut : cut? (size done.flatten) source = some (done.flatten, (p :: ps).flatten) := by
    rw [hsource]
    exact cut?_append done.flatten (p :: ps).flatten
  -- each of them has a line feed, so it does not matter how endings are taken off
  have hlines : lines done.flatten = done.map chomp := by
    rw [lines, pieces, piecesAt_flatten_of_eq_append h]
    apply List.map_congr_left
    intro q hq
    exact withoutEnding_eq_chomp (getLast?_of_piecesAt_eq_append h q hq)
  rw [foldl_heed, ← hlines, labelBefore?, hcut]
  rfl

/-- From any piece on, the look-ups give what a reader of the pieces before it goes on with. -/
private theorem map_labelBefore?_locate {source : Text} {done ps : List Text}
    (h : pieces source = done ++ ps) (mark : Text) :
    (locate (size done.flatten) ps).map (fun l => labelBefore? mark source l.offset) =
      heededBefore mark ((done.map chomp).foldl (heed mark) none) (ps.map chomp) := by
  induction ps generalizing done with
  | nil => rfl
  | cons p ps ih =>
    -- the next piece starts behind this one, and the reader has read this one by then
    have hsize : size done.flatten + size p = size (done ++ [p]).flatten := by simp
    have hread : heed mark ((done.map chomp).foldl (heed mark) none) (chomp p) =
        ((done ++ [p]).map chomp).foldl (heed mark) none := by simp
    rw [locate, List.map_cons, List.map_cons, heededBefore, labelBefore?_of_pieces h mark, hsize,
      hread, ih (by simpa using h)]

/-- Looking back from the start of each line gives what a reader of the lines before it has in
mind. -/
theorem labelBefore?_eq_heeded (mark source : Text) :
    (locatedLines source).map (fun l => labelBefore? mark source l.offset) =
      heededBefore mark none ((locatedLines source).map Located.line) := by
  rw [map_line_locatedLines]
  exact map_labelBefore?_locate (List.nil_append _).symm mark

/-- A caption without a label hides the one above it. -/
example : heededBefore swiftMark none
    ["/// Dot".toList, "fill".toList, "  ///  ".toList, "fill".toList] =
      [none, some "Dot".toList, some "Dot".toList, none] := by
  decide

end LayerView.Caption
