import LayerView.Text.Basic
import LayerView.Text.CodeSet

/-!
# Blanks

The blanks are the characters with the `White_Space` property.  No-break spaces and the line and
paragraph separators belong to it; zero-width spaces and byte order marks do not.
-/

namespace LayerView.Text

/-- Code points with the `White_Space` property. -/
def blankRanges : List (Nat × Nat) :=
  [(0x9, 0xD), (0x20, 0x20), (0x85, 0x85), (0xA0, 0xA0), (0x1680, 0x1680), (0x2000, 0x200A),
    (0x2028, 0x2029), (0x202F, 0x202F), (0x205F, 0x205F), (0x3000, 0x3000)]

/-- Whether a character is a blank. -/
def isBlank (c : Char) : Bool := inRanges blankRanges c.toNat

/-- A text without its leading blanks. -/
def trimStart (t : Text) : Text := t.dropWhile isBlank

/-- A text without its trailing blanks. -/
def trimEnd (t : Text) : Text := (t.reverse.dropWhile isBlank).reverse

/-- A text without the blanks on either side. -/
def trim (t : Text) : Text := trimEnd (trimStart t)

/-- Trimming the end leaves the start of a text. -/
theorem trimEnd_append_drop (t : Text) : trimEnd t ++ t.drop (trimEnd t).length = t := by
  have h : trimEnd t <+: t := by
    simpa [trimEnd] using List.reverse_prefix.mpr (List.dropWhile_suffix isBlank (l := t.reverse))
  exact List.prefix_iff_eq_append.mp h

/-- A text is its leading blanks, its trimmed text, and what is left. -/
theorem takeWhile_append_trim (t : Text) :
    t.takeWhile isBlank ++ trim t ++
      (t.drop (t.takeWhile isBlank).length).drop (trim t).length = t := by
  have hdrop : t.drop (t.takeWhile isBlank).length = trimStart t := by
    have h := @List.drop_left _ (t.takeWhile isBlank) (t.dropWhile isBlank)
    rwa [List.takeWhile_append_dropWhile] at h
  rw [hdrop, trim, List.append_assoc, trimEnd_append_drop]
  exact List.takeWhile_append_dropWhile

end LayerView.Text
