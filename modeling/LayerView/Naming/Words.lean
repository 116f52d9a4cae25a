import LayerView.Text.Letter
import LayerView.Text.LetterCase

/-!
# Words of a label

A free-form label is cut into words.  Characters that are neither letters nor numerals separate
words and belong to none.  A word also ends where a capital follows a small letter or a digit
(`fooBar`), and before the last capital of a run of capitals that a small letter follows
(`XMLHttp`).
-/

namespace LayerView.Naming

open LayerView.Text

/-- Whether a new word starts at `c`, given its neighbours in the label. -/
def startsWord (prev : Option Char) (c : Char) (next : Option Char) : Bool :=
  match prev with
  | none => false
  | some p =>
    -- First the seam of `fooBar`, then that of `XMLHttp`.
    ((isLowercase p || isAsciiDigit p) && isUppercase c) ||
      (isUppercase p && isUppercase c && next.any isLowercase)

/-- The word collected so far, if it has any character. -/
def finished (word : Text) : List Text := if word.isEmpty then [] else [word]

/-- The words of the rest of a label, after the character `prev` and with `word` begun. -/
def wordsFrom (prev : Option Char) (word : Text) : Text → List Text
  | [] => finished word
  | c :: t =>
    if !isAlphanumeric c then finished word ++ wordsFrom (some c) [] t
    else if startsWord prev c t.head? then finished word ++ wordsFrom (some c) [c] t
    else wordsFrom (some c) (word ++ [c]) t

/-- The words of a label, in order. -/
def words (label : Text) : List Text := wordsFrom none [] label

/-- A word that is not the first of a name: its first character is raised and the rest lowered, and
an underscore keeps a leading digit apart from the word before. -/
def laterWord : Text → Text
  | [] => []
  | c :: t => (if isAsciiDigit c then ['_'] else []) ++ upperChar c ++ lower t

/-- The words of a label joined into one camel-case name. -/
def camelCase (label : Text) : Text :=
  match words label with
  | [] => []
  | first :: later => lower first ++ later.flatMap laterWord

end LayerView.Naming
