import LayerView.Text.Offset

/-!
# Lines

A line ends with a line feed, which may have a carriage return before it; the last line of a text
may have no ending at all.  Two readings are needed.  `lines` takes a carriage return for part of an
ending only when a line feed follows it.  `locatedLines` also drops one from the end of an unended
last line, and tells where each line starts.
-/

namespace LayerView.Text

/-- Cut a text after every `stop`. -/
def piecesAt (stop : Char) : Text → List Text
  | [] => []
  | c :: t =>
    if c = stop then [c] :: piecesAt stop t
    else
      match piecesAt stop t with
      | [] => [[c]]
      | p :: ps => (c :: p) :: ps

/-- Cut a text after every line feed. -/
abbrev pieces (t : Text) : List Text := piecesAt '\n' t

/-- A piece without its line ending; a carriage return counts only before a line feed. -/
def withoutEnding (p : Text) : Text :=
  if p.getLast? = some '\n' then dropFinal '\r' p.dropLast else p

/-- A piece without a line feed at its end and then without a carriage return at its end. -/
def chomp (p : Text) : Text := dropFinal '\r' (dropFinal '\n' p)

/-- The lines of a text. -/
def lines (t : Text) : List Text := (pieces t).map withoutEnding

/-- A line and the byte offset in its text at which it starts. -/
structure Located where
  offset : Nat
  line : Text
deriving DecidableEq, Repr

/-- The lines of consecutive pieces, of which the first starts at `offset`. -/
def locate : Nat → List Text → List Located
  | _, [] => []
  | offset, p :: ps => ⟨offset, chomp p⟩ :: locate (offset + size p) ps

/-- The lines of a text with their offsets. -/
def locatedLines (t : Text) : List Located := locate 0 (pieces t)

/-- Lines with a line feed between each two. -/
def joinLines (ls : List Text) : Text := ['\n'].intercalate ls

end LayerView.Text
