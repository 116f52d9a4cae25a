import LayerView.Decimal.Shortest
import LayerView.Text.Blank

/-!
# Point sizes

The size of a font stands in the expression that makes it.  It is read as a decimal, held as the
nearest binary number, and written with the fewest digits that read back: with a point and at least
one digit on each side of it, or with an exponent when the number is large or small.
-/

namespace LayerView

open LayerView.Text LayerView.Decimal

/-- The size of a font. -/
abbrev PointSize := Rounded

namespace PointSize

/-- A point is written where the first digit's place is from the fourth after it to the sixteenth
before it. -/
def isPositional (d : Digits) : Bool := decide (-3 ≤ d.point) && decide (d.point ≤ 16)

/-- The decimal digits of a number. -/
def digitsOf (n : Nat) : Text := Nat.toDigits 10 n

/-- A whole number in decimal, with a minus if it is negative. -/
def integerText (n : Int) : Text := if n < 0 then '-' :: digitsOf n.natAbs else digitsOf n.toNat

/-- Digits with a point among them. -/
def positional (d : Digits) : Text :=
  let ds := digitsOf d.digits
  if d.point ≤ 0 then "0.".toList ++ List.replicate (-d.point).toNat '0' ++ ds
  else
    let whole := d.point.toNat
    if ds.length ≤ whole then ds ++ List.replicate (whole - ds.length) '0' ++ ".0".toList
    else ds.take whole ++ ['.'] ++ ds.drop whole

/-- Digits with one of them before the point, and an exponent. -/
def scientific (d : Digits) : Text :=
  let ds := digitsOf d.digits
  let fraction := ds.drop 1
  ds.take 1 ++ (if fraction.isEmpty then [] else '.' :: fraction) ++ ['e'] ++
    integerText (d.point - 1)

/-- The text of a number without its sign. -/
def magnitude (b : Binary) : Text :=
  if b.significand = 0 then "0.0".toList
  else if isPositional b.shortest then positional b.shortest
  else scientific b.shortest

/-- The minus sign of a negative number. -/
def sign (negative : Bool) : Text := if negative then ['-'] else []

/-- The text of a point size. -/
def toText : PointSize → Text
  | .finite negative value => sign negative ++ magnitude value
  | .infinite negative => sign negative ++ "inf".toList
  | .undefined => "NaN".toList

/-- What introduces the size in a font expression. -/
def sizeLabel : Text := ", size: ".toList

/-- The size in a font expression: the number after the first size label, up to the next label or
the next closing parenthesis. -/
def ofExpression? (expression : Text) : Option PointSize := do
  let (_, rest) ← breakOn? sizeLabel expression
  let argument := upTo [')'] (upTo sizeLabel rest)
  return (← read? (trim argument)).round

end PointSize

end LayerView
