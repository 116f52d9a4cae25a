import LayerView.Text.Basic

/-!
# Decimal literals

Reading a number written with a point and an exponent.  The value is kept exactly, as an integer
times a power of ten.  A sign may come first; digits may be missing on one side of the point but not
on both; the words for infinity and for an undefined number are read in any case.
-/

namespace LayerView.Decimal

/-- What a numeric literal denotes. -/
inductive Literal where
  /-- The number `digits * 10 ^ exponent`, negated if `negative`. -/
  | finite (negative : Bool) (digits : Nat) (exponent : Int)
  | infinite (negative : Bool)
  | undefined
deriving DecidableEq, Repr

/-- Whether a character is a decimal digit of the ASCII range. -/
def isDigit (c : Char) : Bool := decide ('0' ≤ c) && decide (c ≤ '9')

/-- The value of a run of digits. -/
def natOfDigits (ds : Text) : Nat := ds.foldl (fun n c => 10 * n + (c.toNat - '0'.toNat)) 0

/-- A leading sign, as whether it is a minus, and what follows it. -/
def readSign : Text → Bool × Text
  | '-' :: t => (true, t)
  | '+' :: t => (false, t)
  | t => (false, t)

/-- The exponent part, which has to be the whole text. -/
def readExponent? : Text → Option Int
  | [] => some 0
  | mark :: t =>
    if mark = 'e' ∨ mark = 'E' then
      let (negative, ds) := readSign t
      if ds.isEmpty || !ds.all isDigit then none
      else some (if negative then -(natOfDigits ds : Int) else natOfDigits ds)
    else none

/-- The digits after a point, and what follows them; no digits if there is no point. -/
def readFraction : Text → Text × Text
  | '.' :: t => t.span isDigit
  | t => ([], t)

/-- A number without its sign. -/
def readMagnitude? (negative : Bool) (t : Text) : Option Literal :=
  let (whole, t) := t.span isDigit
  let (part, t) := readFraction t
  if whole.isEmpty && part.isEmpty then none
  else
    -- Digits after the point are read as if they stood before it, and the exponent makes up for
    -- that.
    (readExponent? t).map fun e =>
      .finite negative (natOfDigits (whole ++ part)) (e - part.length)

/-- Read a literal that is the whole text. -/
def read? (t : Text) : Option Literal :=
  let (negative, body) := readSign t
  let word := body.map Char.toLower
  if word = "inf".toList ∨ word = "infinity".toList then some (.infinite negative)
  else if word = "nan".toList then some .undefined
  else readMagnitude? negative body

end LayerView.Decimal
