import LayerView.Decimal.Literal

/-!
# The nearest binary number

A point size is held as a binary number with 53 significant bits and a bounded exponent.  Rounding a
decimal to it is done in exact integer arithmetic: to the nearest neighbour, and from half way to the
one with an even significand.  Numbers past the largest become infinite, and numbers too small to be
told from zero become zero.
-/

namespace LayerView.Decimal

/-- A finite binary number `significand * 2 ^ exponent`. -/
structure Binary where
  significand : Nat
  exponent : Int
deriving DecidableEq, Repr

/-- A binary number with its sign, or one of the values that are no number. -/
inductive Rounded where
  | finite (negative : Bool) (value : Binary)
  | infinite (negative : Bool)
  | undefined
deriving DecidableEq, Repr

/-- The least exponent of a binary number. -/
def leastExponent : Int := -1074

/-- The quotient of two numbers rounded to nearest, from half way to the even neighbour. -/
def roundedQuotient (num den : Nat) : Nat :=
  let q := num / den
  let r := num % den
  if 2 * r < den ∨ (2 * r = den ∧ q % 2 = 0) then q else q + 1

/-- `num / den` in units of `2 ^ exponent`, as a numerator and a denominator. -/
def inUnits (num den : Nat) (exponent : Int) : Nat × Nat :=
  if 0 ≤ exponent then (num, den * Nat.pow 2 exponent.toNat)
  else (num * Nat.pow 2 (-exponent).toNat, den)

/-- The exponent at which a positive quotient has 53 bits before the point, or the least one. -/
def unitExponent (num den : Nat) : Int :=
  -- The logarithms fix the quotient up to a factor of two, so the guess is right or one too low.
  let guess : Int := (num.log2 : Int) - den.log2 - 53
  let (n, d) := inUnits num den guess
  max leastExponent (if n / d < Nat.pow 2 53 then guess else guess + 1)

/-- The binary number nearest to a positive quotient, `none` if it is too large for one. -/
def nearestQuotient (num den : Nat) : Option Binary :=
  let e := unitExponent num den
  let (n, d) := inUnits num den e
  let m := roundedQuotient n d
  -- Rounding up can carry into a bit more.
  let (m, e) := if m = Nat.pow 2 53 then (Nat.pow 2 52, e + 1) else (m, e)
  if 971 < e then none else some ⟨m, e⟩

/-- The binary number nearest to `digits * 10 ^ exponent`, `none` if it is too large for one.  An
exponent far outside the range is decided without forming the power of ten. -/
def nearest? (digits : Nat) (exponent : Int) : Option Binary :=
  if digits = 0 then some ⟨0, leastExponent⟩
  else if 0 ≤ exponent then
    -- A power of ten has more than three bits for each of its zeros.
    if 1024 ≤ digits.log2 + 3 * exponent.toNat then none
    else nearestQuotient (digits * Nat.pow 10 exponent.toNat) 1
  else if digits.log2 + 1076 ≤ 3 * (-exponent).toNat then some ⟨0, leastExponent⟩
  else nearestQuotient digits (Nat.pow 10 (-exponent).toNat)

/-- Round a literal to a binary number. -/
def Literal.round : Literal → Rounded
  | .finite negative digits exponent =>
    match nearest? digits exponent with
    | some value => .finite negative value
    | none => .infinite negative
  | .infinite negative => .infinite negative
  | .undefined => .undefined

end LayerView.Decimal
