import LayerView.Decimal.Nearest

/-!
# The shortest decimal of a binary number

Every binary number stands for an interval of reals that round to it.  Its shortest decimal is the
one with the fewest digits inside that interval, and among those the one nearest to the number
itself; of two equally near, the larger.  The ends of the interval belong to it when the significand
is even.  Digits are tried from one upwards, and on each grid only the two neighbours of the number
can qualify.
-/

namespace LayerView.Decimal

/-- A decimal `0.d₁d₂… * 10 ^ point`, its digits being those of `digits`. -/
structure Digits where
  digits : Nat
  point : Int
deriving DecidableEq, Repr

/-- A positive number and the interval of the reals that round to it, over one denominator. -/
structure Window where
  low : Nat
  value : Nat
  high : Nat
  den : Nat
  closed : Bool
deriving DecidableEq, Repr

/-- The window of a binary number.  Below a power of two the neighbour is half as far as above. -/
def Binary.window (b : Binary) : Window :=
  let m := b.significand
  let narrow := m = Nat.pow 2 52 ∧ leastExponent < b.exponent
  -- Quarters of a unit make the ends of the interval whole numbers.
  let scale := Nat.pow 2 (b.exponent - 2).toNat
  { low := (4 * m - if narrow then 1 else 2) * scale
    value := 4 * m * scale
    high := (4 * m + 2) * scale
    den := Nat.pow 2 (2 - b.exponent).toNat
    closed := m % 2 = 0 }

/-- Whether the decimal `n * up / down` lies in a window. -/
def Window.holds (w : Window) (n up down : Nat) : Bool :=
  let x := n * up * w.den
  let low := w.low * down
  let high := w.high * down
  if w.closed then low ≤ x && x ≤ high else low < x && x < high

/-- The decimal point's place: the least `k` with `value < 10 ^ k`, looked for from a lower bound
with a number of steps that is enough. -/
def Window.pointFrom (w : Window) : Nat → Int → Int
  | 0, k => k
  | steps + 1, k =>
    if w.value * Nat.pow 10 (-k).toNat < Nat.pow 10 k.toNat * w.den then k
    else w.pointFrom steps (k + 1)

/-- The place of the decimal point of a window's number. -/
def Window.point (w : Window) : Int :=
  -- Binary places become decimal ones by the logarithm of two, taken one lower to be a lower bound.
  let bits : Int := (w.value.log2 : Int) - w.den.log2
  w.pointFrom 400 ((bits - 1) * 30103 / 100000 - 1)

/-- The decimal of `count` digits in the window that is nearest to its number, if there is one. -/
def Window.candidate? (w : Window) (point : Int) (count : Nat) : Option Nat :=
  let e := point - count
  let up := Nat.pow 10 e.toNat
  let down := Nat.pow 10 (-e).toNat
  -- The neighbours of the number on the grid of `count` digits.
  let below := w.value * down / (w.den * up)
  let rest := w.value * down % (w.den * up)
  let lowOk := w.holds below up down
  let highOk := w.holds (below + 1) up down
  if lowOk && (!highOk || 2 * rest < w.den * up) then some below
  else if highOk then some (below + 1)
  else none

/-- Try decimals of `count` digits and up, a given number of times. -/
def Window.searchFrom (w : Window) (point : Int) : Nat → Nat → Digits
  | 0, _ => ⟨0, 0⟩
  | tries + 1, count =>
    match w.candidate? point count with
    -- Rounding up to a power of ten moves the point.
    | some n => if n = Nat.pow 10 count then ⟨1, point + 1⟩ else ⟨n, point⟩
    | none => w.searchFrom point tries (count + 1)

/-- The shortest decimal of a positive binary number; seventeen digits always do. -/
def Binary.shortest (b : Binary) : Digits := b.window.searchFrom b.window.point 17 1

end LayerView.Decimal
