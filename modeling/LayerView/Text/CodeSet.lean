/-!
# Sets of code points

The character classes of this library are finite unions of intervals, listed in increasing order.
Two layouts are used: plain closed intervals, and runs with a step, for classes such as the capital
letters that take every second code point over long stretches.  Because the lists are increasing, a
search ends as soon as an interval starts past the code point that is looked for.
-/

namespace LayerView.Text

/-- Membership in an increasing list of closed intervals. -/
def inRanges : List (Nat × Nat) → Nat → Bool
  | [], _ => false
  | (first, last) :: rest, n =>
    if n < first then false else decide (n ≤ last) || inRanges rest n

/-- Membership in an increasing list of runs `(first, last, step)`. -/
def inRuns : List (Nat × Nat × Nat) → Nat → Bool
  | [], _ => false
  | (first, last, step) :: rest, n =>
    if n < first then false
    else (decide (n ≤ last) && (n - first) % step == 0) || inRuns rest n

end LayerView.Text
