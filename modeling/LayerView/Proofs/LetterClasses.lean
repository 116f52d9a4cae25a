import LayerView.Text.Letter
import LayerView.Text.LetterCase
import Mathlib.Data.List.TakeWhile

/-!
# Letters of either case are letters

Small letters and capitals are listed apart from the letters, in another layout and independently of
them.  That every small letter and every capital is a letter is therefore a fact about long lists.  It
is checked by going through both lists once, side by side, since both are in increasing order.

Main statements:
- `inRanges_of_covers`: what the check tells
- `isAlphabetic_of_isLowercase`, `isAlphabetic_of_isUppercase`, `isNumeric_of_isAsciiDigit`
-/

namespace LayerView.Text

/-! ## Going through two lists -/

/-- The members of runs one by one. -/
def runMembers (runs : List (Nat × Nat × Nat)) : List Nat :=
  runs.flatMap fun (first, last, step) =>
    (List.range ((last - first) / step + 1)).map (first + step * ·)

private theorem mem_runMembers {runs : List (Nat × Nat × Nat)} {n : Nat}
    (h : inRuns runs n = true) : n ∈ runMembers runs := by
  induction runs with
  | nil => simp [inRuns] at h
  | cons run runs ih =>
    obtain ⟨first, last, step⟩ := run
    rw [runMembers, List.flatMap_cons, List.mem_append]
    rw [inRuns] at h
    -- the search ends at the first run that starts past the number
    split at h
    · simp at h
    case isFalse hfirst =>
      rcases Bool.or_eq_true_iff.mp h with hn | hn
      · -- its place in the run is the number of steps to it
        left
        obtain ⟨hlast, hstep⟩ : n ≤ last ∧ (n - first) % step = 0 := by simpa using hn
        have hcancel : step * ((n - first) / step) = n - first :=
          Nat.mul_div_cancel' (Nat.dvd_of_mod_eq_zero hstep)
        have hle : (n - first) / step ≤ (last - first) / step := Nat.div_le_div_right (by omega)
        refine List.mem_map.mpr ⟨(n - first) / step, List.mem_range.mpr ?_, ?_⟩
        · show (n - first) / step < (last - first) / step + 1
          omega
        · show first + step * ((n - first) / step) = n
          omega
      · exact Or.inr (ih hn)

/-- Whether intervals from `floor` on, in increasing order, have all of some numbers, which are in
increasing order as well. -/
def covers : Nat → List (Nat × Nat) → List Nat → Bool
  | _, [], ns => ns.isEmpty
  | floor, (first, last) :: rest, ns =>
    decide (floor ≤ first) &&
      covers first rest (ns.dropWhile fun n => decide (first ≤ n) && decide (n ≤ last))

/-- Intervals that cover numbers have each of them. -/
theorem inRanges_of_covers {floor : Nat} {ranges : List (Nat × Nat)} {ns : List Nat}
    (h : covers floor ranges ns = true) {n : Nat} (hn : n ∈ ns) :
    floor ≤ n ∧ inRanges ranges n = true := by
  induction ranges generalizing floor ns with
  | nil =>
    rw [List.isEmpty_iff.mp h] at hn
    exact absurd hn List.not_mem_nil
  | cons range rest ih =>
    obtain ⟨first, last⟩ := range
    obtain ⟨hfloor, hrest⟩ := Bool.and_eq_true_iff.mp h
    have hfloor : floor ≤ first := of_decide_eq_true hfloor
    -- the numbers in this interval come first
    have hsplit := List.takeWhile_append_dropWhile
      (p := fun n => decide (first ≤ n) && decide (n ≤ last)) (l := ns)
    rw [← hsplit] at hn
    rcases List.mem_append.mp hn with hn | hn
    · have hin := List.mem_takeWhile_imp hn
      obtain ⟨hfirst, hlast⟩ : first ≤ n ∧ n ≤ last := by simpa using hin
      exact ⟨hfloor.trans hfirst, by simp [inRanges, hlast, Nat.not_lt.mpr hfirst]⟩
    · -- the search for it goes past this interval, for it is not below
      obtain ⟨hfirst, hin⟩ := ih hrest hn
      exact ⟨hfloor.trans hfirst, by simp [inRanges, hin, Nat.not_lt.mpr hfirst]⟩

theorem inRanges_of_inRuns {ranges : List (Nat × Nat)} {runs : List (Nat × Nat × Nat)}
    (hcovers : covers 0 ranges (runMembers runs) = true) {n : Nat} (hn : inRuns runs n = true) :
    inRanges ranges n = true :=
  (inRanges_of_covers hcovers (mem_runMembers hn)).2

/-! ## Cases and digits -/

/-- Small letters are letters. -/
theorem isAlphabetic_of_isLowercase {c : Char} (h : isLowercase c = true) :
    isAlphabetic c = true := by
  have hcovers : covers 0 alphabeticRanges (runMembers lowercaseRuns) = true := by decide +kernel
  exact inRanges_of_inRuns hcovers h

/-- Capitals are letters. -/
theorem isAlphabetic_of_isUppercase {c : Char} (h : isUppercase c = true) :
    isAlphabetic c = true := by
  have hcovers : covers 0 alphabeticRanges (runMembers uppercaseRuns) = true := by decide +kernel
  exact inRanges_of_inRuns hcovers h

/-- Digits are numerals. -/
theorem isNumeric_of_isAsciiDigit {c : Char} (h : isAsciiDigit c = true) : isNumeric c = true := by
  obtain ⟨hfirst, hlast⟩ : 0x30 ≤ c.toNat ∧ c.toNat ≤ 0x39 := by simpa [isAsciiDigit] using h
  have hcovers : covers 0 numericRanges (runMembers [(0x30, 0x39, 1)]) = true := by decide +kernel
  apply inRanges_of_inRuns hcovers
  simp [inRuns, hlast, Nat.not_lt.mpr hfirst, Nat.mod_one]

end LayerView.Text
