import LayerView.Naming.Words
import LayerView.Proofs.LetterClasses
import LayerView.Text.Blank
import Mathlib.Data.List.Basic

/-!
# Words of a label

The words of a label hold its letters and numerals in order, and none of them is empty.  Characters
that separate words do nothing else: a label is cut at each of them, and which of them stands there
makes no difference.

Main statements:
- `flatten_words`: the letters and numerals of a label, word by word
- `separates_iff`: what is in no word separates words
- `words_append_cons`: a label is cut at a separator
- `words_map`: one separator is as good as another
- `separates_of_isBlank`: blanks separate
-/

namespace LayerView.Naming

open LayerView.Text

/-! ## Content -/

private theorem flatten_finished (word : Text) : (finished word).flatten = word := by
  unfold finished
  split
  case isTrue h => simpa using h
  case isFalse => simp

/-- Reading words keeps the letters and numerals, and adds nothing. -/
theorem flatten_wordsFrom (prev : Option Char) (word t : Text) :
    (wordsFrom prev word t).flatten = word ++ t.filter isAlphanumeric := by
  induction t generalizing prev word with
  | nil => simp [wordsFrom, flatten_finished]
  | cons c t ih =>
    simp only [wordsFrom]
    split
    case isTrue hc =>
      have hc : isAlphanumeric c = false := by simpa using hc
      simp [ih, hc, flatten_finished]
    case isFalse hc =>
      have hc : isAlphanumeric c = true := by simpa using hc
      -- whether the character starts a word or goes on with one, it comes next
      split <;> simp [ih, hc, flatten_finished]

/-- The words of a label are its letters and numerals. -/
theorem flatten_words (label : Text) : (words label).flatten = label.filter isAlphanumeric :=
  flatten_wordsFrom none [] label

/-- The characters of words are letters and numerals of the label. -/
theorem mem_of_mem_words {label w : Text} (hw : w ∈ words label) {c : Char} (hc : c ∈ w) :
    c ∈ label ∧ isAlphanumeric c = true := by
  apply List.mem_filter.mp
  rw [← flatten_words]
  exact List.mem_flatten_of_mem hw hc

private theorem nil_notMem_finished (word : Text) : [] ∉ finished word := by
  unfold finished
  split
  case isTrue => simp
  case isFalse h =>
    rw [List.mem_singleton]
    rintro rfl
    exact h rfl

private theorem nil_notMem_wordsFrom (prev : Option Char) (word t : Text) :
    [] ∉ wordsFrom prev word t := by
  induction t generalizing prev word with
  | nil => exact nil_notMem_finished word
  | cons c t ih =>
    simp only [wordsFrom]
    -- a word is finished at a separator or where another one starts, and only if it is begun
    split
    · simp [nil_notMem_finished, ih]
    · split <;> simp [nil_notMem_finished, ih]

/-- No word is empty. -/
theorem ne_nil_of_mem_words {label w : Text} (hw : w ∈ words label) : w ≠ [] := by
  rintro rfl
  exact nil_notMem_wordsFrom none [] label hw

/-! ## Separators -/

/-- A character that is in no word and does not tell where a word beside it starts. -/
structure Separates (c : Char) : Prop where
  not_alphanumeric : isAlphanumeric c = false
  not_lowercase : isLowercase c = false
  not_uppercase : isUppercase c = false
  not_digit : isAsciiDigit c = false

/-- What is in no word separates words: it is no small letter, no capital and no digit. -/
theorem separates_iff {c : Char} : Separates c ↔ isAlphanumeric c = false := by
  refine ⟨Separates.not_alphanumeric, fun h => ?_⟩
  -- cases and digits are told of letters and numerals only
  obtain ⟨hletter, hnumeral⟩ : isAlphabetic c ≠ true ∧ isNumeric c ≠ true := by
    simpa [isAlphanumeric] using h
  exact {
    not_alphanumeric := h
    not_lowercase := Bool.eq_false_iff.mpr (mt isAlphabetic_of_isLowercase hletter)
    not_uppercase := Bool.eq_false_iff.mpr (mt isAlphabetic_of_isUppercase hletter)
    not_digit := Bool.eq_false_iff.mpr (mt isNumeric_of_isAsciiDigit hnumeral) }

theorem separates_underscore : Separates '_' := separates_iff.mpr (by decide)

/-- Without a word begun, the character before does not matter. -/
private theorem wordsFrom_nil (prev : Option Char) (t : Text) : wordsFrom prev [] t = words t := by
  cases t with
  | nil => rfl
  | cons c t => simp [words, wordsFrom, finished]

/-- A separator behind is as good as the end. -/
private theorem startsWord_append_cons (prev : Option Char) (c : Char) (s : Text) {d : Char}
    (hd : Separates d) (t : Text) :
    startsWord prev c (s ++ d :: t).head? = startsWord prev c s.head? := by
  cases s with
  | nil => cases prev <;> simp [startsWord, hd.not_lowercase]
  | cons e s => rfl

/-- At a separator the word before it is finished, and reading starts anew. -/
theorem wordsFrom_append_cons {d : Char} (hd : Separates d) (prev : Option Char) (word s t : Text) :
    wordsFrom prev word (s ++ d :: t) = wordsFrom prev word s ++ words t := by
  -- the words before the separator see it only as what comes next, and it is no small letter
  induction s generalizing prev word with
  | nil => simp [wordsFrom, hd.not_alphanumeric, wordsFrom_nil]
  | cons c s ih =>
    simp only [List.cons_append, wordsFrom, startsWord_append_cons prev c s hd t, ih]
    split
    · rw [List.append_assoc]
    · split
      · rw [List.append_assoc]
      · rfl

/-- A label is cut at a separator. -/
theorem words_append_cons {d : Char} (hd : Separates d) (s t : Text) :
    words (s ++ d :: t) = words s ++ words t := wordsFrom_append_cons hd none [] s t

section Exchange

variable {f : Char → Char} (hf : ∀ c, f c = c ∨ Separates c ∧ Separates (f c))
include hf

/-- A class of characters without separators does not tell a label from the other. -/
theorem class_map {p : Char → Bool} (hp : ∀ c, Separates c → p c = false) (c : Char) :
    p (f c) = p c := by
  rcases hf c with h | ⟨hc, hfc⟩
  · rw [h]
  · rw [hp c hc, hp (f c) hfc]

private theorem startsWord_map (prev : Option Char) (c : Char) (next : Option Char) :
    startsWord (prev.map f) c (next.map f) = startsWord prev c next := by
  have hlower := class_map hf fun _ h => h.not_lowercase
  have hupper := class_map hf fun _ h => h.not_uppercase
  have hdigit := class_map hf fun _ h => h.not_digit
  cases prev with
  | none => rfl
  | some p => cases next <;> simp [startsWord, hlower, hupper, hdigit]

theorem wordsFrom_map (prev : Option Char) (word t : Text) :
    wordsFrom (prev.map f) word (t.map f) = wordsFrom prev word t := by
  induction t generalizing prev word with
  | nil => rfl
  | cons c t ih =>
    have halpha := class_map hf (fun _ h => h.not_alphanumeric) c
    have hnext : ∀ w, wordsFrom (some (f c)) w (t.map f) = wordsFrom (some c) w t := ih (some c)
    simp only [List.map_cons, wordsFrom, halpha, List.head?_map, hnext]
    split
    · rfl
    case isFalse hc =>
      -- a character of a word is left as it is
      have hc : f c = c := by
        rcases hf c with h | ⟨hsep, -⟩
        · exact h
        · simp [hsep.not_alphanumeric] at hc
      rw [hc, startsWord_map hf]

/-- Exchanging separators for others leaves the words. -/
theorem words_map (label : Text) : words (label.map f) = words label :=
  wordsFrom_map hf none [] label

end Exchange

/-! ## Blanks -/

/-- The members of closed intervals one by one. -/
def codesOf (ranges : List (Nat × Nat)) : List Nat :=
  ranges.flatMap fun range => (List.range (range.2 + 1 - range.1)).map (range.1 + ·)

private theorem mem_codesOf {ranges : List (Nat × Nat)} {n : Nat} (h : inRanges ranges n = true) :
    n ∈ codesOf ranges := by
  induction ranges with
  | nil => simp [inRanges] at h
  | cons range ranges ih =>
    obtain ⟨first, last⟩ := range
    simp only [inRanges] at h
    split at h
    · -- the intervals are in order, so a number below the first one is in none
      simp at h
    case isFalse hfirst =>
      rw [codesOf, List.flatMap_cons, List.mem_append]
      by_cases hlast : n ≤ last
      · left
        exact List.mem_map.mpr ⟨n - first, List.mem_range.mpr (by omega), by omega⟩
      · right
        exact ih (by simpa [hlast] using h)

private theorem blanks_separate : ∀ n ∈ codesOf blankRanges,
    (inRanges alphabeticRanges n || inRanges numericRanges n) = false := by
  decide +kernel

/-- Blanks separate words. -/
theorem separates_of_isBlank {c : Char} (h : isBlank c = true) : Separates c :=
  separates_iff.mpr (blanks_separate c.toNat (mem_codesOf h))

end LayerView.Naming
