import LayerView.Proofs.Lines
import Mathlib.Data.List.Infix

/-!
# Words at the start of a line

To insert a block into a text, or to put one word in place of another, can bring a word to the
start of a line that was not there before.  Whether it does is a question of where an occurrence of
the word can lie.  It never reaches over a character that it does not have; and with the line feed
in front, it never reaches over a line feed but from its own first character on.

Main statements:
- `infix_append_cons_iff`: occurrences on either side of a character that the word does not have
- `startsLine_append_feed`: a line feed parts the lines that a word starts
- `startsLine_iff_exists_line`: the same told by the lines of the text
-/

namespace LayerView.Text

/-! ## Occurrences and separators -/

/-- What starts a text and lacks a character starts what is before that character. -/
theorem prefix_of_prefix_append_cons {w x y : Text} {c : Char} (hc : c ∉ w)
    (h : w <+: x ++ c :: y) : w <+: x := by
  have hmark : x ++ [c] <+: x ++ c :: y := ⟨y, by simp⟩
  rcases List.prefix_or_prefix_of_prefix h hmark with hw | hw
  · rcases List.prefix_concat_iff.mp hw with rfl | hw
    · exact absurd (by simp) hc
    · exact hw
  · exact absurd (hw.subset (by simp)) hc

/-- A word that lacks a character occurs before it or after it. -/
theorem infix_append_cons_iff {w x y : Text} {c : Char} (hc : c ∉ w) (hw : w ≠ []) :
    w <:+: x ++ c :: y ↔ w <:+: x ∨ w <:+: y := by
  constructor
  · intro h
    induction x with
    | nil =>
      rcases List.infix_cons_iff.mp h with h | h
      · -- an occurrence at the front would start with the character
        exact absurd (prefix_of_prefix_append_cons (x := []) hc h) (by simpa using hw)
      · exact Or.inr h
    | cons d x ih =>
      rcases List.infix_cons_iff.mp h with h | h
      · exact Or.inl (prefix_of_prefix_append_cons (x := d :: x) hc h).isInfix
      · exact (ih h).imp_left List.infix_cons
  · rintro (h | h)
    · exact h.trans (List.prefix_append x _).isInfix
    · exact h.trans ⟨x ++ [c], [], by simp⟩

/-- A word whose first character is its only one of that kind starts before such a character, or at
it or further on. -/
private theorem cons_infix_append_cons_iff {w x y : Text} {c : Char} (hc : c ∉ w) :
    c :: w <:+: x ++ c :: y ↔ c :: w <:+: x ∨ c :: w <:+: c :: y := by
  constructor
  · intro h
    induction x with
    | nil => exact Or.inr h
    | cons d x ih =>
      rcases List.infix_cons_iff.mp h with h | h
      · -- at the front, the rest of the word cannot reach over the next such character
        obtain ⟨rfl, htail⟩ := List.cons_prefix_cons.mp h
        left
        apply List.IsPrefix.isInfix
        exact List.cons_prefix_cons.mpr ⟨rfl, prefix_of_prefix_append_cons hc htail⟩
      · exact (ih h).imp_left List.infix_cons
  · rintro (h | h)
    · exact h.trans (List.prefix_append x _).isInfix
    · exact h.trans (List.suffix_append x _).isInfix

/-- Where the text in front has no character of a kind, a word that starts with one occurs behind.
-/
theorem infix_of_cons_infix_append {w x y : Text} {c : Char} (hx : c ∉ x)
    (h : c :: w <:+: x ++ y) : c :: w <:+: y := by
  induction x with
  | nil => exact h
  | cons d x ih =>
    -- an occurrence at the front would start with `c`
    rcases List.infix_cons_iff.mp h with h | h
    · exact absurd (List.cons_prefix_cons.mp h).1 fun e => hx (by simp [e])
    · exact ih (fun hm => hx (List.mem_cons_of_mem d hm)) h

/-! ## Starts of lines -/

/-- Some line of a text starts with a word: the word stands behind a line feed, where one is thought
in front of the text. -/
def StartsLine (word t : Text) : Prop := '\n' :: word <:+: '\n' :: t

/-- The word starts the text, or stands behind one of its line feeds. -/
theorem startsLine_iff {word t : Text} :
    StartsLine word t ↔ word <+: t ∨ '\n' :: word <:+: t := by
  unfold StartsLine
  rw [List.infix_cons_iff, List.cons_prefix_cons]
  simp

/-- The lines before a line feed and those after it are started by themselves. -/
theorem startsLine_append_feed {word : Text} (hword : '\n' ∉ word) (x y : Text) :
    StartsLine word (x ++ '\n' :: y) ↔ StartsLine word x ∨ StartsLine word y :=
  cons_infix_append_cons_iff (x := '\n' :: x) hword

theorem StartsLine.append {word x : Text} (h : StartsLine word x) (y : Text) :
    StartsLine word (x ++ y) :=
  h.trans (List.prefix_append ('\n' :: x) y).isInfix

/-- In a text without a line feed only the text itself can start with the word. -/
theorem startsLine_of_feed_notMem {word t : Text} (ht : '\n' ∉ t) :
    StartsLine word t ↔ word <+: t := by
  rw [startsLine_iff]
  refine or_iff_left fun h => ht ?_
  exact h.subset List.mem_cons_self

/-- Carriage returns that are cut off a line are not part of a word at its start. -/
theorem prefix_iff_of_trims {word old new : Text} (hword : '\r' ∉ word) (h : Trims old new) :
    word <+: new ↔ word <+: old := by
  obtain ⟨n, rfl⟩ := h
  refine ⟨fun hw => hw.trans (List.prefix_append new _), fun hw => ?_⟩
  -- without carriage returns nothing was cut off; with one the word ends before it
  cases n with
  | zero => simpa using hw
  | succ n => exact prefix_of_prefix_append_cons hword hw

theorem lines_concat_line {a : Text} (ha : '\n' ∉ a) :
    lines (a ++ ['\n']) = [dropFinal '\r' a] := by
  have hpieces : pieces (a ++ ['\n']) = [a ++ ['\n']] := by
    simpa [piecesAt] using piecesAt_append_cons ha []
  rw [lines, hpieces]
  simp [withoutEnding]

/-- The starts of lines are those of the lines that the text is cut into, since a word without a
carriage return is not touched when endings are taken off. -/
theorem startsLine_iff_exists_line {word t : Text} (hfeed : '\n' ∉ word) (hreturn : '\r' ∉ word)
    (hne : word ≠ []) : StartsLine word t ↔ ∃ l ∈ lines t, word <+: l := by
  induction hn : t.length using Nat.strongRecOn generalizing t with
  | ind n ih =>
    by_cases ht : '\n' ∈ t
    · -- the first line, and the rest by induction
      obtain ⟨a, b, rfl, ha⟩ := List.eq_append_cons_of_mem ht
      have hfirst : StartsLine word a ↔ word <+: dropFinal '\r' a := by
        rw [startsLine_of_feed_notMem ha, prefix_iff_of_trims hreturn (trims_dropFinal a)]
      rw [startsLine_append_feed hfeed, lines_append_feed, lines_concat_line ha, hfirst,
        ih b.length (by simp at hn; omega) rfl]
      simp
    · rw [startsLine_of_feed_notMem ht]
      by_cases hnil : t = []
      · simp [hnil, hne, lines, piecesAt]
      · rw [lines_of_feed_notMem ht hnil]
        simp

/-! ## Blocks of lines -/

/-- A block between line feeds, put before a text that does not start with the word, brings the
word to no line. -/
theorem not_startsLine_insert {word x y block : Text} (hword : '\n' ∉ word)
    (hcode : ¬ StartsLine word (x ++ y)) (hy : ¬ word <+: y) (hblock : ¬ StartsLine word block) :
    ¬ StartsLine word (x ++ '\n' :: (block ++ '\n' :: y)) := by
  rw [startsLine_append_feed hword, startsLine_append_feed hword]
  -- before the block, in it, or behind it, where only the start of `y` is new
  rintro (h | h | h)
  · exact hcode (h.append y)
  · exact hblock h
  · rcases startsLine_iff.mp h with h | h
    · exact hy h
    · exact hcode (startsLine_iff.mpr (Or.inr (h.trans (List.suffix_append x y).isInfix)))

theorem not_startsLine_nil {word : Text} (hne : word ≠ []) : ¬ StartsLine word [] := by
  rw [startsLine_of_feed_notMem List.not_mem_nil, List.prefix_nil]
  exact hne

/-- Joined lines are started by themselves. -/
theorem not_startsLine_joinLines {word : Text} (hword : '\n' ∉ word) (hne : word ≠ [])
    {ls : List Text} (hls : ∀ l ∈ ls, '\n' ∉ l ∧ ¬ word <+: l) :
    ¬ StartsLine word (joinLines ls) := by
  induction ls with
  | nil => exact not_startsLine_nil hne
  | cons l ls ih =>
    obtain ⟨hfeed, hl⟩ := hls l List.mem_cons_self
    have hfirst : ¬ StartsLine word l := by rwa [startsLine_of_feed_notMem hfeed]
    cases ls with
    | nil => simpa [joinLines, List.intercalate] using hfirst
    | cons k ls =>
      rw [joinLines_cons_cons, startsLine_append_feed hword]
      rintro (h | h)
      · exact hfirst h
      · exact ih (fun j hj => hls j (List.mem_cons_of_mem l hj)) h

end LayerView.Text
