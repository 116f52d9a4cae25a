import LayerView.Layer
import LayerView.Proofs.Words
import Mathlib.Data.List.Basic

/-!
# Characters of identifiers

Names of properties are made from labels by dropping some characters and changing the case of others.
The case tables never lead back to the characters below the letters, so a mark of punctuation, a blank
or a line feed is in a name only if it was let through as it stands.

Main statements:
- `notMem_lowerChar`, `notMem_upperChar`: case mapping makes no punctuation
- `notMem_camelCase`: what is no letter or numeral separates words and is not in a name
- `Layer.notMem_identifier_of_isBlank`: no blank is in the name of a layer's property
-/

namespace LayerView

open LayerView.Text

namespace Text

/-! ## Case mapping -/

private theorem exists_run_of_shiftOf? {runs : List CaseRun} {n : Nat} {shift : Int}
    (h : shiftOf? runs n = some shift) : ∃ run ∈ runs, run.1 ≤ n ∧ run.2.2.2 = shift := by
  induction runs with
  | nil => simp [shiftOf?] at h
  | cons run runs ih =>
    obtain ⟨first, last, step, s⟩ := run
    simp only [shiftOf?] at h
    -- the search ends at the first run that starts past the code point
    split at h
    case isTrue => simp at h
    case isFalse hfirst =>
      split at h
      · exact ⟨_, List.mem_cons_self, Nat.le_of_not_lt hfirst, Option.some.inj h⟩
      · obtain ⟨run, hrun, hspec⟩ := ih h
        exact ⟨run, List.mem_cons_of_mem _ hrun, hspec⟩

/-- A code point past that of a character does not stand for it. -/
theorem ofNat_ne_of_lt {n : Nat} {c : Char} (h : c.toNat < n) (hc : c ≠ '\x00') :
    Char.ofNat n ≠ c := by
  by_cases hv : n.isValidChar
  · have hchar : Char.ofNat n = Char.ofNatAux n hv := dif_pos hv
    intro e
    have hcode : n = c.toNat := congrArg Char.toNat (hchar.symm.trans e)
    omega
  · -- a number that is no code point stands for the null character
    have hchar : Char.ofNat n = '\x00' := dif_neg hv
    rw [hchar]
    exact hc.symm

section MapCase

variable {runs : List CaseRun} {expansions : List (Nat × List Nat)} {bound : Nat}

/-- Tables all of whose images are past a bound make no character up to that bound. -/
theorem notMem_mapCase (hruns : ∀ run ∈ runs, (bound : Int) < run.1 + run.2.2.2)
    (hexpansions : ∀ e ∈ expansions, ∀ n ∈ e.2, bound < n) {c d : Char} (hc : c.toNat ≤ bound)
    (hzero : c ≠ '\x00') (hd : c ≠ d) : c ∉ mapCase runs expansions d := by
  unfold mapCase
  split
  case h_1 shift hshift =>
    -- the code point is in the run's range, so its image is no less than that of the range's start
    obtain ⟨run, hrun, hfirst, rfl⟩ := exists_run_of_shiftOf? hshift
    have hpast := hruns run hrun
    intro hm
    apply ofNat_ne_of_lt _ hzero (List.mem_singleton.mp hm).symm
    omega
  case h_2 =>
    split
    case h_1 codes hcodes =>
      -- a letter that becomes several characters
      intro hm
      obtain ⟨n, hn, he⟩ := List.mem_map.mp hm
      obtain ⟨pre, post, hsplit, -⟩ := List.lookup_eq_some_iff.mp hcodes
      have hmem : (d.toNat, codes) ∈ expansions := by simp [hsplit]
      have hpast := hexpansions _ hmem n hn
      exact ofNat_ne_of_lt (Nat.lt_of_le_of_lt hc hpast) hzero he
    case h_2 => simpa using hd

end MapCase

/-- Every run of the lowering table ends past the capital letters. -/
private theorem lowerRuns_past_capitals :
    ∀ run ∈ lowerRuns, (0x60 : Int) < run.1 + run.2.2.2 := by
  decide +kernel

private theorem lowerExpansions_past_capitals :
    ∀ e ∈ lowerExpansions, ∀ n ∈ e.2, 0x60 < n := by
  decide

/-- Every run of the raising table starts its images at the capital letters or later. -/
private theorem upperRuns_past_digits :
    ∀ run ∈ upperRuns, (0x40 : Int) < run.1 + run.2.2.2 := by
  decide +kernel

private theorem upperExpansions_past_digits :
    ∀ e ∈ upperExpansions, ∀ n ∈ e.2, 0x40 < n := by
  decide +kernel

/-- Lowering makes no punctuation, digit or capital that was not there. -/
theorem notMem_lowerChar {c d : Char} (hc : c.toNat ≤ 0x60) (hzero : c ≠ '\x00') (hd : c ≠ d) :
    c ∉ lowerChar d :=
  notMem_mapCase lowerRuns_past_capitals lowerExpansions_past_capitals hc hzero hd

/-- Raising makes no punctuation or digit that was not there. -/
theorem notMem_upperChar {c d : Char} (hc : c.toNat ≤ 0x40) (hzero : c ≠ '\x00') (hd : c ≠ d) :
    c ∉ upperChar d :=
  notMem_mapCase upperRuns_past_digits upperExpansions_past_digits hc hzero hd

/-- Lowering a whole text makes no punctuation either; the two sigmas are letters. -/
theorem notMem_lower {c : Char} {t : Text} (hc : c.toNat ≤ 0x60) (hzero : c ≠ '\x00')
    (ht : c ∉ t) : c ∉ lower t := by
  have hafter : ∀ seen, c ∉ lowerAfter seen t := by
    induction t with
    | nil => simp [lowerAfter]
    | cons d t ih =>
      intro seen
      rw [List.mem_cons, not_or] at ht
      rw [lowerAfter, List.mem_append, not_or]
      refine ⟨?_, ih ht.2 _⟩
      -- a sigma is lowered by what stands around it
      have hfinal : c ≠ 'ς' := fun e => absurd hc (by rw [e]; decide)
      have hsigma : c ≠ 'σ' := fun e => absurd hc (by rw [e]; decide)
      split
      · split <;> simp [hfinal, hsigma]
      · exact notMem_lowerChar hc hzero ht.1
  exact hafter []

end Text

namespace Naming

/-! ## Names in camel case -/

section CamelCase

variable {c : Char} (hc : c.toNat ≤ 0x40) (hzero : c ≠ '\x00')
include hc hzero

/-- A later word of a name has only letters and numerals, and an underscore before a digit. -/
private theorem notMem_laterWord {w : Text} (hw : c ∉ w) : c ∉ laterWord w := by
  cases w with
  | nil => simp [laterWord]
  | cons d t =>
    rw [List.mem_cons, not_or] at hw
    have hmark : c ∉ (if isAsciiDigit d then ['_'] else []) := by
      have hunderscore : c ≠ '_' := fun e => absurd hc (by rw [e]; decide)
      split <;> simp [hunderscore]
    simp only [laterWord, List.mem_append, not_or]
    exact ⟨⟨hmark, notMem_upperChar hc hzero hw.1⟩,
      notMem_lower (Nat.le_trans hc (by decide)) hzero hw.2⟩

/-- A character below the letters that is no numeral is not in a camel-case name. -/
theorem notMem_camelCase (hseparates : isAlphanumeric c = false) (label : Text) :
    c ∉ camelCase label := by
  -- such a character separates words
  have hwords : ∀ w ∈ words label, c ∉ w := by
    intro w hw hm
    have htrue := (mem_of_mem_words hw hm).2
    simp [hseparates] at htrue
  unfold camelCase
  split
  · simp
  case h_2 first later heq =>
    rw [heq] at hwords
    rw [List.mem_append, not_or]
    constructor
    · exact notMem_lower (Nat.le_trans hc (by decide)) hzero (hwords first List.mem_cons_self)
    · intro hm
      obtain ⟨w, hw, hcw⟩ := List.mem_flatMap.mp hm
      exact notMem_laterWord hc hzero (hwords w (List.mem_cons_of_mem first hw)) hcw

end CamelCase

end Naming

/-! ## Names of a layer's properties -/

namespace Layer

/-- Blanks do not go into names. -/
theorem notMem_identifier_of_isBlank (l : Layer) {c : Char} (hc : isBlank c = true)
    {ending : Text} (h : c ∉ ending) : c ∉ l.identifier ending := by
  have hbase : c ∉ Naming.baseIdentifier l.label := by
    intro hm
    -- whatever is left of the label is not blank
    have hblank := (List.mem_filter.mp hm).2
    simp [hc] at hblank
  rw [identifier, List.mem_append, not_or]
  exact ⟨hbase, h⟩

end Layer

end LayerView
