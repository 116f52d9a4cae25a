import LayerView.Proofs.Words

/-!
# Where words are cut

A label is cut at every character that is in no word, and also between two letters of different
case.  The second kind of cut looks at the characters on both sides, which may be separators, but no
separator can make it.  So the words of a label can be found part by part, and a name in camel case
depends on its letters and numerals and on where words are cut, but not on how separators are spread
between them.  Even the cuts that letters make can be replaced by separators: a word that stands by
itself is read as one word again.

Main statements:
- `SetApart.words_eq`: the words of a label, part by part
- `Begun.words_append`: a word is read again up to the same place
- `words_of_mem_words`: a word is one word
- `words_cut_at_separators`: what is kept, and what separators do
-/

namespace LayerView.Naming

open LayerView.Text

/-! ## Parts of a label -/

/-- A label made of parts, in order, with any separators around them and at least one between each
two. -/
inductive SetApart : List Text → Text → Prop where
  | nil : SetApart [] []
  | last (p : Text) : SetApart [p] p
  | skip {c : Char} {parts : List Text} {t : Text} :
      isAlphanumeric c = false → SetApart parts t → SetApart parts (c :: t)
  | part (p : Text) {c : Char} {parts : List Text} {t : Text} :
      isAlphanumeric c = false → SetApart parts t → SetApart (p :: parts) (p ++ c :: t)

/-- The words of a label are the words of its parts. -/
theorem SetApart.words_eq {parts : List Text} {t : Text} (h : SetApart parts t) :
    words t = parts.flatMap words := by
  induction h with
  | nil => rfl
  | last p => simp
  | skip hc _ ih =>
    -- a separator in front cuts off an empty text
    rw [← ih]
    exact words_append_cons (separates_iff.mpr hc) [] _
  | part p hc _ ih => rw [words_append_cons (separates_iff.mpr hc), ih, List.flatMap_cons]

/-! ## Words of a word -/

/-- A word has been read up to its character `p`, and `next` comes next: at no character of the word
but the first one did another word start. -/
inductive Begun : Char → Text → Option Char → Prop where
  | first {c : Char} (next : Option Char) : isAlphanumeric c = true → Begun c [c] next
  | more {p c : Char} {word : Text} {next : Option Char} :
      Begun p word (some c) → isAlphanumeric c = true → startsWord (some p) c next = false →
      Begun c (word ++ [c]) next

theorem Begun.ne_nil {p : Char} {word : Text} {next : Option Char} (h : Begun p word next) :
    word ≠ [] := by
  cases h <;> simp

/-- Where no word starts in view of what comes next, none starts at the end either. -/
private theorem startsWord_none {p c : Char} {next : Option Char}
    (h : startsWord (some p) c next = false) : startsWord (some p) c none = false := by
  simp only [startsWord, Bool.or_eq_false_iff] at h ⊢
  exact ⟨h.1, by rw [Option.any_none, Bool.and_false]⟩

theorem Begun.ended {p : Char} {word : Text} {next : Option Char} (h : Begun p word next) :
    Begun p word none := by
  cases h with
  | first _ hc => exact Begun.first none hc
  | more hword hc hstarts => exact Begun.more hword hc (startsWord_none hstarts)

/-- A word that has been begun is read up to the same place from its start. -/
theorem Begun.words_append {p : Char} {word : Text} {next : Option Char} (h : Begun p word next)
    {t : Text} (ht : t.head? = next) : words (word ++ t) = wordsFrom (some p) word t := by
  induction h generalizing t with
  | first next hc => simp [words, wordsFrom, hc, startsWord]
  | @more p c word next _ hc hstarts ih =>
    -- the last character is looked at with the neighbours it had before
    have hlong : word ++ [c] ++ t = word ++ c :: t := by simp
    rw [hlong, ih (t := c :: t) rfl, wordsFrom, ht, hstarts]
    simp [hc]

/-- A word that has been begun is one word by itself. -/
theorem Begun.words_eq {p : Char} {word : Text} {next : Option Char} (h : Begun p word next) :
    words word = [word] := by
  -- from its start it is read to its end, and then nothing is left
  have hread := h.ended.words_append (t := []) rfl
  rw [List.append_nil, wordsFrom] at hread
  rw [hread, finished, if_neg (by simpa using h.ne_nil)]

private theorem words_of_mem_finished {p : Option Char} {word w : Text} {next : Option Char}
    (hword : word ≠ [] → ∃ c, p = some c ∧ Begun c word next) (hw : w ∈ finished word) :
    words w = [w] := by
  by_cases hnil : word = []
  · simp [finished, hnil] at hw
  · obtain ⟨c, -, hbegun⟩ := hword hnil
    obtain rfl : w = word := by simpa [finished, hnil] using hw
    exact hbegun.words_eq

/-- Whatever is read as a word has been begun at its start, and so is one word by itself. -/
theorem words_of_mem_wordsFrom {prev : Option Char} {word t w : Text}
    (hword : word ≠ [] → ∃ p, prev = some p ∧ Begun p word t.head?)
    (hw : w ∈ wordsFrom prev word t) : words w = [w] := by
  induction t generalizing prev word with
  | nil => exact words_of_mem_finished hword hw
  | cons c t ih =>
    rw [wordsFrom] at hw
    split at hw
    · -- at a separator the word ends, and the next one has not begun
      rcases List.mem_append.mp hw with hw | hw
      · exact words_of_mem_finished hword hw
      · exact ih (fun hnil => absurd rfl hnil) hw
    case isFalse hsep =>
      have hc : isAlphanumeric c = true := by simpa using hsep
      split at hw
      · -- where another word starts, the one before it ends
        rcases List.mem_append.mp hw with hw | hw
        · exact words_of_mem_finished hword hw
        · exact ih (fun _ => ⟨c, rfl, Begun.first t.head? hc⟩) hw
      case isFalse hstarts =>
        -- the character goes on with the word, or begins it
        refine ih (fun _ => ⟨c, rfl, ?_⟩) hw
        by_cases hnil : word = []
        · rw [hnil]
          exact Begun.first t.head? hc
        · obtain ⟨p, rfl, hbegun⟩ := hword hnil
          exact Begun.more hbegun hc (by simpa using hstarts)

/-- A word of a label is one word by itself. -/
theorem words_of_mem_words {label w : Text} (hw : w ∈ words label) : words w = [w] :=
  words_of_mem_wordsFrom (fun hnil => absurd rfl hnil) hw

/-- Words that are set apart are read again. -/
theorem SetApart.words_eq_of_words {label t : Text} (h : SetApart (words label) t) :
    words t = words label := by
  calc words t = (words label).flatMap words := h.words_eq
    _ = (words label).flatMap fun w => [w] := List.flatMap_congr fun _ => words_of_mem_words
    _ = words label := List.flatMap_singleton' _

/-! ## Names -/

theorem camelCase_congr {s t : Text} (h : words s = words t) : camelCase s = camelCase t := by
  unfold camelCase
  rw [h]

/-- The same letters and numerals, cut after as many of them each time, are the same words. -/
private theorem words_eq_of_lengths {s t : Text}
    (hkept : s.filter isAlphanumeric = t.filter isAlphanumeric)
    (hcuts : (words s).map List.length = (words t).map List.length) : words s = words t := by
  rw [List.eq_iff_flatten_eq, flatten_words, flatten_words]
  exact ⟨hkept, hcuts⟩

/-- Cutting a label into words loses and repeats nothing, and the two sides of a separator are cut
by themselves.  So a name does not depend on which separators stand between the parts of its label,
on how many there are, or on those at the ends.  Separators that are put where words are cut anyhow
change no name, and labels with the same letters and numerals have one name if their words are cut at
the same places. -/
theorem words_cut_at_separators (label : Text) :
    (∀ w ∈ words label, w ≠ []) ∧
    (words label).flatten = label.filter isAlphanumeric ∧
    (∀ a b c, isAlphanumeric c = false → words (a ++ c :: b) = words a ++ words b) ∧
    (∀ parts s t, SetApart parts s → SetApart parts t → camelCase s = camelCase t) ∧
    (∀ t, SetApart (words label) t → camelCase t = camelCase label) ∧
    (∀ t, t.filter isAlphanumeric = label.filter isAlphanumeric →
      (words t).map List.length = (words label).map List.length →
      camelCase t = camelCase label) := by
  refine ⟨fun _ => ne_nil_of_mem_words, flatten_words label, ?_, ?_, ?_, ?_⟩
  · intro a b c hc
    exact words_append_cons (separates_iff.mpr hc) a b
  · intro parts s t hs ht
    exact camelCase_congr (hs.words_eq.trans ht.words_eq.symm)
  · intro t ht
    exact camelCase_congr ht.words_eq_of_words
  · intro t hkept hcuts
    exact camelCase_congr (words_eq_of_lengths hkept hcuts)

/-- Letters with accents, a run of capitals, and separators of one and of three bytes. -/
theorem words_cut_at_separators_arrow :
    let label := "éÀ→XMLHttp".toList
    let parts := ["é".toList, "À".toList, "XML".toList, "Http".toList]
    let t := '_' :: ("é".toList ++ ' ' :: ("À".toList ++ '-' ::
      '-' :: ("XML".toList ++ '→' :: ("Http".toList ++ ['_']))))
    words label = parts ∧ isAlphanumeric '→' = false ∧
    words ("éÀ".toList ++ '→' :: "XMLHttp".toList) =
      words "éÀ".toList ++ words "XMLHttp".toList ∧
    SetApart parts t ∧ camelCase t = camelCase label := by
  intro label parts t
  have hwords : words label = parts := by decide +kernel
  have harrow : isAlphanumeric '→' = false := by decide +kernel
  have hunder : isAlphanumeric '_' = false := by decide +kernel
  have hhyphen : isAlphanumeric '-' = false := by decide +kernel
  have hspace : isAlphanumeric ' ' = false := by decide +kernel
  have hparts : SetApart parts t :=
    .skip hunder (.part _ hspace (.part _ hhyphen (.skip hhyphen
      (.part _ harrow (.part _ hunder .nil)))))
  obtain ⟨-, -, hcut, -, hapart, -⟩ := words_cut_at_separators label
  exact ⟨hwords, harrow, hcut _ _ _ harrow, hparts, hapart t (hwords ▸ hparts)⟩

end LayerView.Naming
