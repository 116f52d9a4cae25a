import LayerView.Proofs.PropertyNames

/-!
# Conventional labels

Layers are mostly labelled in one way: capitalised words with spaces between them, and underscores
around the whole if the layer is to be hidden.  The two dialects name the colors of a layer by rules
that have nothing in common.  One trims the underscores, lowers the first character and drops the
blanks; the other cuts the label into words and puts them together again in camel case.  On
conventional labels both rules lead to the same name, and both dialects give the property the same
visibility.

Main statements:
- `trimChar_surrounded`: trimming what was put around a text
- `TitleWord.words_text`: a capitalised word is one word
- `ConventionalLabel.baseIdentifier_text`: the stem, by trimming and dropping
- `ConventionalLabel.words_text`: the words, by cutting
- `conventional_colors_named_alike`: the names and visibilities of the two dialects
-/

namespace LayerView.Text

/-- Trimming takes off what was put around a text that has none of it. -/
theorem trimChar_surrounded {c : Char} {t : Text} (h : c ∉ t) (m n : Nat) :
    trimChar c (List.replicate m c ++ t ++ List.replicate n c) = t := by
  have hall : ∀ k, ∀ d ∈ List.replicate k c, (d == c) = true := by
    intro k d hd
    rw [List.eq_of_mem_replicate hd, beq_self_eq_true]
  have hkeep : ∀ {s : Text}, c ∉ s → s.dropWhile (· == c) = s := by
    intro s hs
    cases s with
    | nil => rfl
    | cons d s =>
      apply List.dropWhile_cons_of_neg
      rw [beq_iff_eq]
      rintro rfl
      exact hs List.mem_cons_self
  unfold trimChar
  rw [List.append_assoc, List.dropWhile_append_of_pos (hall m), List.dropWhile_append, hkeep h]
  -- an empty text goes with the characters behind it, any other one stops the first trimming
  split
  case isTrue hempty => simp [List.isEmpty_iff.mp hempty]
  case isFalse =>
    rw [List.reverse_append, List.reverse_replicate, List.dropWhile_append_of_pos (hall n),
      hkeep (by simpa using h), List.reverse_reverse]

end LayerView.Text

namespace LayerView.Naming

open LayerView.Text

/-! ## Capitalised words -/

/-- A capital followed by small letters and digits. -/
structure TitleWord where
  capital : Char
  rest : Text
  capital_isUpper : capital.isUpper = true
  rest_small : ∀ c ∈ rest, isSmall c = true

theorem toNat_lt_of_isUpper (c : Char) (h : c.isUpper = true) : c.toNat < 128 := by
  have hbound : c.val.toNat ≤ 90 := (of_decide_eq_true h).2
  show c.val.toNat < 128
  omega

/-- A capital that was lowered is no digit and can be raised again. -/
private theorem raised_toLower {c : Char} (hc : c.isUpper = true) (t : Text) :
    raised (c.toLower :: t) = c :: t := by
  have hletter : c.toLower.isDigit = false ∧ c.toLower.toUpper = c := by
    refine forall_class toNat_lt_of_isUpper
      (fun c => c.toLower.isDigit = false ∧ c.toLower.toUpper = c) ?_ hc
    decide +kernel
  rw [raised, hletter.1, hletter.2]
  rfl

private theorem toLower_of_isSmall {c : Char} (hc : isSmall c = true) : c.toLower = c := by
  refine forall_class toNat_lt_of_isSmall (fun c => c.toLower = c) ?_ hc
  decide +kernel

namespace TitleWord

/-- The characters of a word. -/
def text (w : TitleWord) : Text := w.capital :: w.rest

/-- A word with its capital lowered. -/
def lowered (w : TitleWord) : Text := w.capital.toLower :: w.rest

/-- A class that has the ASCII capitals, small letters and digits has every character of a word. -/
theorem forall_mem_text {P : Char → Prop}
    (h : ∀ n : Fin 128, (Char.ofNat n).isUpper = true ∨ isSmall (Char.ofNat n) = true →
      P (Char.ofNat n)) (w : TitleWord) : ∀ c ∈ w.text, P c := by
  intro c hc
  rcases List.mem_cons.mp hc with rfl | hc
  · exact forall_class toNat_lt_of_isUpper P (fun n hn => h n (Or.inl hn)) w.capital_isUpper
  · exact forall_class toNat_lt_of_isSmall P (fun n hn => h n (Or.inr hn)) (w.rest_small c hc)

theorem isAscii_text (w : TitleWord) : IsAscii w.text :=
  w.forall_mem_text (by decide +kernel)

theorem isBlank_of_mem_text (w : TitleWord) : ∀ c ∈ w.text, isBlank c = false :=
  w.forall_mem_text (by decide +kernel)

private theorem isBlank_of_mem_lowered (w : TitleWord) : ∀ c ∈ w.lowered, isBlank c = false := by
  intro c hc
  rcases List.mem_cons.mp hc with rfl | hc
  · exact forall_class toNat_lt_of_isUpper (isBlank ·.toLower = false)
      (by decide +kernel) w.capital_isUpper
  · exact w.isBlank_of_mem_text c (List.mem_cons_of_mem _ hc)

/-- No word has an underscore, so trimming stops at the words. -/
theorem underscore_notMem_text (w : TitleWord) : '_' ∉ w.text := fun h =>
  w.forall_mem_text (P := (· ≠ '_')) (by decide +kernel) '_' h rfl

theorem lower_text (w : TitleWord) : lower w.text = w.lowered := by
  have hrest : w.rest.map Char.toLower = w.rest := by
    conv_rhs => rw [← List.map_id w.rest]
    exact List.map_congr_left fun c hc => toLower_of_isSmall (w.rest_small c hc)
  rw [lower_of_ascii w.isAscii_text, text, List.map_cons, hrest, lowered]

/-- In a name a word stands as it does in the label. -/
private theorem raised_lower_text (w : TitleWord) : raised (lower w.text) = w.text := by
  rw [lower_text, lowered, raised_toLower w.capital_isUpper, text]

end TitleWord

/-! ## Words of a phrase -/

/-- Small letters and digits go on with the word that was begun. -/
private theorem wordsFrom_small {t : Text} (ht : ∀ c ∈ t, isSmall c = true) (prev : Option Char)
    {word : Text} (hword : word ≠ []) : wordsFrom prev word t = [word ++ t] := by
  induction t generalizing prev word with
  | nil => simp [wordsFrom, finished, hword]
  | cons c t ih =>
    -- neither does such a character separate, nor can it start a word
    have hclass : isAlphanumeric c = true ∧ isUppercase c = false := by
      refine forall_class toNat_lt_of_isSmall
        (fun c => isAlphanumeric c = true ∧ isUppercase c = false) ?_ (ht c List.mem_cons_self)
      decide +kernel
    have hstarts : startsWord prev c t.head? = false := by
      cases prev <;> simp [startsWord, hclass.2]
    rw [wordsFrom, hclass.1, hstarts]
    simp [ih fun d hd => ht d (List.mem_cons_of_mem c hd)]

/-- A capitalised word is cut nowhere. -/
theorem TitleWord.words_text (w : TitleWord) : words w.text = [w.text] := by
  have hcapital : isAlphanumeric w.capital = true :=
    forall_class toNat_lt_of_isUpper (isAlphanumeric · = true) (by decide +kernel) w.capital_isUpper
  -- the capital begins the word, and nothing before it is finished
  simp [words, text, wordsFrom, hcapital, startsWord, wordsFrom_small w.rest_small]

/-- Separators before a text do not matter to its words. -/
theorem words_replicate_append {d : Char} (hd : Separates d) (n : Nat) (t : Text) :
    words (List.replicate n d ++ t) = words t := by
  induction n with
  | zero => rfl
  | succ n ih =>
    -- each separator cuts off an empty text, which has no words
    have hcut := words_append_cons hd [] (List.replicate n d ++ t)
    rw [List.replicate_succ, List.cons_append, ← ih]
    exact hcut

private theorem words_append_replicate {d : Char} (hd : Separates d) (t : Text) (n : Nat) :
    words (t ++ List.replicate n d) = words t := by
  cases n with
  | zero => rw [List.replicate_zero, List.append_nil]
  | succ n =>
    have hnone : words (List.replicate n d) = [] := by
      have h := words_replicate_append hd n []
      rwa [List.append_nil] at h
    rw [List.replicate_succ, words_append_cons hd, hnone, List.append_nil]

/-! ## Labels -/

/-- A word of a label after the first, with the spaces before it. -/
structure SpacedWord where
  /-- The number of spaces beyond the one that has to be there. -/
  extra : Nat
  word : TitleWord

/-- The characters of a spaced word. -/
def SpacedWord.text (s : SpacedWord) : Text := List.replicate (s.extra + 1) ' ' ++ s.word.text

/-- Words with spaces between them and underscores around them. -/
structure ConventionalLabel where
  /-- The number of underscores before the words. -/
  leading : Nat
  first : TitleWord
  later : List SpacedWord
  /-- The number of underscores after the words. -/
  trailing : Nat

namespace ConventionalLabel

/-- The words of a label with the spaces between them. -/
def phrase (l : ConventionalLabel) : Text := l.first.text ++ l.later.flatMap SpacedWord.text

/-- The characters of a label. -/
def text (l : ConventionalLabel) : Text :=
  List.replicate l.leading '_' ++ l.phrase ++ List.replicate l.trailing '_'

/-- The words of a label run together, the first one lowered. -/
def stem (l : ConventionalLabel) : Text :=
  l.first.lowered ++ l.later.flatMap fun s => s.word.text

/-- What holds of a space and of every character of a word holds throughout a phrase. -/
theorem forall_mem_phrase {P : Char → Prop} (hspace : P ' ')
    (hword : ∀ w : TitleWord, ∀ c ∈ w.text, P c) (l : ConventionalLabel) : ∀ c ∈ l.phrase, P c := by
  intro c hc
  rcases List.mem_append.mp hc with hc | hc
  · exact hword l.first c hc
  · obtain ⟨s, -, hs⟩ := List.mem_flatMap.mp hc
    rcases List.mem_append.mp hs with hs | hs
    · rw [List.eq_of_mem_replicate hs]
      exact hspace
    · exact hword s.word c hs

private theorem trimChar_text (l : ConventionalLabel) : trimChar '_' l.text = l.phrase := by
  -- neither a space nor a character of a word is an underscore
  have hnone : ∀ c ∈ l.phrase, c ≠ '_' := by
    apply forall_mem_phrase (P := (· ≠ '_')) (by decide)
    rintro w c hc rfl
    exact w.underscore_notMem_text hc
  exact trimChar_surrounded (fun h => hnone '_' h rfl) l.leading l.trailing

theorem isAscii_text (l : ConventionalLabel) : IsAscii l.text := by
  have hphrase : IsAscii l.phrase := forall_mem_phrase (by decide) TitleWord.isAscii_text l
  intro c hc
  simp only [text, List.mem_append, List.mem_replicate] at hc
  rcases hc with (⟨-, rfl⟩ | hc) | ⟨-, rfl⟩
  · decide
  · exact hphrase c hc
  · decide

/-- Trimming and dropping leave the words. -/
theorem baseIdentifier_text (l : ConventionalLabel) : baseIdentifier l.text = l.stem := by
  have hspaces : ∀ n, (List.replicate n ' ').filter (fun c => !isBlank c) = [] := by
    intro n
    rw [List.filter_eq_nil_iff]
    intro c hc
    rw [List.eq_of_mem_replicate hc]
    decide
  have hkeep : ∀ {t : Text}, (∀ c ∈ t, isBlank c = false) → t.filter (fun c => !isBlank c) = t := by
    intro t ht
    apply List.filter_eq_self.mpr
    intro c hc
    rw [ht c hc]
    rfl
  -- behind the first word the spaces go and the words stay
  have hlater : (l.later.flatMap SpacedWord.text).filter (fun c => !isBlank c) =
      l.later.flatMap fun s => s.word.text := by
    rw [List.filter_flatMap]
    apply List.flatMap_congr
    intro s _
    rw [SpacedWord.text, List.filter_append, hspaces, hkeep s.word.isBlank_of_mem_text,
      List.nil_append]
  -- only the first character changes
  have hlower : lowerFirst l.phrase = l.first.lowered ++ l.later.flatMap SpacedWord.text := by
    rw [phrase, TitleWord.text, List.cons_append, lowerFirst,
      lowerChar_of_ascii (toNat_lt_of_isUpper _ l.first.capital_isUpper)]
    rfl
  rw [baseIdentifier, trimChar_text, hlower, List.filter_append,
    hkeep l.first.isBlank_of_mem_lowered, hlater, stem]

/-- Every space of a phrase is a cut. -/
private theorem words_append_spaced (t : Text) (ss : List SpacedWord) :
    words (t ++ ss.flatMap SpacedWord.text) = words t ++ ss.map fun s => s.word.text := by
  induction ss generalizing t with
  | nil => simp
  | cons s ss ih =>
    -- the first of the spaces cuts, and the others only add separators
    have hspace : Separates ' ' := separates_of_isBlank (by decide)
    have hcut : t ++ (s :: ss).flatMap SpacedWord.text =
        t ++ ' ' :: (List.replicate s.extra ' ' ++
          (s.word.text ++ ss.flatMap SpacedWord.text)) := by
      simp [SpacedWord.text, List.replicate_succ]
    rw [hcut, words_append_cons hspace, words_replicate_append hspace, ih, s.word.words_text,
      List.map_cons, List.singleton_append]

/-- Cutting leaves the words too. -/
theorem words_text (l : ConventionalLabel) :
    words l.text = l.first.text :: l.later.map fun s => s.word.text := by
  rw [text, List.append_assoc, words_replicate_append separates_underscore,
    words_append_replicate separates_underscore, phrase, words_append_spaced, l.first.words_text,
    List.singleton_append]

/-- A label is hidden by any underscore before its words, and by nothing else. -/
theorem visibility_text (l : ConventionalLabel) :
    Visibility.ofLabel l.text = if l.leading = 0 then .visible else .hidden := by
  unfold text
  cases l.leading with
  | zero =>
    -- the label starts with a capital
    have hcapital : l.first.capital ≠ '_' := fun h =>
      l.first.underscore_notMem_text (h ▸ List.mem_cons_self)
    rw [List.replicate_zero, List.nil_append, phrase, TitleWord.text, List.cons_append,
      List.cons_append, Visibility.ofLabel]
    · rfl
    · intro t ht
      exact hcapital (List.cons.inj ht).1
  | succ n =>
    rw [List.replicate_succ]
    rfl

end ConventionalLabel

end LayerView.Naming

namespace LayerView.Pair

open LayerView.Text LayerView.Naming

/-- What a paint is among the uses of a color. -/
def Paint.use : Paint → ColorUse
  | .fill => .fill
  | .stroke => .stroke

private theorem flatMap_raised_paint (p : Paint) :
    [p.word, "color".toList].flatMap raised = p.use.ending := by
  cases p <;> decide

/-- The pair dialect names a color by the words of the label run together. -/
theorem propertyName_text (l : ConventionalLabel) (p : Paint) :
    propertyName l.text p = l.stem ++ p.use.ending := by
  -- each later word is lowered when it is cut off and raised when it is put back
  have hlater : ((l.later.map fun s => s.word.text).map lower).flatMap raised =
      l.later.flatMap fun s => s.word.text := by
    rw [List.map_map, List.flatMap_map]
    exact List.flatMap_congr fun s _ => s.word.raised_lower_text
  rw [propertyName_of_ascii l.isAscii_text, l.words_text, List.map_cons, List.cons_append, joined,
    List.flatMap_append, hlater, flatMap_raised_paint, l.first.lower_text, ConventionalLabel.stem,
    List.append_assoc]

/-- The fill and the stroke of a layer with a conventional label have one name in both dialects,
made of the words of the label, and one visibility, told by the underscores before them. -/
theorem conventional_colors_named_alike (l : ConventionalLabel) (p : Paint) (color : Text)
    (start : Nat) :
    let v : ColorVariable := ⟨⟨l.text⟩, color, p.use⟩
    let m : PaintMatch := ⟨start, color, l.text, propertyName l.text p⟩
    v.name = propertyName l.text p ∧
    propertyName l.text p = l.stem ++ p.use.ending ∧
    (Variable.color v).declaration.visibility = m.declaration.visibility ∧
    m.declaration.visibility = if l.leading = 0 then .visible else .hidden := by
  intro v m
  -- the view dialect puts the ending behind the trimmed label
  have hname : v.name = l.stem ++ p.use.ending := by
    show baseIdentifier l.text ++ p.use.ending = _
    rw [l.baseIdentifier_text]
  refine ⟨?_, propertyName_text l p, rfl, l.visibility_text⟩
  rw [hname, propertyName_text]

example : ∃ l : ConventionalLabel, l.text = "_Big  Triangle2_".toList ∧
    l.stem ++ Paint.stroke.use.ending = "bigTriangle2StrokeColor".toList :=
  ⟨{ leading := 1
     first := ⟨'B', "ig".toList, by decide, List.all_eq_true.mp (by decide)⟩
     later := [⟨1, 'T', "riangle2".toList, by decide, List.all_eq_true.mp (by decide)⟩]
     trailing := 1 }, by decide, by decide⟩

end LayerView.Pair
