import LayerView.Pair.Paint
import LayerView.Proofs.Words

/-!
# Names of color properties

The name of a color property is made of the words of the layer's label and of two more, one for what
the color does and the word `color`.  In a name every word but the first opens with a capital or, if
it starts with a digit, with an underscore, and neither stands anywhere else.  So the words of an ASCII
label can be read back from the name, up to the case of their letters, and two properties have one
name exactly when their labels have the same words and their colors do the same thing.  A fill and a
stroke are told apart by the end of the name whatever the labels are.

Main statements:
- `words_propertyLabel`: the words of a property's label
- `camelCase_of_ascii`: a name, made from lowered words
- `joined_injective`: reading the words back
- `propertyName_eq_iff`: when two names are the same
-/

namespace LayerView.Naming

open LayerView.Text

/-! ## ASCII letters -/

/-- A text of ASCII characters. -/
def IsAscii (t : Text) : Prop := ∀ c ∈ t, c.toNat < 128

instance (t : Text) : Decidable (IsAscii t) := List.decidableBAll (fun c : Char => c.toNat < 128) t

/-- What holds of each of the 128 code points holds of every ASCII character. -/
theorem forall_ascii {P : Char → Prop} (h : ∀ n : Fin 128, P (Char.ofNat n)) {c : Char}
    (hc : c.toNat < 128) : P c := by
  have hn := h ⟨c.toNat, hc⟩
  rwa [Char.ofNat_toNat] at hn

/-- What holds of the ASCII characters in a class holds of all of them, if the class has no others. -/
theorem forall_class {isIn : Char → Bool} (hclass : ∀ c, isIn c = true → c.toNat < 128)
    (P : Char → Prop) (h : ∀ n : Fin 128, isIn (Char.ofNat n) = true → P (Char.ofNat n)) {c : Char}
    (hc : isIn c = true) : P c :=
  forall_ascii (P := fun c => isIn c = true → P c) h (hclass c hc) hc

theorem lowerChar_of_ascii {c : Char} (hc : c.toNat < 128) : lowerChar c = [c.toLower] := by
  revert hc
  apply forall_ascii
  decide +kernel

/-- Of the letters before, only the sigma takes notice, and it is no ASCII letter. -/
private theorem lowerAfter_of_ascii {t : Text} (ht : IsAscii t) (seen : Text) :
    lowerAfter seen t = t.map Char.toLower := by
  induction t generalizing seen with
  | nil => rfl
  | cons c t ih =>
    have hc : c.toNat < 128 := ht c List.mem_cons_self
    have hsigma : c ≠ 'Σ' := by
      rintro rfl
      exact absurd hc (by decide)
    rw [lowerAfter, if_neg hsigma, lowerChar_of_ascii hc,
      ih fun d hd => ht d (List.mem_cons_of_mem c hd)]
    rfl

theorem lower_of_ascii {t : Text} (ht : IsAscii t) : lower t = t.map Char.toLower :=
  lowerAfter_of_ascii ht []

/-! ## Names from lowered words -/

/-- A lowered word in a name, after the first one. -/
def raised : Text → Text
  | [] => []
  | c :: t => if c.isDigit then '_' :: c :: t else c.toUpper :: t

/-- Lowered words joined into one name. -/
def joined : List Text → Text
  | [] => []
  | w :: ws => w ++ ws.flatMap raised

/-- How a later word opens does not depend on the case of its first letter. -/
private theorem opening_of_ascii {c : Char} (hc : c.toNat < 128) (t : Text) :
    (if isAsciiDigit c then ['_'] else []) ++ upperChar c ++ t = raised (c.toLower :: t) := by
  have hone : (if isAsciiDigit c then ['_'] else []) ++ upperChar c =
      if c.toLower.isDigit then ['_', c.toLower] else [c.toLower.toUpper] := by
    revert hc
    apply forall_ascii
    decide +kernel
  rw [hone, raised]
  split <;> rfl

private theorem laterWord_of_ascii {w : Text} (hw : IsAscii w) :
    laterWord w = raised (lower w) := by
  cases w with
  | nil => rfl
  | cons c t =>
    rw [lower_of_ascii hw, List.map_cons, ← opening_of_ascii (hw c List.mem_cons_self), laterWord,
      lower_of_ascii fun d hd => hw d (List.mem_cons_of_mem c hd)]

theorem isAscii_of_mem_words {label w : Text} (h : IsAscii label) (hw : w ∈ words label) :
    IsAscii w := fun c hc => h c (mem_of_mem_words hw hc).1

/-- The name for an ASCII label depends on its lowered words only. -/
theorem camelCase_of_ascii {label : Text} (h : IsAscii label) :
    camelCase label = joined ((words label).map lower) := by
  have hascii : ∀ w ∈ words label, IsAscii w := fun w hw => isAscii_of_mem_words h hw
  unfold camelCase
  split
  case h_1 heq =>
    rw [heq]
    rfl
  case h_2 first later heq =>
    rw [heq] at hascii ⊢
    rw [List.map_cons, joined, List.flatMap_map]
    -- the first word is lowered as it is, and each later one by itself
    congr 1
    apply List.flatMap_congr
    intro w hw
    exact laterWord_of_ascii (hascii w (List.mem_cons_of_mem first hw))

/-! ## Small words -/

/-- A small letter or a digit. -/
def isSmall (c : Char) : Bool := c.isLower || c.isDigit

/-- A word of small letters and digits. -/
structure SmallWord (w : Text) : Prop where
  ne_nil : w ≠ []
  small : ∀ c ∈ w, isSmall c = true

/-- Lowered, the words of an ASCII label are small words. -/
private theorem smallWord_lower {label w : Text} (h : IsAscii label) (hw : w ∈ words label) :
    SmallWord (lower w) := by
  rw [lower_of_ascii (isAscii_of_mem_words h hw)]
  refine ⟨by simpa using ne_nil_of_mem_words hw, ?_⟩
  intro d hd
  obtain ⟨c, hc, rfl⟩ := List.mem_map.mp hd
  obtain ⟨hmem, halpha⟩ := mem_of_mem_words hw hc
  -- words have letters and numerals, and lowered these are small
  have hsmall : isAlphanumeric c = true → isSmall c.toLower = true :=
    forall_ascii (P := fun c => isAlphanumeric c = true → isSmall c.toLower = true)
      (by decide +kernel) (h c hmem)
  exact hsmall halpha

theorem toNat_lt_of_isSmall (c : Char) (h : isSmall c = true) : c.toNat < 128 := by
  -- the classes are intervals of code points, with these upper ends
  have hbound : c.val.toNat ≤ 122 ∨ c.val.toNat ≤ 57 := by
    rcases Bool.or_eq_true_iff.mp h with hletter | hdigit
    · exact Or.inl (of_decide_eq_true (Bool.and_eq_true_iff.mp hletter).2)
    · exact Or.inr (of_decide_eq_true (Bool.and_eq_true_iff.mp hdigit).2)
  show c.val.toNat < 128
  omega

/-! ## Reading a name -/

/-- Whether a character opens a word inside a name. -/
def opens (c : Char) : Bool := c == '_' || c.isUpper

/-- The lowered word that stands in a name as this text. -/
def unraised : Text → Text
  | [] => []
  | c :: t => if c = '_' then t else c.toLower :: t

private theorem not_opens_of_isSmall {c : Char} (hc : isSmall c = true) : opens c = false := by
  refine forall_class toNat_lt_of_isSmall (opens · = false) ?_ hc
  decide +kernel

theorem SmallWord.not_opens {w : Text} (hw : SmallWord w) : ∀ c ∈ w, opens c = false :=
  fun c hc => not_opens_of_isSmall (hw.small c hc)

/-- A small word can be read back from how it stands in a name. -/
theorem unraised_raised {w : Text} (hw : SmallWord w) : unraised (raised w) = w := by
  cases w with
  | nil => rfl
  | cons c t =>
    -- a capital leads back to its letter, and is not the underscore of a digit
    have hcapital : c.isDigit = false → c.toUpper ≠ '_' ∧ c.toUpper.toLower = c := by
      refine forall_class toNat_lt_of_isSmall (fun c => c.isDigit = false →
        c.toUpper ≠ '_' ∧ c.toUpper.toLower = c) ?_ (hw.small c List.mem_cons_self)
      decide +kernel
    cases hdigit : c.isDigit with
    | true => simp [raised, unraised, hdigit]
    | false => simp [raised, unraised, hdigit, hcapital hdigit]

/-- In a name a later word has one character that opens it, at its start. -/
theorem exists_raised_eq_cons {w : Text} (hw : SmallWord w) :
    ∃ c body, raised w = c :: body ∧ opens c = true ∧ ∀ d ∈ body, opens d = false := by
  have hsmall := hw.not_opens
  cases w with
  | nil => exact absurd rfl hw.ne_nil
  | cons c t =>
    cases hdigit : c.isDigit with
    -- a digit has an underscore before it; a letter is raised itself
    | true => exact ⟨'_', c :: t, by simp [raised, hdigit], by decide, hsmall⟩
    | false =>
      have hopens : c.isDigit = false → opens c.toUpper = true := by
        refine forall_class toNat_lt_of_isSmall
          (fun c => c.isDigit = false → opens c.toUpper = true) ?_
          (hw.small c List.mem_cons_self)
        decide +kernel
      refine ⟨c.toUpper, t, by simp [raised, hdigit], hopens hdigit, ?_⟩
      exact fun d hd => hsmall d (List.mem_cons_of_mem c hd)

/-- The text of later words opens with a word, if there is any. -/
theorem opens_of_head?_flatMap {ws : List Text} (hws : ∀ w ∈ ws, SmallWord w) {c : Char}
    (hc : (ws.flatMap raised).head? = some c) : opens c = true := by
  cases ws with
  | nil => simp at hc
  | cons w ws =>
    obtain ⟨d, body, hraised, hopens, -⟩ := exists_raised_eq_cons (hws w List.mem_cons_self)
    obtain rfl : d = c := by simpa [hraised] using hc
    exact hopens

/-- A stretch without openings ends where the next word opens. -/
theorem append_inj_of_opens {s t u v : Text} (hs : ∀ c ∈ s, opens c = false)
    (ht : ∀ c ∈ t, opens c = false) (hu : ∀ c, u.head? = some c → opens c = true)
    (hv : ∀ c, v.head? = some c → opens c = true) (h : s ++ u = t ++ v) : s = t ∧ u = v := by
  -- where one stretch ends, the other cannot go on: its next character would open a word
  induction s generalizing t with
  | nil =>
    cases t with
    | nil => exact ⟨rfl, h⟩
    | cons d t =>
      have hd := hu d (by rw [← List.nil_append u, h]; rfl)
      simp [ht d List.mem_cons_self] at hd
  | cons c s ih =>
    cases t with
    | nil =>
      have hc := hv c (by rw [← List.nil_append v, ← h]; rfl)
      simp [hs c List.mem_cons_self] at hc
    | cons d t =>
      rw [List.cons_append, List.cons_append, List.cons.injEq] at h
      obtain ⟨rfl, hrest⟩ := h
      obtain ⟨rfl, rfl⟩ := ih (fun e he => hs e (List.mem_cons_of_mem c he))
        (fun e he => ht e (List.mem_cons_of_mem c he)) hrest
      exact ⟨rfl, rfl⟩

/-- Later words can be read back from their text. -/
theorem flatMap_raised_injective {ws vs : List Text} (hws : ∀ w ∈ ws, SmallWord w)
    (hvs : ∀ v ∈ vs, SmallWord v) (h : ws.flatMap raised = vs.flatMap raised) : ws = vs := by
  -- word by word: where the first one opens is plain, and where it ends the next one opens
  induction ws generalizing vs with
  | nil =>
    cases vs with
    | nil => rfl
    | cons v vs =>
      obtain ⟨c, body, hraised, -⟩ := exists_raised_eq_cons (hvs v List.mem_cons_self)
      simp [hraised] at h
  | cons w ws ih =>
    have hw := hws w List.mem_cons_self
    have hws' : ∀ x ∈ ws, SmallWord x := fun x hx => hws x (List.mem_cons_of_mem w hx)
    obtain ⟨c, body, hraised, -, hbody⟩ := exists_raised_eq_cons hw
    cases vs with
    | nil => simp [hraised] at h
    | cons v vs =>
      have hv := hvs v List.mem_cons_self
      have hvs' : ∀ x ∈ vs, SmallWord x := fun x hx => hvs x (List.mem_cons_of_mem v hx)
      obtain ⟨d, rest, hraised', -, hrest⟩ := exists_raised_eq_cons hv
      rw [List.flatMap_cons, List.flatMap_cons, hraised, hraised', List.cons_append,
        List.cons_append, List.cons.injEq] at h
      obtain ⟨rfl, h⟩ := h
      obtain ⟨rfl, hlater⟩ := append_inj_of_opens hbody hrest
        (fun _ => opens_of_head?_flatMap hws') (fun _ => opens_of_head?_flatMap hvs') h
      have hwv : w = v := by rw [← unraised_raised hw, ← unraised_raised hv, hraised, hraised']
      rw [hwv, ih hws' hvs' hlater]

/-- Lowered words can be read back from the name that they are joined to. -/
theorem joined_injective {ws vs : List Text} (hws : ∀ w ∈ ws, SmallWord w)
    (hvs : ∀ v ∈ vs, SmallWord v) (h : joined ws = joined vs) : ws = vs := by
  cases ws with
  | nil =>
    cases vs with
    | nil => rfl
    | cons v vs =>
      have hnil := (List.append_eq_nil_iff.mp h.symm).1
      exact absurd hnil (hvs v List.mem_cons_self).ne_nil
  | cons w ws =>
    have hws' : ∀ x ∈ ws, SmallWord x := fun x hx => hws x (List.mem_cons_of_mem w hx)
    cases vs with
    | nil =>
      have hnil := (List.append_eq_nil_iff.mp h).1
      exact absurd hnil (hws w List.mem_cons_self).ne_nil
    | cons v vs =>
      have hvs' : ∀ x ∈ vs, SmallWord x := fun x hx => hvs x (List.mem_cons_of_mem v hx)
      -- the first word is not raised, but it too ends at the first opening
      obtain ⟨rfl, hlater⟩ := append_inj_of_opens (hws w List.mem_cons_self).not_opens
        (hvs v List.mem_cons_self).not_opens
        (fun _ => opens_of_head?_flatMap hws') (fun _ => opens_of_head?_flatMap hvs') h
      rw [flatMap_raised_injective hws' hvs' hlater]

end LayerView.Naming

namespace LayerView.Pair

open LayerView.Text LayerView.Naming

/-! ## Properties -/

/-- The words of a property's label are those of the layer's label and two more. -/
theorem words_propertyLabel (label : Text) (p : Paint) :
    words (propertyLabel label p) = words label ++ [p.word, "color".toList] := by
  have hlabel : propertyLabel label p =
      (label.map fun c => if isBlank c then '_' else c) ++ '_' :: (p.word ++ "_color".toList) := by
    simp [propertyLabel]
  have hends : words (p.word ++ "_color".toList) = [p.word, "color".toList] := by
    cases p <;> decide +kernel
  -- a blank and an underscore separate words alike
  have hblanks : words (label.map fun c => if isBlank c then '_' else c) = words label := by
    apply words_map
    intro c
    by_cases hc : isBlank c = true
    · right
      rw [if_pos hc]
      exact ⟨separates_of_isBlank hc, separates_underscore⟩
    · left
      rw [if_neg hc]
  rw [hlabel, words_append_cons separates_underscore, hblanks, hends]

/-- The end of a name tells what the color does. -/
theorem suffix_propertyName (label : Text) (p : Paint) :
    p.word.tail ++ "Color".toList <:+ propertyName label p := by
  unfold propertyName camelCase
  rw [words_propertyLabel]
  -- a label may have no words, and then the word of the paint comes first and is not raised
  cases words label with
  | nil => cases p <;> decide +kernel
  | cons first later =>
    have hends : p.word.tail ++ "Color".toList <:+ [p.word, "color".toList].flatMap laterWord := by
      cases p <;> decide +kernel
    simp only [List.cons_append, List.flatMap_append]
    exact (hends.trans (List.suffix_append _ _)).trans (List.suffix_append _ _)

private theorem isAscii_propertyLabel {label : Text} (h : IsAscii label) (p : Paint) :
    IsAscii (propertyLabel label p) := by
  have hends : IsAscii ("_".toList ++ p.word ++ "_color".toList) := by cases p <;> decide
  intro c hc
  simp only [propertyLabel, List.append_assoc] at hc hends
  rcases List.mem_append.mp hc with hc | hc
  · obtain ⟨d, hd, rfl⟩ := List.mem_map.mp hc
    -- blanks become underscores, and other characters stay
    split
    · decide
    · exact h d hd
  · exact hends c hc

/-- The name of a property for an ASCII label, from the lowered words of the label. -/
theorem propertyName_of_ascii {label : Text} (h : IsAscii label) (p : Paint) :
    propertyName label p = joined ((words label).map lower ++ [p.word, "color".toList]) := by
  have hends : [p.word, "color".toList].map lower = [p.word, "color".toList] := by
    cases p <;> decide +kernel
  rw [propertyName, camelCase_of_ascii (isAscii_propertyLabel h p), words_propertyLabel,
    List.map_append, hends]

theorem smallWord_of_property {label : Text} (h : IsAscii label) (p : Paint) :
    ∀ w ∈ (words label).map lower ++ [p.word, "color".toList], SmallWord w := by
  intro w hw
  rcases List.mem_append.mp hw with hw | hw
  · obtain ⟨v, hv, rfl⟩ := List.mem_map.mp hw
    exact smallWord_lower h hv
  · simp only [List.mem_cons, List.not_mem_nil, or_false] at hw
    rcases hw with rfl | rfl
    · cases p <;> exact ⟨by decide, List.all_eq_true.mp (by decide)⟩
    · exact ⟨by decide, List.all_eq_true.mp (by decide)⟩

/-- A fill and a stroke never have one name.  For ASCII labels two names are the same exactly when
the colors do the same thing and the labels have the same words, up to the case of letters. -/
theorem propertyName_eq_iff :
    (∀ g h : Text, propertyName g .fill ≠ propertyName h .stroke) ∧
    ∀ (g h : Text) (p q : Paint), IsAscii g → IsAscii h →
      (propertyName g p = propertyName h q ↔
        p = q ∧ (words g).map lower = (words h).map lower) := by
  constructor
  · intro g h heq
    have hfill := suffix_propertyName g .fill
    have hstroke := suffix_propertyName h .stroke
    rw [heq] at hfill
    -- of two ends of one name the shorter would end the longer
    rcases List.suffix_or_suffix_of_suffix hfill hstroke with hends | hends
    · exact absurd hends (by decide)
    · exact absurd hends (by decide)
  · intro g h p q hg hh
    rw [propertyName_of_ascii hg, propertyName_of_ascii hh]
    constructor
    · intro heq
      -- the labels may differ in how many words they have, but two words follow in both
      have hwords := joined_injective (smallWord_of_property hg p) (smallWord_of_property hh q) heq
      obtain ⟨hlabels, hends⟩ := List.append_inj' hwords rfl
      have hpaint : p.word = q.word := (List.cons.inj hends).1
      refine ⟨?_, hlabels⟩
      cases p <;> cases q
      · rfl
      · exact absurd hpaint (by decide)
      · exact absurd hpaint (by decide)
      · rfl
    · rintro ⟨rfl, hlabels⟩
      rw [hlabels]

/-- `Big Dot` and `bigDot` have the same words, so their fills have one name. -/
theorem propertyName_eq_iff_dots :
    IsAscii "Big Dot".toList ∧ IsAscii "bigDot".toList ∧
    (words "Big Dot".toList).map lower = (words "bigDot".toList).map lower ∧
    propertyName "Big Dot".toList .fill = propertyName "bigDot".toList .fill ∧
    propertyName "Big Dot".toList .fill = "bigDotFillColor".toList := by
  have hwords : (words "Big Dot".toList).map lower = (words "bigDot".toList).map lower := by
    decide +kernel
  have hname := propertyName_eq_iff.2 "Big Dot".toList "bigDot".toList .fill .fill
    (by decide) (by decide)
  exact ⟨by decide, by decide, hwords, hname.mpr ⟨rfl, hwords⟩, by decide +kernel⟩

end LayerView.Pair
