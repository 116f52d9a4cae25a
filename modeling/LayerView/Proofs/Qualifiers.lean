import LayerView.Proofs.Overlaps
import LayerView.Text.Letter
import LayerView.ViewClass

/-!
# The class name before calls

To turn static functions into methods the class name is dropped before calls, together with its dot.
It is looked for as a mere word.  An identifier that only ends in the class name has this word too,
and loses its end: in the class `Dots` a call to `BigDots.draw()` becomes one to `Bigdraw()`.

What is dropped is told by the pieces of the text between the words.  The words are dropped at all
their places and nowhere else, so only qualifiers are dropped exactly when every place of the word
is one of a qualifier.

Main statements:
- `Text.exists_piecesBetween`: replacing a word leaves the pieces between its places
- `Text.PiecesBetween.append_iff`: the places of a word that does not overlap itself
- `ViewClass.replaceAll_eq_dropQualifiersFrom_iff`: dropping words and dropping qualifiers
- `ViewClass.rebase_drops_words`: what is dropped, and when it is qualifiers only
- `ViewClass.other_class_name_cut`: an identifier that loses its end
-/

namespace LayerView.Text

/-! ## Replacing a word -/

/-- After a word was found, its other characters are skipped. -/
private theorem replaceFrom_append (needle new u t : Text) :
    replaceFrom needle new u.length (u ++ t) = replaceFrom needle new 0 t := by
  induction u with
  | nil => rfl
  | cons c u ih => rw [List.cons_append, List.length_cons, replaceFrom, ih]

theorem replaceAll_of_absent {needle t : Text} (new : Text) (h : ¬ needle <:+: t) :
    replaceAll needle new t = t := by
  -- the empty word is everywhere, so it cannot be absent
  have hne : needle ≠ [] := by
    rintro rfl
    exact h List.nil_infix
  have hfrom : replaceFrom needle new 0 t = t := by
    clear hne
    induction t with
    | nil => rfl
    | cons c t ih =>
      rw [List.infix_cons_iff, not_or] at h
      rw [replaceFrom, if_neg (mt List.isPrefixOf_iff_prefix.mp h.1), ih h.2]
  rw [replaceAll, hfrom, ite_self]

/-- The first place of a word is replaced, and then the others behind it. -/
theorem replaceAll_of_isFirst {needle t before after : Text} (hne : needle ≠ []) (new : Text)
    (h : IsFirst (· = needle) t before needle after) :
    replaceAll needle new t = before ++ new ++ replaceAll needle new after := by
  have hempty : needle.isEmpty = false := by simpa using hne
  have hbreak := isFirst_eq_iff.mp h
  simp only [replaceAll, hempty, Bool.false_eq_true, if_false]
  clear h
  induction t generalizing before with
  | nil =>
    -- only the empty word stands in the empty text
    cases needle with
    | nil => exact absurd rfl hne
    | cons c needle => simp [breakOn?] at hbreak
  | cons c t ih =>
    simp only [breakOn?] at hbreak
    split at hbreak
    -- the word is here: its first character is replaced and the others are skipped
    case isTrue hpre =>
      obtain ⟨rfl, hafter⟩ : [] = before ∧ (c :: t).drop needle.length = after := by
        simpa using hbreak
      obtain ⟨rest, hrest⟩ := List.isPrefixOf_iff_prefix.mp hpre
      obtain ⟨d, w, rfl⟩ := List.exists_cons_of_ne_nil hne
      have ht : t = w ++ rest := (List.cons.inj hrest).2.symm
      obtain rfl : rest = after := by simpa [ht] using hafter
      rw [replaceFrom, if_pos hpre, List.length_cons, Nat.add_sub_cancel, ht, replaceFrom_append]
      rfl
    case isFalse hpre =>
      obtain ⟨⟨b, a⟩, hrec, hparts⟩ := Option.map_eq_some_iff.mp hbreak
      obtain ⟨rfl, rfl⟩ : c :: b = before ∧ a = after := by simpa using hparts
      rw [replaceFrom, if_neg hpre, ih hrec]
      rfl

/-! ## The pieces between the places of a word -/

/-- A text as the pieces between the places of a word. -/
structure PiecesBetween (word t : Text) (pieces : List Text) : Prop where
  ne_nil : pieces ≠ []
  eq_intercalate : t = word.intercalate pieces
  not_contained : ∀ p ∈ pieces, ¬ word <:+: p

/-- Replacing a word leaves the pieces, with another text between them. -/
theorem exists_piecesBetween {word : Text} (hne : word ≠ []) (t : Text) :
    ∃ pieces, PiecesBetween word t pieces ∧
      ∀ new, replaceAll word new t = new.intercalate pieces := by
  by_cases h : word <:+: t
  · obtain ⟨before, after, hfirst⟩ := exists_isFirst h
    have hlength : after.length < t.length := by
      have hpos := List.length_pos_iff.mpr hne
      rw [hfirst.eq_append, List.length_append, List.length_append]
      omega
    -- the pieces behind the first place come from the rest of the text
    obtain ⟨pieces, hpieces, hreplace⟩ := exists_piecesBetween hne after
    have hbefore : ¬ word <:+: before := by
      by_cases hnil : before = []
      · rw [hnil, List.infix_nil]
        exact hne
      · exact (UpToFirst.found hfirst).not_contained hnil
    refine ⟨before :: pieces, ⟨List.cons_ne_nil _ _, ?_, ?_⟩, ?_⟩
    · rw [List.intercalate_cons_of_ne_nil hpieces.ne_nil, ← hpieces.eq_intercalate]
      exact hfirst.eq_append
    · intro p hp
      rcases List.mem_cons.mp hp with rfl | hp
      · exact hbefore
      · exact hpieces.not_contained p hp
    · intro new
      rw [replaceAll_of_isFirst hne new hfirst, hreplace new,
        List.intercalate_cons_of_ne_nil hpieces.ne_nil]
  · refine ⟨[t], ⟨List.cons_ne_nil _ _, List.intercalate_singleton.symm, ?_⟩, ?_⟩
    · intro p hp
      rwa [List.mem_singleton.mp hp]
    · intro new
      rw [replaceAll_of_absent new h, List.intercalate_singleton]
termination_by t.length

private theorem intercalate_append {word : Text} {us vs : List Text} (hus : us ≠ [])
    (hvs : vs ≠ []) :
    word.intercalate (us ++ vs) = word.intercalate us ++ word ++ word.intercalate vs := by
  induction us with
  | nil => exact absurd rfl hus
  | cons u us ih =>
    by_cases hnil : us = []
    · subst hnil
      rw [List.singleton_append, List.intercalate_cons_of_ne_nil hvs, List.intercalate_singleton]
    · have happend : us ++ vs ≠ [] := List.append_ne_nil_of_left_ne_nil hnil vs
      rw [List.cons_append, List.intercalate_cons_of_ne_nil happend, ih hnil,
        List.intercalate_cons_of_ne_nil hnil]
      simp only [List.append_assoc]

/-- The places of a word that does not overlap itself are the first one and those behind it. -/
theorem IsFirst.forall_places_iff {word t before after : Text} (hword : Unbordered word)
    (h : IsFirst (· = word) t before word after) {P : Text → Prop} :
    (∀ lead rest, t = lead ++ word ++ rest → P lead) ↔
      P before ∧ ∀ lead rest, after = lead ++ word ++ rest → P (before ++ word ++ lead) := by
  constructor
  · intro hall
    refine ⟨hall before after h.eq_append, ?_⟩
    rintro lead rest rfl
    exact hall _ rest (by rw [h.eq_append]; simp only [List.append_assoc])
  · rintro ⟨hbefore, hafter⟩ lead rest hcut
    rcases append_self_cases hword (h.eq_append.symm.trans hcut) with
      ⟨gap, hgap, -⟩ | ⟨rfl, -⟩ | ⟨gap, rfl, hgap⟩
    · -- no place is before the first one
      have hle := h.least lead word rest hcut rfl
      have hpos := List.length_pos_iff.mpr hword.ne_nil
      rw [hgap, List.length_append, List.length_append] at hle
      omega
    · exact hbefore
    · exact hafter gap rest hgap

/-- The word stands behind `lead` where the text is cut after some of its pieces. -/
def CutBehind (word : Text) (pieces : List Text) (lead rest : Text) : Prop :=
  ∃ us vs, us ≠ [] ∧ vs ≠ [] ∧ pieces = us ++ vs ∧ lead = word.intercalate us ∧
    rest = word.intercalate vs

/-- The places of a word that does not overlap itself are those between the pieces. -/
theorem PiecesBetween.append_iff {word t : Text} {pieces : List Text} (hword : Unbordered word)
    (h : PiecesBetween word t pieces) {lead rest : Text} :
    t = lead ++ word ++ rest ↔ CutBehind word pieces lead rest := by
  constructor
  · intro ht
    obtain ⟨hne, hcut, hpieces⟩ := h
    induction pieces generalizing t lead with
    | nil => exact absurd rfl hne
    | cons p ps ih =>
      by_cases hnil : ps = []
      · -- a single piece has no word
        subst hnil
        rw [List.intercalate_singleton] at hcut
        exact absurd ⟨lead, rest, (hcut.symm.trans ht).symm⟩ (hpieces p List.mem_cons_self)
      · rw [List.intercalate_cons_of_ne_nil hnil] at hcut
        rcases append_self_cases hword (hcut.symm.trans ht) with
          ⟨gap, hgap, -⟩ | ⟨rfl, rfl⟩ | ⟨gap, rfl, hgap⟩
        · exact absurd ⟨lead, gap, hgap.symm⟩ (hpieces p List.mem_cons_self)
        · exact ⟨[lead], ps, List.cons_ne_nil _ _, hnil, rfl, List.intercalate_singleton.symm, rfl⟩
        · -- the place is behind the first one, so it is one of the other pieces
          obtain ⟨us, vs, hus, hvs, rfl, rfl, hrest⟩ :=
            ih hgap hnil rfl fun q hq => hpieces q (List.mem_cons_of_mem p hq)
          refine ⟨p :: us, vs, List.cons_ne_nil _ _, hvs, rfl, ?_, hrest⟩
          rw [List.intercalate_cons_of_ne_nil hus]
  · rintro ⟨us, vs, hus, hvs, rfl, rfl, rfl⟩
    -- between any two lots of pieces the word stands
    rw [h.eq_intercalate, intercalate_append hus hvs]

end LayerView.Text

namespace LayerView.ViewClass

open LayerView.Text

/-! ## The name of the class -/

private theorem forall_isWordChar_of_nameAt? {t name : Text} (h : nameAt? t = some name) :
    ∀ c ∈ name, isWordChar c = true := by
  unfold nameAt? at h
  split at h
  · obtain ⟨-, hname⟩ := Option.ite_none_right_eq_some.mp h
    rw [← Option.some.inj hname]
    exact fun c hc => List.mem_takeWhile_imp hc
  · simp at h

private theorem forall_isWordChar_of_name? {t name : Text} (h : name? t = some name) :
    ∀ c ∈ name, isWordChar c = true := by
  induction t with
  | nil => simp [name?] at h
  | cons c t ih =>
    rw [name?] at h
    split at h
    case h_1 name' hname =>
      rw [← Option.some.inj h]
      exact forall_isWordChar_of_nameAt? hname
    case h_2 => exact ih h

/-- A class name with its dot does not overlap itself. -/
private theorem unbordered_of_name? {t name : Text} (h : name? t = some name) :
    Unbordered (name ++ ['.']) := by
  apply unbordered_concat
  -- the dot ends the word and is in no class name
  intro hdot
  have hword := forall_isWordChar_of_name? h '.' hdot
  have hnot : isWordChar '.' = false := by decide
  rw [hnot] at hword
  exact Bool.false_ne_true hword

/-! ## Qualifiers -/

/-- Drop a word where it is a qualifier, that is, not behind a part of an identifier.  The character
before the text is given, and how many characters of the word before are still to be skipped. -/
def dropQualifiersFrom (word : Text) : Option Char → Nat → Text → Text
  | _, _, [] => []
  | _, skip + 1, c :: t => dropQualifiersFrom word (some c) skip t
  | prev, 0, c :: t =>
    if word.isPrefixOf (c :: t) && !prev.any isIdentifierPart then
      dropQualifiersFrom word (some c) (word.length - 1) t
    else c :: dropQualifiersFrom word (some c) 0 t

/-- Drop a word wherever it is a qualifier. -/
def dropQualifiers (word t : Text) : Text := dropQualifiersFrom word none 0 t

section DropQualifiers

variable {word : Text}

/-- The characters of a word that was dropped are skipped, and the last of them is what the rest
follows. -/
private theorem dropQualifiersFrom_skip (prev : Option Char) (u t : Text) :
    dropQualifiersFrom word prev u.length (u ++ t) =
      dropQualifiersFrom word (u.getLast?.or prev) 0 t := by
  induction u generalizing prev with
  | nil => simp
  | cons c u ih =>
    rw [List.cons_append, List.length_cons, dropQualifiersFrom, ih, List.getLast?_cons]
    cases u.getLast? <;> rfl

/-- Where no word starts, the text is kept. -/
theorem dropQualifiersFrom_append {u t : Text} (prev : Option Char)
    (h : ∀ lead rest, u ++ t = lead ++ word ++ rest → u.length ≤ lead.length) :
    dropQualifiersFrom word prev 0 (u ++ t) =
      u ++ dropQualifiersFrom word (u.getLast?.or prev) 0 t := by
  induction u generalizing prev with
  | nil => simp
  | cons c u ih =>
    have hnot : word.isPrefixOf (c :: (u ++ t)) = false := by
      rw [Bool.eq_false_iff, ne_eq, List.isPrefixOf_iff_prefix]
      rintro ⟨rest, hrest⟩
      have hlength := h [] rest hrest.symm
      simp at hlength
    -- a place in the rest is a place in the whole, one character further on
    have htail : ∀ lead rest, u ++ t = lead ++ word ++ rest → u.length ≤ lead.length := by
      intro lead rest hcut
      have hlength := h (c :: lead) rest (congrArg (List.cons c) hcut)
      simpa using hlength
    rw [List.cons_append, dropQualifiersFrom, hnot, Bool.false_and, if_neg Bool.false_ne_true,
      ih (some c) htail, List.getLast?_cons, List.cons_append]
    cases u.getLast? <;> rfl

/-- At a place of the word, it is dropped if it is a qualifier and kept otherwise. -/
theorem dropQualifiersFrom_word (hword : Unbordered word) (prev : Option Char) (t : Text) :
    dropQualifiersFrom word prev 0 (word ++ t) =
      (if prev.any isIdentifierPart then word else []) ++
        dropQualifiersFrom word word.getLast? 0 t := by
  obtain ⟨c, w, rfl⟩ := List.exists_cons_of_ne_nil hword.ne_nil
  have hpre : (c :: w).isPrefixOf (c :: (w ++ t)) = true :=
    List.isPrefixOf_iff_prefix.mpr (List.prefix_append (c :: w) t)
  have hlast : (c :: w).getLast? = w.getLast?.or (some c) := by
    rw [List.getLast?_cons]
    cases w.getLast? <;> rfl
  rw [List.cons_append, dropQualifiersFrom, hpre, Bool.true_and, hlast]
  cases hprev : prev.any isIdentifierPart with
  | true =>
    -- the word does not start again before its end
    have hkeep := dropQualifiersFrom_append (some c) fun lead rest => hword.bars_tail lead rest t
    simpa using hkeep
  | false =>
    have hskip : dropQualifiersFrom (c :: w) (some c) w.length (w ++ t) =
        dropQualifiersFrom (c :: w) (w.getLast?.or (some c)) 0 t :=
      dropQualifiersFrom_skip (some c) w t
    simpa using hskip

/-- Dropping all words is dropping qualifiers exactly when all of them are. -/
theorem replaceAll_eq_dropQualifiersFrom_iff (hword : Unbordered word) (prev : Option Char)
    (t : Text) :
    (replaceAll word [] t).length ≤ (dropQualifiersFrom word prev 0 t).length ∧
      (replaceAll word [] t = dropQualifiersFrom word prev 0 t ↔
        ∀ lead rest, t = lead ++ word ++ rest →
          (lead.getLast?.or prev).any isIdentifierPart = false) := by
  by_cases h : word <:+: t
  · obtain ⟨before, after, hfirst⟩ := exists_isFirst h
    have hcut := hfirst.eq_append
    have hpos := List.length_pos_iff.mpr hword.ne_nil
    have hlength : after.length < t.length := by
      rw [hcut, List.length_append, List.length_append]
      omega
    obtain ⟨hle, hiff⟩ := replaceAll_eq_dropQualifiersFrom_iff hword word.getLast? after
    -- both sides keep what is before the first place
    have hdrop : dropQualifiersFrom word prev 0 t =
        before ++ ((if (before.getLast?.or prev).any isIdentifierPart then word else []) ++
          dropQualifiersFrom word word.getLast? 0 after) := by
      rw [hcut, List.append_assoc, dropQualifiersFrom_append prev, dropQualifiersFrom_word hword]
      intro lead rest h
      exact hfirst.least lead word rest (by rw [hcut, List.append_assoc, h]) rfl
    rw [replaceAll_of_isFirst hword.ne_nil [] hfirst, hdrop, List.append_nil]
    -- behind the first place, the word gives the character before
    have hlast : ∀ lead : Text, ((before ++ word ++ lead).getLast?.or prev) =
        lead.getLast?.or word.getLast? := by
      intro lead
      obtain ⟨c, hc⟩ : ∃ c, word.getLast? = some c :=
        ⟨_, List.getLast?_eq_some_getLast hword.ne_nil⟩
      rw [List.getLast?_append, List.getLast?_append, hc]
      cases lead.getLast? <;> rfl
    rw [hfirst.forall_places_iff hword]
    simp only [hlast, ← hiff]
    cases hbefore : (before.getLast?.or prev).any isIdentifierPart with
    | true =>
      -- the word is kept, so the two differ in length
      simp only [if_true, List.length_append, Bool.true_eq_false, false_and, iff_false]
      refine ⟨by omega, fun hsame => ?_⟩
      have hlengths := congrArg List.length hsame
      simp only [List.length_append] at hlengths
      omega
    | false =>
      simp only [Bool.false_eq_true, if_false, List.nil_append, List.length_append, true_and,
        List.append_cancel_left_eq, and_true]
      omega
  · -- without the word nothing is dropped
    have hkeep := dropQualifiersFrom_append (u := t) (t := []) prev fun lead rest hcut =>
      absurd ⟨lead, rest, by simpa using hcut.symm⟩ h
    rw [List.append_nil] at hkeep
    have hself : dropQualifiersFrom word prev 0 t = t := by simpa [dropQualifiersFrom] using hkeep
    rw [replaceAll_of_absent [] h, hself]
    refine ⟨Nat.le_refl _, iff_of_true rfl ?_⟩
    intro lead rest hcut
    exact absurd ⟨lead, rest, hcut.symm⟩ h
termination_by t.length

end DropQualifiers

/-! ## What is dropped -/

/-- A source with methods in place of static functions. -/
def withMethods (source : Text) : Text := replaceAll "class func".toList "func".toList source

/-- A source whose class has another base type. -/
def extending (baseType source : Text) : Text :=
  replaceAll ": NSObject \x7b".toList (": ".toList ++ baseType ++ " \x7b".toList) source

private theorem rebase_eq {source name : Text} (h : name? source = some name) (baseType : Text) :
    rebase source baseType =
      extending baseType (replaceAll (name ++ ['.']) [] (withMethods source)) := by
  unfold rebase
  rw [h]
  rfl

private theorem nil_intercalate (pieces : List Text) :
    ([] : Text).intercalate pieces = pieces.flatten := by
  induction pieces with
  | nil => rfl
  | cons p ps ih =>
    by_cases hnil : ps = []
    · subst hnil
      simp
    · rw [List.intercalate_cons_of_ne_nil hnil, ih, List.append_nil, List.flatten_cons]

/-- The class name and its dot are dropped at all places where they stand, and nothing else is
dropped.  This leaves what dropping qualifiers leaves exactly when all these places are behind no
part of an identifier: an identifier that merely ends in the class name loses its end. -/
theorem rebase_drops_words (source baseType name : Text) (h : name? source = some name) :
    ∃ pieces, PiecesBetween (name ++ ['.']) (withMethods source) pieces ∧
      rebase source baseType = extending baseType pieces.flatten ∧
      (∀ lead rest, CutBehind (name ++ ['.']) pieces lead rest ↔
        withMethods source = lead ++ (name ++ ['.']) ++ rest) ∧
      (pieces.flatten = dropQualifiers (name ++ ['.']) (withMethods source) ↔
        ∀ lead rest, withMethods source = lead ++ (name ++ ['.']) ++ rest →
          EndsNoIdentifier lead) := by
  have hword := unbordered_of_name? h
  obtain ⟨pieces, hpieces, hreplace⟩ := exists_piecesBetween hword.ne_nil (withMethods source)
  -- replacing by nothing runs the pieces together
  have hflatten : replaceAll (name ++ ['.']) [] (withMethods source) = pieces.flatten := by
    rw [hreplace [], nil_intercalate]
  refine ⟨pieces, hpieces, ?_, fun _ _ => (hpieces.append_iff hword).symm, ?_⟩
  · rw [rebase_eq h, hflatten]
  · rw [← hflatten, dropQualifiers, (replaceAll_eq_dropQualifiersFrom_iff hword none _).2]
    simp only [endsNoIdentifier_iff]

/-- A drawing that calls itself by its name. -/
def callingDrawing : Text :=
  "class Dots: NSObject \x7b\n    class func draw() \x7b Dots.dot(Dots.size) \x7d\n\x7d".toList

/-- The drawing loses its name in both calls, and keeps it where the class is declared. -/
theorem rebase_drops_words_calling :
    name? callingDrawing = some "Dots".toList ∧
    rebase callingDrawing "UIView".toList =
      "class Dots: UIView \x7b\n    func draw() \x7b dot(size) \x7d\n\x7d".toList ∧
    ∃ pieces, PiecesBetween ("Dots".toList ++ ['.']) (withMethods callingDrawing) pieces ∧
      rebase callingDrawing "UIView".toList = extending "UIView".toList pieces.flatten ∧
      (∀ lead rest, CutBehind ("Dots".toList ++ ['.']) pieces lead rest ↔
        withMethods callingDrawing = lead ++ ("Dots".toList ++ ['.']) ++ rest) ∧
      (pieces.flatten = dropQualifiers ("Dots".toList ++ ['.']) (withMethods callingDrawing) ↔
        ∀ lead rest, withMethods callingDrawing = lead ++ ("Dots".toList ++ ['.']) ++ rest →
          EndsNoIdentifier lead) := by
  have hname : name? callingDrawing = some "Dots".toList := by decide +kernel
  exact ⟨hname, by decide +kernel, rebase_drops_words callingDrawing "UIView".toList _ hname⟩

/-- A drawing that calls a class whose name ends in its own. -/
def otherCallDrawing : Text := "class Dots: NSObject \x7b\n    BigDots.draw()\n\x7d".toList

/-- The class name is cut off the name of another class. -/
theorem other_class_name_cut :
    name? otherCallDrawing = some "Dots".toList ∧
    otherCallDrawing = "class Dots: NSObject \x7b\n    Big".toList ++ ("Dots".toList ++ ['.']) ++
      "draw()\n\x7d".toList ∧
    ¬ EndsNoIdentifier "class Dots: NSObject \x7b\n    Big".toList ∧
    rebase otherCallDrawing "UIView".toList =
      "class Dots: UIView \x7b\n    Bigdraw()\n\x7d".toList := by
  refine ⟨by decide +kernel, by decide, ?_, by decide +kernel⟩
  rw [endsNoIdentifier_iff]
  decide +kernel

end LayerView.ViewClass
