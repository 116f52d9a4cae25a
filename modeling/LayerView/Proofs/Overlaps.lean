import LayerView.Proofs.CapturedLiterals

/-!
# Words that keep apart

A search takes the first place where a word stands, and that place need not be the one that was
meant: the word can also stand across the end of the part in front.  It cannot if it never starts
inside what follows.  This is stated here for two words, as a property that a check over the ends of
the one can settle, and used to tell where a word stands in a text that is put together from parts.

Main statements:
- `Bars.of_check`: the check
- `append_word_cases`, `append_self_cases`: where a word stands in a text with another in its middle
- `isFirst_append`: the first place of a word behind a text without it
- `Delimited.find?_of_isFirst`: the literal that is captured between such delimiters
- `Delimited.encloses_iff`: the literals that are closed
-/

namespace LayerView.Text

/-- No `w` starts inside `t`, whatever follows `t`. -/
def Bars (t w : Text) : Prop :=
  ∀ lead tail rest, t ++ rest = lead ++ w ++ tail → t.length ≤ lead.length

/-- Whether every end of a text differs from a word at once, so that neither continues the other. -/
def barsCheck (w : Text) : Text → Bool
  | [] => true
  | c :: t => !(c :: t).isPrefixOf w && !w.isPrefixOf (c :: t) && barsCheck w t

/-- The check compares the word with each end of the text as far as both go. -/
theorem Bars.of_check {t w : Text} (h : barsCheck w t = true) : Bars t w := by
  induction t with
  | nil => exact fun _ _ _ _ => Nat.zero_le _
  | cons c t ih =>
    simp only [barsCheck, Bool.and_eq_true, Bool.not_eq_true', Bool.eq_false_iff, ne_eq,
      List.isPrefixOf_iff_prefix] at h
    obtain ⟨⟨hshort, hlong⟩, hrest⟩ := h
    intro lead tail rest hcut
    cases lead with
    | nil =>
      -- here one of the two would continue the other
      have hword : w <+: c :: t ++ rest := ⟨tail, hcut.symm⟩
      rcases List.prefix_or_prefix_of_prefix hword (List.prefix_append _ rest) with hw | hw
      · exact absurd hw hlong
      · exact absurd hw hshort
    | cons d lead =>
      have htail : t ++ rest = lead ++ w ++ tail := (List.cons.inj hcut).2
      exact Nat.succ_le_succ (ih hrest lead tail rest htail)

/-- A word that stands behind the start of `t` stands behind all of it. -/
theorem Bars.exists_behind {t w y lead rest : Text} (h : Bars t w)
    (hcut : t ++ y = lead ++ w ++ rest) :
    ∃ gap, lead = t ++ gap ∧ y = gap ++ w ++ rest := by
  have hlength := h lead rest y hcut
  rw [List.append_assoc] at hcut
  rcases List.append_eq_append_iff.mp hcut with ⟨gap, rfl, hy⟩ | ⟨gap, rfl, hrest⟩
  · exact ⟨gap, rfl, by rw [hy, List.append_assoc]⟩
  · -- `t` is not longer than what leads up to the word
    obtain rfl : gap = [] := by
      rw [List.length_append] at hlength
      exact List.length_eq_zero_iff.mp (by omega)
    exact ⟨[], by simp, by simpa using hrest.symm⟩

/-- A word stands before another one or behind it, if neither can start inside the other. -/
theorem append_word_cases {t w x y lead rest : Text} (hw : Bars t w) (ht : Bars w t)
    (h : x ++ t ++ y = lead ++ w ++ rest) :
    (∃ gap, x = lead ++ w ++ gap ∧ rest = gap ++ t ++ y) ∨
      ∃ gap, lead = x ++ t ++ gap ∧ y = gap ++ w ++ rest := by
  rw [List.append_assoc, List.append_assoc] at h
  rcases List.append_eq_append_iff.mp h with ⟨front, rfl, hcut⟩ | ⟨front, rfl, hcut⟩
  · -- the word starts behind the text in front
    rw [← List.append_assoc] at hcut
    obtain ⟨gap, rfl, hy⟩ := hw.exists_behind hcut
    exact Or.inr ⟨gap, by simp, hy⟩
  · -- the word starts in the text in front, and ends there
    rw [← List.append_assoc] at hcut
    obtain ⟨gap, rfl, hrest⟩ := ht.exists_behind hcut
    exact Or.inl ⟨gap, by simp, hrest⟩

/-! ## Words that do not overlap themselves -/

/-- A word that is not empty and does not start again before its end. -/
structure Unbordered (w : Text) : Prop where
  ne_nil : w ≠ []
  bars_tail : Bars w.tail w

/-- A character is barred by a word without it. -/
theorem bars_of_notMem {c : Char} {w : Text} (hc : c ∉ w) : Bars w [c] := by
  intro lead tail rest hcut
  rw [List.append_assoc] at hcut
  rcases List.append_eq_append_iff.mp hcut with ⟨gap, rfl, -⟩ | ⟨gap, rfl, hgap⟩
  · simp
  · cases gap with
    | nil => simp
    | cons d gap =>
      -- the character would stand in the word
      obtain ⟨rfl, -⟩ := List.cons.inj hgap
      exact absurd (by simp) hc

theorem bars_singleton {c : Char} {w : Text} (hc : c ∉ w) (hw : w ≠ []) : Bars [c] w := by
  intro lead tail rest hcut
  cases lead with
  | nil =>
    obtain ⟨d, w, rfl⟩ := List.exists_cons_of_ne_nil hw
    obtain ⟨rfl, -⟩ := List.cons.inj hcut
    exact absurd List.mem_cons_self hc
  | cons d lead => simp

/-- A word that ends in its only character of a kind does not overlap itself. -/
theorem unbordered_concat {c : Char} {w : Text} (hc : c ∉ w) : Unbordered (w ++ [c]) := by
  refine ⟨by simp, ?_⟩
  cases w with
  | nil => exact fun _ _ _ _ => Nat.zero_le _
  | cons d w =>
    intro lead tail rest hcut
    have hword : w ++ [c] ++ rest = lead ++ (d :: w) ++ ([c] ++ tail) := by simpa using hcut
    have hbars := bars_singleton hc (List.cons_ne_nil d w)
    rcases append_word_cases hbars (bars_of_notMem hc) hword with ⟨gap, hgap, -⟩ | ⟨gap, rfl, -⟩
    · -- the word is longer than what is left of it behind its start
      have hlength := congrArg List.length hgap
      simp only [List.length_append, List.length_cons] at hlength
      omega
    · simp

/-- Of two places of a word the later one is behind the end of the earlier one. -/
theorem Unbordered.exists_behind {w y lead rest : Text} (hw : Unbordered w) (hlead : lead ≠ [])
    (hcut : w ++ y = lead ++ w ++ rest) :
    ∃ gap, lead = w ++ gap ∧ y = gap ++ w ++ rest := by
  obtain ⟨c, t, rfl⟩ := List.exists_cons_of_ne_nil hw.ne_nil
  obtain ⟨d, lead, rfl⟩ := List.exists_cons_of_ne_nil hlead
  obtain ⟨rfl, htail⟩ := List.cons.inj hcut
  -- behind its first character the word is barred
  obtain ⟨gap, rfl, hy⟩ := hw.bars_tail.exists_behind htail
  exact ⟨gap, rfl, hy⟩

/-- A word stands before a place where it stands, at it, or behind it. -/
theorem append_self_cases {w x y lead rest : Text} (hw : Unbordered w)
    (h : x ++ w ++ y = lead ++ w ++ rest) :
    (∃ gap, x = lead ++ w ++ gap ∧ rest = gap ++ w ++ y) ∨ (lead = x ∧ rest = y) ∨
      ∃ gap, lead = x ++ w ++ gap ∧ y = gap ++ w ++ rest := by
  rw [List.append_assoc, List.append_assoc] at h
  rcases List.append_eq_append_iff.mp h with ⟨front, rfl, hcut⟩ | ⟨front, rfl, hcut⟩
  · -- the two places differ by what is between their starts
    by_cases hnil : front = []
    · subst hnil
      exact Or.inr (Or.inl ⟨by simp, (List.append_cancel_left hcut).symm⟩)
    · rw [← List.append_assoc] at hcut
      obtain ⟨gap, rfl, hy⟩ := hw.exists_behind hnil hcut
      exact Or.inr (Or.inr ⟨gap, by simp, hy⟩)
  · by_cases hnil : front = []
    · subst hnil
      exact Or.inr (Or.inl ⟨by simp, List.append_cancel_left hcut⟩)
    · rw [← List.append_assoc] at hcut
      obtain ⟨gap, rfl, hrest⟩ := hw.exists_behind hnil hcut
      exact Or.inl ⟨gap, by simp, hrest⟩

/-- A word behind a text without it is the first, if it does not overlap itself. -/
theorem isFirst_append {w x : Text} (hw : Unbordered w) (hx : ¬ w <:+: x) (y : Text) :
    IsFirst (· = w) (x ++ w ++ y) x w y where
  eq_append := rfl
  holds := rfl
  least := by
    rintro lead mid rest hcut rfl
    rcases append_self_cases hw hcut with ⟨gap, hgap, -⟩ | ⟨rfl, -⟩ | ⟨gap, rfl, -⟩
    · exact absurd ⟨lead, gap, hgap.symm⟩ hx
    · exact Nat.le_refl _
    · simp only [List.length_append]
      omega

end LayerView.Text

namespace LayerView

open LayerView.Text

/-! ## Literals between delimiters -/

namespace Delimited

variable {d : Delimited} {line lead text rest gap : Text}

/-- The literal is captured if the right delimiter behind it is the first of its segment. -/
theorem find?_of_isFirst (hleft : IsFirst (· = d.left) line lead d.left (text ++ d.right ++ rest))
    (hsegment : UpToFirst d.left (text ++ d.right ++ rest) (text ++ d.right ++ gap))
    (hright : IsFirst (· = d.right) (text ++ d.right ++ gap) text d.right gap) (hne : text ≠ []) :
    d.find? line = some ⟨lead ++ d.left, text, d.right ++ rest, true⟩ := by
  have hcut : cutBefore d.right (text ++ d.right ++ gap) = (text, d.right ++ gap, true) := by
    rw [cutBefore, isFirst_eq_iff.mp hright]
  -- what is cut off behind the segment is the end of the rest
  obtain ⟨⟨beyond, found⟩, hbeyond⟩ : ∃ beyond, cutBefore d.left (text ++ d.right ++ rest) =
      (text ++ d.right ++ gap, beyond) := ⟨_, by rw [← upToFirst_iff.mp hsegment]⟩
  have hrest : gap ++ beyond = rest := by
    have happend := cutBefore_append d.left (text ++ d.right ++ rest)
    rw [hbeyond, List.append_assoc] at happend
    exact List.append_cancel_left happend
  have hempty : text.isEmpty = false := by simpa using hne
  simp only [find?, isFirst_eq_iff.mp hleft, Option.bind_eq_bind, Option.bind_some, hbeyond, hcut,
    hempty, Bool.false_eq_true, if_false]
  rw [List.append_assoc, hrest]

/-- A literal that stands between the first left delimiter of a line and a right one. -/
structure Encloses (d : Delimited) (line text : Text) : Prop where
  text_ne_nil : text ≠ []
  left_not_infix : ¬ d.left <:+: text
  right_not_infix : ¬ d.right <:+: text
  stands : ∃ lead rest, IsFirst (· = d.left) line lead d.left (text ++ d.right ++ rest)

/-- Neither delimiter starts inside the other, and the right one does not overlap itself. -/
structure KeepApart (d : Delimited) : Prop where
  left_bars : Bars d.left d.right
  right_bars : Bars d.right d.left
  right_unbordered : Unbordered d.right

/-- The segment behind the left delimiter reaches beyond the right one. -/
theorem exists_segment (hd : d.KeepApart) (hleft : ¬ d.left <:+: text) (rest : Text) :
    ∃ gap, UpToFirst d.left (text ++ d.right ++ rest) (text ++ d.right ++ gap) := by
  by_cases hnext : d.left <:+: text ++ d.right ++ rest
  · obtain ⟨lead, after, hfirst⟩ := exists_isFirst hnext
    rcases append_word_cases hd.right_bars hd.left_bars hfirst.eq_append with
      ⟨gap, hgap, -⟩ | ⟨gap, hgap, -⟩
    · exact absurd ⟨lead, gap, hgap.symm⟩ hleft
    · subst hgap
      exact ⟨gap, .found hfirst⟩
  · exact ⟨rest, .absent hnext⟩

/-- The literals that are enclosed are those that are captured and closed. -/
theorem encloses_iff (hd : d.KeepApart) :
    d.Encloses line text ↔ ∃ c, d.find? line = some c ∧ c.text = text ∧ c.closed = true := by
  constructor
  · rintro ⟨hne, hleft, hright, lead, rest, hfirst⟩
    obtain ⟨gap, hsegment⟩ := exists_segment hd hleft rest
    have hclose := isFirst_append hd.right_unbordered hright gap
    exact ⟨_, find?_of_isFirst hfirst hsegment hclose hne, rfl, rfl⟩
  · rintro ⟨c, hfind, rfl, hclosed⟩
    obtain ⟨lead, segment, ⟨rest, hfirst, hsegment⟩, hmatches⟩ := matches_of_find? hfind
    refine ⟨hmatches.text_ne_nil, hmatches.left_not_infix, hmatches.right_not_infix, lead, ?_⟩
    -- the literal and the right delimiter are the start of the segment, and so of the rest
    obtain ⟨tail, htail⟩ : c.text ++ d.right <+: rest := by
      have hstart : c.text ++ d.right <+: segment := by
        cases hmatches.upTo_right with
        | found hright =>
          rw [hright.eq_append]
          exact List.prefix_append _ _
        | absent hnone => exact absurd (hmatches.closed_iff.mp hclosed) hnone
      exact hstart.trans hsegment.isPrefix
    exact ⟨tail, by rwa [htail]⟩

theorem Encloses.takes (hd : d.KeepApart) (h : d.Encloses line text) : d.Takes line text := by
  obtain ⟨c, hfind, htext, -⟩ := (encloses_iff hd).mp h
  exact takes_iff.mpr ⟨c, hfind, htext⟩

/-- A literal that is taken is enclosed unless it is left open. -/
theorem Takes.encloses_iff (hd : d.KeepApart) (h : d.Takes line text) :
    d.Encloses line text ↔ ¬ d.LeavesOpen line := by
  obtain ⟨c, hfind, htext⟩ := takes_iff.mp h
  rw [Delimited.encloses_iff hd, ← closed_iff_not_leavesOpen hfind]
  constructor
  · rintro ⟨c', hfind', -, hclosed⟩
    obtain rfl := Option.some.inj (hfind.symm.trans hfind')
    exact hclosed
  · exact fun hclosed => ⟨c, hfind, htext, hclosed⟩

theorem Encloses.isInfix (h : d.Encloses line text) : d.left ++ text ++ d.right <:+: line := by
  obtain ⟨lead, rest, hfirst⟩ := h.stands
  exact ⟨lead, rest, by rw [hfirst.eq_append]; simp⟩

end Delimited

end LayerView
