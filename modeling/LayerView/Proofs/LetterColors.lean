import LayerView.Proofs.Exchanges
import LayerView.Proofs.Overlaps

/-!
# Colors of letters

The color that a line gives to the letters of a string is taken only if it is a literal.  Whether it
is one is asked of the whole line: somewhere on it an attribute has to have a color literal for its
value.  What is taken is the value of the first attribute.  On a line with several attributes these
can be different ones, and then any expression can be taken for a color, such as the `tint` of a
first attribute before a second one with a literal.

So the colors of letters in a source are literals exactly when no line with a label misleads the
pass in this way, and a line with a single attribute never does.

Main statements:
- `UpToFirst.prefix_iff`: how the part before a word starts
- `misleads_iff`: the lines on which another attribute has the literal
- `mem_textColors_iff`: the colors of letters that are found
- `text_colors_are_literals_iff`: when all of them are literals
- `tint_taken_for_literal`: an expression that is taken for a color
-/

namespace LayerView

open LayerView.Text

/-! ## How a literal starts -/

/-- What comes before the first place of a word starts like the whole text, as far as the word does
not start in it. -/
theorem Text.UpToFirst.prefix_iff {needle t part w : Text} (hw : Bars w needle)
    (h : UpToFirst needle t part) : w <+: part ↔ w <+: t := by
  refine ⟨fun hpart => hpart.trans h.isPrefix, fun ht => ?_⟩
  cases h with
  | absent hnone => exact ht
  | found hfirst =>
    obtain ⟨rest, rfl⟩ := ht
    -- the word does not start within `w`, so `w` is before it
    have hlength := hw _ _ rest hfirst.eq_append
    have hpart := (UpToFirst.found hfirst).isPrefix
    exact List.prefix_of_prefix_length_le (List.prefix_append w rest) hpart hlength

/-- A literal starts like all that is behind the first left delimiter of its line. -/
theorem Delimited.Takes.prefix_iff {d : Delimited} {line text lead rest w : Text}
    (h : d.Takes line text) (hfirst : IsFirst (· = d.left) line lead d.left rest)
    (hleft : Bars w d.left) (hright : Bars w d.right) : w <+: text ↔ w <+: rest := by
  obtain ⟨-, lead', segment, ⟨rest', hfirst', hsegment⟩, htext⟩ := h
  -- the line has one first left delimiter
  obtain ⟨rfl, rfl⟩ : lead = lead' ∧ rest = rest' := by
    have hsame := (isFirst_eq_iff.mp hfirst).symm.trans (isFirst_eq_iff.mp hfirst')
    exact Prod.mk.inj (Option.some.inj hsame)
  rw [htext.prefix_iff hright, hsegment.prefix_iff hleft]

namespace Pass

/-- How a color literal starts. -/
def colorWord : Text := "UIColor".toList

/-- A literal for the color of letters is the attribute with the word for a color right behind it.
-/
private theorem foregroundLiteral_eq : foregroundLiteral = foreground.left ++ colorWord := by decide

theorem unbordered_foreground : Unbordered foreground.left := ⟨by decide, .of_check (by decide)⟩

/-- Whether a value is a literal is told by what follows the first attribute of the line. -/
theorem colorWord_prefix_iff {line value lead rest : Text} (h : foreground.Takes line value)
    (hfirst : IsFirst (· = foreground.left) line lead foreground.left rest) :
    colorWord <+: value ↔ colorWord <+: rest :=
  h.prefix_iff hfirst (.of_check (by decide)) (.of_check (by decide))

/-! ## Lines that mislead -/

/-- A line whose first attribute has a value that is no literal, with a literal for the value of an
attribute behind it. -/
structure Misleads (line value : Text) : Prop where
  takes : foreground.Takes line value
  foreign : ¬ colorWord <+: value
  later : ∃ lead gap rest, IsFirst (· = foreground.left) line lead foreground.left
    (gap ++ (foreground.left ++ colorWord) ++ rest)

/-- A value that is taken on a line with a literal is that literal, or the line misleads. -/
theorem misleads_iff {line value : Text} :
    Misleads line value ↔
      foreground.Takes line value ∧ foregroundLiteral <:+: line ∧ ¬ colorWord <+: value := by
  rw [foregroundLiteral_eq]
  constructor
  · rintro ⟨htakes, hforeign, lead, gap, rest, hfirst⟩
    refine ⟨htakes, ⟨lead ++ foreground.left ++ gap, rest, ?_⟩, hforeign⟩
    rw [hfirst.eq_append]
    simp only [List.append_assoc]
  · rintro ⟨htakes, ⟨front, tail, hliteral⟩, hforeign⟩
    have hkeep := htakes
    obtain ⟨-, lead, segment, ⟨rest, hfirst, -⟩, -⟩ := hkeep
    refine ⟨htakes, hforeign, lead, ?_⟩
    have hcut : line = front ++ foreground.left ++ (colorWord ++ tail) := by
      rw [← hliteral]
      simp only [List.append_assoc]
    -- the literal is not before the first attribute, nor its value
    rcases append_self_cases unbordered_foreground (hfirst.eq_append.symm.trans hcut) with
      ⟨gap, hgap, -⟩ | ⟨-, hrest⟩ | ⟨gap, -, hrest⟩
    · -- before the first attribute there is no other
      have hle := hfirst.least front foreground.left _ hcut rfl
      have hpos := List.length_pos_iff.mpr unbordered_foreground.ne_nil
      rw [hgap, List.length_append, List.length_append] at hle
      omega
    · -- nor is it that attribute itself, or the value would be a literal
      rw [colorWord_prefix_iff htakes hfirst, ← hrest] at hforeign
      exact absurd (List.prefix_append _ _) hforeign
    · refine ⟨gap, tail, ?_⟩
      rw [← List.append_assoc gap, List.append_assoc _ colorWord, ← hrest]
      exact hfirst

/-- A line with one attribute only does not mislead. -/
private theorem not_misleads_of_unique {line value lead : Text}
    (hunique : ∀ lead' rest', line = lead' ++ foreground.left ++ rest' → lead' = lead) :
    ¬ Misleads line value := by
  rintro ⟨-, -, front, gap, tail, hfirst⟩
  -- a second attribute would stand further on than the first
  have hcut : line = front ++ foreground.left ++ gap ++ foreground.left ++ (colorWord ++ tail) := by
    rw [hfirst.eq_append]
    simp only [List.append_assoc]
  have hsame : front = front ++ foreground.left ++ gap :=
    (hunique _ _ hfirst.eq_append).trans (hunique _ _ hcut).symm
  have hlength := congrArg List.length hsame
  have hpos := List.length_pos_iff.mpr unbordered_foreground.ne_nil
  rw [List.length_append, List.length_append] at hlength
  omega

/-! ## The pass -/

private theorem mem_findings_colors_iff {mark source : Text} {v : ColorVariable} :
    v ∈ Edit.findings (colors mark source) ↔ ∃ l ∈ locatedLines source, ∃ c,
      ColorOn l.line v.use c ∧ Caption.labelBefore? mark source l.offset = some v.layer.label ∧
        v.color = c.text := by
  unfold colors
  simp only [LiteralKind.mem_findings_edits_iff, LiteralKind.at?_eq_some_iff, colorOn_iff]
  apply exists_congr
  intro l
  apply and_congr_right
  intro _
  apply exists_congr
  intro c
  constructor
  · rintro ⟨use, label, hfind, hlabel, rfl⟩
    exact ⟨hfind, hlabel, rfl⟩
  · rintro ⟨hfind, hlabel, hcolor⟩
    -- a variable is no more than its layer, its use and its color
    refine ⟨v.use, v.layer.label, hfind, hlabel, ?_⟩
    rw [← hcolor]
    rfl

/-- The colors of letters that are found in a source: on each line with a label and a literal, the
value of the first attribute. -/
theorem mem_textColors_iff {mark source : Text} {v : ColorVariable} (huse : v.use = .text) :
    v ∈ Edit.findings (colors mark source) ↔
      ∃ l ∈ locatedLines source, Caption.labelBefore? mark source l.offset = some v.layer.label ∧
        foregroundLiteral <:+: l.line ∧ foreground.Takes l.line v.color := by
  simp only [mem_findings_colors_iff, huse, Delimited.takes_iff]
  constructor
  · rintro ⟨l, hl, c, hcolor, hlabel, htext⟩
    cases hcolor with
    | text hliteral hfind => exact ⟨l, hl, hlabel, hliteral, c, hfind, htext.symm⟩
  · rintro ⟨l, hl, hlabel, hliteral, c, hfind, htext⟩
    exact ⟨l, hl, c, .text hliteral hfind, hlabel, htext.symm⟩

/-- Every color of letters that is found in a source is a literal exactly when no line that belongs
to a layer misleads the pass.  What is found is, for each line of a layer with a literal somewhere on
it, the value of its first attribute.  It is a literal if the word for one is right behind that
attribute, and it always is on a line with no other. -/
theorem text_colors_are_literals_iff (mark source : Text) :
    (∀ v : ColorVariable, v.use = .text →
      (v ∈ Edit.findings (colors mark source) ↔
        ∃ l ∈ locatedLines source, Caption.labelBefore? mark source l.offset = some v.layer.label ∧
          foregroundLiteral <:+: l.line ∧ foreground.Takes l.line v.color)) ∧
    ((∀ v ∈ Edit.findings (colors mark source), v.use = .text → colorWord <+: v.color) ↔
      ∀ l ∈ locatedLines source, (Caption.labelBefore? mark source l.offset).isSome →
        ∀ value, ¬ Misleads l.line value) ∧
    (∀ line value lead rest, foreground.Takes line value →
      IsFirst (· = foreground.left) line lead foreground.left rest →
      (colorWord <+: value ↔ colorWord <+: rest)) ∧
    ∀ line lead, (∀ lead' rest', line = lead' ++ foreground.left ++ rest' → lead' = lead) →
      ∀ value, ¬ Misleads line value := by
  refine ⟨fun v => mem_textColors_iff, ⟨?_, ?_⟩, ?_, ?_⟩
  · -- a line that misleads has a value found on it that is no literal
    intro h l hl hlabel value hmisleads
    obtain ⟨label, hlabel⟩ := Option.isSome_iff_exists.mp hlabel
    obtain ⟨htakes, hliteral, hforeign⟩ := misleads_iff.mp hmisleads
    have hmem := (mem_textColors_iff (v := ⟨⟨label⟩, value, .text⟩) rfl).mpr
      ⟨l, hl, hlabel, hliteral, htakes⟩
    exact hforeign (h _ hmem rfl)
  · intro h v hv huse
    obtain ⟨l, hl, hlabel, hliteral, htakes⟩ := (mem_textColors_iff huse).mp hv
    by_contra hforeign
    exact h l hl (Option.isSome_of_eq_some hlabel) v.color
      (misleads_iff.mpr ⟨htakes, hliteral, hforeign⟩)
  · exact fun line value lead rest htakes hfirst => colorWord_prefix_iff htakes hfirst
  · exact fun line lead hunique value => not_misleads_of_unique hunique

/-- A line with two attributes, of which the second has a color literal. -/
def twoAttributes : Text :=
  ("/// Label\na.addAttribute(.foregroundColor, value: tint, range: r); " ++
    "b.addAttribute(.foregroundColor, value: UIColor.red, range: r)").toList

/-- The value of the first attribute is taken, which is no literal. -/
theorem tint_taken_for_literal :
    Edit.findings (colors Caption.swiftMark twoAttributes) =
      [⟨⟨"Label".toList⟩, "tint".toList, .text⟩] ∧
    ¬ colorWord <+: "tint".toList := by
  decide +kernel

end Pass

end LayerView
