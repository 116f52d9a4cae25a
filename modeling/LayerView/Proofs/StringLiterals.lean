import LayerView.Proofs.Exchanges
import LayerView.Proofs.Overlaps

/-!
# String literals and where they end

A string literal is taken to end at the first quote with a closing parenthesis behind it.  In the
characters of a literal a quote stands only behind a backslash, but a parenthesis may follow it:
the literal `"(say \"hi\")"` is cut inside, and what is left of it stays on the line.  There is one
other way to miss a literal.  If its characters end like the call that starts an attributed string,
then its last quote is taken to start another literal, and it is not found to be closed.

In all other cases the literal is found as it is, with all its escapes.

Main statements:
- `StringBody.exists_backslash`: a quote in a literal is escaped
- `StringBody.exists_segment`: how far the search for the end of a literal looks
- `find?_of_clean`, `find?_of_cut`, `text?_of_hidden`: the three cases for one line
- `string_literal_extracted`: what the pass over texts makes of a literal
- `escaped_quote_cuts_literal`: a literal that is cut
-/

namespace LayerView.Pass

open LayerView.Text

/-! ## The characters of a literal -/

/-- The characters between the quotes of a string literal: a backslash takes the next character with
it, and there is no quote but behind such a backslash. -/
inductive StringBody : Text → Prop where
  | nil : StringBody []
  | plain {c : Char} {b : Text} (hquote : c ≠ '"') (hescape : c ≠ '\\') (hb : StringBody b) :
    StringBody (c :: b)
  | escaped (c : Char) {b : Text} (hb : StringBody b) : StringBody ('\\' :: c :: b)

/-- Whether these are the characters of a literal. -/
def isStringBody : Text → Bool
  | [] => true
  | ['\\'] => false
  | '\\' :: _ :: b => isStringBody b
  | c :: b => c != '"' && isStringBody b

/-- The check reads a literal as its grammar does. -/
theorem stringBody_iff {b : Text} : StringBody b ↔ isStringBody b = true := by
  constructor
  · intro h
    induction h with
    | nil => rfl
    | plain hquote hescape _ ih => simp [isStringBody, hquote, hescape, ih]
    | escaped c _ ih => simpa [isStringBody] using ih
  · intro h
    fun_induction isStringBody b with
    | case1 => exact .nil
    | case2 => cases h
    | case3 c b ih => exact .escaped c (ih h)
    | case4 c b hlast hmore ih =>
      obtain ⟨hquote, hb⟩ := Bool.and_eq_true_iff.mp h
      -- a backslash would have been read by another case
      have hescape : c ≠ '\\' := by
        rintro rfl
        cases b with
        | nil => exact hlast rfl rfl
        | cons d b => exact hmore d b rfl rfl
      exact .plain (by simpa using hquote) hescape (ih hb)

instance : DecidablePred StringBody := fun _ => decidable_of_iff _ stringBody_iff.symm

/-- What comes before a quote in a literal ends in a backslash. -/
theorem StringBody.exists_backslash {b x y : Text} (h : StringBody b) (hb : b = x ++ '"' :: y) :
    ∃ front, x = front ++ ['\\'] := by
  induction h generalizing x with
  | nil => simp at hb
  | @plain c b hquote hescape _ ih =>
    cases x with
    | nil => exact absurd (List.cons.inj hb).1 hquote
    | cons d x =>
      obtain ⟨front, rfl⟩ := ih (List.cons.inj hb).2
      exact ⟨d :: front, rfl⟩
  | @escaped c b _ ih =>
    cases x with
    | nil => simp at hb
    | cons d x =>
      obtain ⟨rfl, hrest⟩ := List.cons.inj hb
      cases x with
      -- the quote is the character that the backslash takes with it
      | nil => exact ⟨[], rfl⟩
      | cons e x =>
        obtain ⟨front, rfl⟩ := ih (List.cons.inj hrest).2
        exact ⟨'\\' :: e :: front, rfl⟩

/-! ## The delimiters -/

/-- The call that starts an attributed string, up to the quote. -/
def attributedOpening : Text := "NSMutableAttributedString(string: ".toList

theorem left_stringLiteral : stringLiteral.left = attributedOpening ++ ['"'] := by decide

theorem right_stringLiteral : stringLiteral.right = ['"', ')'] := by decide

theorem quote_notMem_attributedOpening : '"' ∉ attributedOpening := by decide

private theorem unbordered_left : Unbordered stringLiteral.left := by
  rw [left_stringLiteral]
  exact unbordered_concat quote_notMem_attributedOpening

theorem unbordered_right : Unbordered stringLiteral.right := ⟨by decide, .of_check (by decide)⟩

/-- Behind the characters of a literal and its quote, another literal seems to start with that quote
or starts behind it. -/
private theorem StringBody.places_of_left {b z lead rest : Text} (h : StringBody b)
    (hcut : b ++ '"' :: z = lead ++ stringLiteral.left ++ rest) :
    b = lead ++ attributedOpening ∨
      ∃ gap, lead = b ++ '"' :: gap ∧ z = gap ++ stringLiteral.left ++ rest := by
  have hquotes : b ++ '"' :: z = lead ++ attributedOpening ++ '"' :: rest := by
    rw [hcut, left_stringLiteral]
    simp only [List.append_assoc, List.singleton_append]
  rcases List.append_eq_append_iff.mp hquotes with ⟨more, hlead, hz⟩ | ⟨more, hb, hrest⟩
  · cases more with
    | nil => exact Or.inl (by simpa using hlead.symm)
    | cons c more =>
      -- the quote of the literal is not in the opening, so it is before it
      obtain ⟨rfl, htail⟩ := List.cons.inj hz
      have hword : b ++ ['"'] ++ more = lead ++ attributedOpening ++ [] := by simpa using hlead.symm
      have hbars := bars_singleton quote_notMem_attributedOpening (by decide)
      rcases append_word_cases hbars (bars_of_notMem quote_notMem_attributedOpening) hword with
        ⟨gap, -, hnil⟩ | ⟨gap, rfl, rfl⟩
      · simp at hnil
      · refine Or.inr ⟨gap, by simp, ?_⟩
        rw [htail, left_stringLiteral]
        simp
  · cases more with
    | nil => exact Or.inl (by simpa using hb)
    | cons c more =>
      -- the opening ends in a blank, and a quote of the literal is behind a backslash
      obtain ⟨rfl, -⟩ := List.cons.inj hrest
      obtain ⟨front, hfront⟩ := h.exists_backslash hb
      have hlast : (lead ++ attributedOpening).getLast? = some ' ' := by
        rw [List.getLast?_append_of_ne_nil lead (by decide)]
        decide
      rw [hfront] at hlast
      simp at hlast

/-- The segment of a line behind the left delimiter: it reaches beyond the literal, unless this ends
like the opening of another. -/
theorem StringBody.exists_segment {b : Text} (h : StringBody b) (s : Text) :
    ∃ segment, UpToFirst stringLiteral.left (b ++ stringLiteral.right ++ s) segment ∧
      ((¬ attributedOpening <:+ b ∧ ∃ gap, segment = b ++ stringLiteral.right ++ gap) ∨
        b = segment ++ attributedOpening) := by
  have hquote : b ++ stringLiteral.right ++ s = b ++ '"' :: (')' :: s) := by
    simp [right_stringLiteral]
  by_cases hleft : stringLiteral.left <:+: b ++ stringLiteral.right ++ s
  · obtain ⟨lead, rest, hfirst⟩ := exists_isFirst hleft
    refine ⟨lead, .found hfirst, ?_⟩
    rcases h.places_of_left (hquote.symm.trans hfirst.eq_append) with hb | ⟨gap, rfl, hgap⟩
    · exact Or.inr hb
    · cases gap with
      | nil =>
        -- the parenthesis is not the start of the delimiter
        rw [left_stringLiteral] at hgap
        exact absurd (List.cons.inj hgap).1 (by decide)
      | cons c gap =>
        obtain ⟨rfl, -⟩ := List.cons.inj hgap
        refine Or.inl ⟨?_, gap, by simp [right_stringLiteral]⟩
        rintro ⟨front, rfl⟩
        -- the quote would be the first place, and it is before this one
        have hle := hfirst.least front stringLiteral.left (')' :: s)
          (by simp [left_stringLiteral, right_stringLiteral]) rfl
        simp only [List.length_append] at hle
        have hpos : 0 < attributedOpening.length := by decide
        omega
  · refine ⟨_, .absent hleft, Or.inl ⟨?_, s, rfl⟩⟩
    rintro ⟨front, rfl⟩
    exact hleft ⟨front, ')' :: s, by simp [left_stringLiteral, right_stringLiteral]⟩

/-! ## The three cases -/

section Line

variable {p b s : Text}

theorem isFirst_left (hp : ¬ stringLiteral.left <:+: p) (rest : Text) :
    IsFirst (· = stringLiteral.left) (p ++ stringLiteral.left ++ rest) p stringLiteral.left rest :=
  isFirst_append unbordered_left hp rest

/-- A literal without an escaped quote before a parenthesis, and that does not end like the opening
of another, is captured as it is. -/
theorem find?_of_clean (hp : ¬ stringLiteral.left <:+: p) (hbody : StringBody b) (hne : b ≠ [])
    (hright : ¬ stringLiteral.right <:+: b) (hopening : ¬ attributedOpening <:+ b) :
    stringLiteral.find? (p ++ stringLiteral.left ++ (b ++ stringLiteral.right ++ s)) =
      some ⟨p ++ stringLiteral.left, b, stringLiteral.right ++ s, true⟩ := by
  obtain ⟨segment, hsegment, ⟨-, gap, rfl⟩ | hb⟩ := hbody.exists_segment s
  · -- the segment reaches beyond the literal, whose closing is then the first
    exact Delimited.find?_of_isFirst (isFirst_left hp _) hsegment
      (isFirst_append unbordered_right hright gap) hne
  · exact absurd ⟨segment, hb.symm⟩ hopening

/-- A literal with an escaped quote before a parenthesis is captured up to the first such quote. -/
theorem find?_of_cut {u v : Text} (hp : ¬ stringLiteral.left <:+: p) (hbody : StringBody b)
    (hcut : IsFirst (· = stringLiteral.right) b u stringLiteral.right v) :
    stringLiteral.find? (p ++ stringLiteral.left ++ (b ++ stringLiteral.right ++ s)) =
      some ⟨p ++ stringLiteral.left, u, stringLiteral.right ++ (v ++ stringLiteral.right ++ s),
        true⟩ := by
  have hb := hcut.eq_append
  -- there is a backslash before the quote
  have hne : u ≠ [] := by
    obtain ⟨front, rfl⟩ := hbody.exists_backslash (x := u) (y := ')' :: v)
      (by rw [hb, right_stringLiteral]; simp)
    simp
  have hright : ¬ stringLiteral.right <:+: u := (UpToFirst.found hcut).not_contained hne
  have hrest : b ++ stringLiteral.right ++ s =
      u ++ stringLiteral.right ++ (v ++ stringLiteral.right ++ s) := by
    rw [hb]
    simp only [List.append_assoc]
  obtain ⟨segment, hsegment, hcases⟩ := hbody.exists_segment s
  -- in both cases the segment reaches beyond that quote and its parenthesis
  obtain ⟨gap, rfl⟩ : ∃ gap, segment = u ++ stringLiteral.right ++ gap := by
    rcases hcases with ⟨-, gap, rfl⟩ | hopening
    · exact ⟨v ++ stringLiteral.right ++ gap, by rw [hb]; simp only [List.append_assoc]⟩
    · have hword : segment ++ attributedOpening ++ [] = u ++ stringLiteral.right ++ v := by
        rw [List.append_nil, ← hopening, hb]
      rcases append_word_cases (.of_check (by decide)) (.of_check (by decide)) hword with
        ⟨gap, hgap, -⟩ | ⟨gap, -, hgap⟩
      · exact ⟨gap, hgap⟩
      · simp [right_stringLiteral] at hgap
  rw [hrest] at hsegment ⊢
  exact Delimited.find?_of_isFirst (isFirst_left hp _) hsegment
    (isFirst_append unbordered_right hright gap) hne

/-- A literal that ends like the opening of another is not found to be closed, if it is not cut. -/
theorem text?_of_hidden (hp : ¬ stringLiteral.left <:+: p) (hbody : StringBody b)
    (hright : ¬ stringLiteral.right <:+: b) (hopening : attributedOpening <:+ b) :
    text? (p ++ stringLiteral.left ++ (b ++ stringLiteral.right ++ s)) = none := by
  obtain ⟨segment, hsegment, ⟨hnot, -⟩ | rfl⟩ := hbody.exists_segment s
  · exact absurd hopening hnot
  · have hcuts : stringLiteral.Cuts _ p segment := ⟨_, isFirst_left hp _, hsegment⟩
    refine Option.filter_eq_none_iff.mpr fun c hfind hclosed => hright ?_
    exact ((Delimited.closed_iff_of_cuts hcuts hfind).mp hclosed).trans
      (List.prefix_append _ _).isInfix

end Line

/-! ## The pass -/

/-- The edit of a line is the one that its own watch leads to. -/
private theorem exists_textEditAt (mark : Text) {source : Text} {i : Nat} {l : Located}
    (hl : (locatedLines source)[i]? = some l) :
    ∃ w, (texts mark source)[i]? = some (textEditAt mark source w l).1 := by
  unfold texts
  generalize DrawWatch.idle = w
  generalize locatedLines source = ls at hl
  induction ls generalizing w i with
  | nil => simp at hl
  | cons k ls ih =>
    cases i with
    | zero =>
      obtain rfl : k = l := by simpa using hl
      exact ⟨w, rfl⟩
    -- the line is further down, with the watch that this one leaves
    | succ i => exact ih (textEditAt mark source w k).2 hl

/-- An edit that takes this text for a layer and leaves one line, with the name of the property in
the call between `before` and `after`. -/
def ExchangesText (e : Edit TextVariable) (label before text after : Text) : Prop :=
  e.found? = some ⟨⟨label⟩, text⟩ ∧
    e.lines = [before ++ attributedOpening ++ (⟨⟨label⟩, text⟩ : TextVariable).name ++ ')' :: after]

/-- A literal that is captured on a line of a layer goes with its quotes. -/
theorem exchangesText_of_find? {mark source p text rest label : Text} {l : Located} (w : DrawWatch)
    (hfind : stringLiteral.find? l.line =
      some ⟨p ++ stringLiteral.left, text, stringLiteral.right ++ rest, true⟩)
    (hlabel : Caption.labelBefore? mark source l.offset = some label) :
    ExchangesText (textEditAt mark source w l).1 label p text rest := by
  rw [left_stringLiteral, right_stringLiteral, ← List.append_assoc] at hfind
  -- the quotes are the last character before the literal and the first behind it
  have htext := text?_eq_some_iff.mpr ⟨_, text, ')' :: rest, rfl, hfind⟩
  simp only [ExchangesText, textEditAt, htext, hlabel]
  refine ⟨rfl, ?_⟩
  simp [Edit.lines, textEdit, Capture.fill, Capture.widen]

/-- A line on which no closed literal is found stays. -/
private theorem textEditAt_of_none {mark source : Text} {l : Located} (w : DrawWatch)
    (h : text? l.line = none) :
    (textEditAt mark source w l).1.found? = none ∧
      (textEditAt mark source w l).1.line = l.line := by
  have hnone : textAt? mark source l = none := by
    simp only [textAt?, h, Option.bind_eq_bind, Option.bind_none]
  have hfills := (textEditAt_eq mark source w l).1
  rw [hnone] at hfills
  exact ⟨hfills.found?_eq, hfills.line_eq⟩

/-- What the pass over texts makes of a string literal on a line of a layer.  It takes the literal
as it is, and exchanges it for the name of the property, exactly when there is no escaped quote
before a parenthesis in it and it does not end like the opening of another.  If there is such a
quote, then it takes what is before the first of them and leaves the rest on the line; in the other
case it leaves the line alone. -/
theorem string_literal_extracted (mark source p b s label : Text) (i : Nat) (l : Located)
    (hl : (locatedLines source)[i]? = some l)
    (hline : l.line = p ++ stringLiteral.left ++ (b ++ stringLiteral.right ++ s))
    (hp : ¬ stringLiteral.left <:+: p) (hbody : StringBody b) (hne : b ≠ [])
    (hlabel : Caption.labelBefore? mark source l.offset = some label) :
    ∃ e, (texts mark source)[i]? = some e ∧
      (ExchangesText e label p b s ↔
        ¬ stringLiteral.right <:+: b ∧ ¬ attributedOpening <:+ b) ∧
      (∀ u v, IsFirst (· = stringLiteral.right) b u stringLiteral.right v →
        ExchangesText e label p u (v ++ stringLiteral.right ++ s)) ∧
      (¬ stringLiteral.right <:+: b → attributedOpening <:+ b →
        e.found? = none ∧ e.line = l.line) := by
  obtain ⟨w, he⟩ := exists_textEditAt mark hl
  have hcut : ∀ u v, IsFirst (· = stringLiteral.right) b u stringLiteral.right v →
      ExchangesText (textEditAt mark source w l).1 label p u (v ++ stringLiteral.right ++ s) := by
    intro u v hfirst
    apply exchangesText_of_find? w _ hlabel
    rw [hline]
    exact find?_of_cut hp hbody hfirst
  have hhidden : ¬ stringLiteral.right <:+: b → attributedOpening <:+ b →
      (textEditAt mark source w l).1.found? = none ∧
        (textEditAt mark source w l).1.line = l.line := by
    intro hright hopening
    apply textEditAt_of_none
    rw [hline]
    exact text?_of_hidden hp hbody hright hopening
  refine ⟨_, he, ⟨?_, ?_⟩, hcut, hhidden⟩
  · rintro ⟨hfound, -⟩
    have hright : ¬ stringLiteral.right <:+: b := by
      intro hright
      obtain ⟨u, v, hfirst⟩ := exists_isFirst hright
      -- what is taken is all of the literal, and shorter than it
      obtain rfl : u = b := by simpa using (hcut u v hfirst).1.symm.trans hfound
      have hlength := congrArg List.length hfirst.eq_append
      simp [right_stringLiteral] at hlength
    refine ⟨hright, fun hopening => ?_⟩
    rw [(hhidden hright hopening).1] at hfound
    cases hfound
  · rintro ⟨hright, hopening⟩
    apply exchangesText_of_find? w _ hlabel
    rw [hline]
    exact find?_of_clean hp hbody hne hright hopening

/-- A literal with escaped quotes is taken as a whole, if no parenthesis follows one of them. -/
theorem string_literal_extracted_escapes :
    let source := "/// Label\nNSMutableAttributedString(string: \"say \\\"hi\\\" (now)\")".toList
    ∃ e, (texts Caption.swiftMark source)[1]? = some e ∧
      e.found? = some ⟨⟨"Label".toList⟩, "say \\\"hi\\\" (now)".toList⟩ ∧
      e.lines = ["NSMutableAttributedString(string: labelText)".toList] := by
  intro source
  obtain ⟨e, he, hclean, -⟩ := string_literal_extracted Caption.swiftMark source []
    "say \\\"hi\\\" (now)".toList [] "Label".toList 1
    ⟨10, "NSMutableAttributedString(string: \"say \\\"hi\\\" (now)\")".toList⟩
    (by decide +kernel) (by decide) (by decide) (by decide) (by decide) (by decide +kernel)
  obtain ⟨hfound, hlines⟩ := hclean.mpr ⟨by decide, by decide⟩
  refine ⟨e, he, hfound, hlines.trans ?_⟩
  decide +kernel

/-- The quote before the inner parenthesis is taken for the end of the literal. -/
theorem escaped_quote_cuts_literal :
    let source := "/// Label\nNSMutableAttributedString(string: \"(say \\\"hi\\\")\")".toList
    StringBody "(say \\\"hi\\\")".toList ∧
      Edit.findings (texts Caption.swiftMark source) =
        [⟨⟨"Label".toList⟩, "(say \\\"hi\\".toList⟩] ∧
      Edit.source (texts Caption.swiftMark source) =
        "/// Label\nNSMutableAttributedString(string: labelText)\")".toList := by
  decide +kernel

end LayerView.Pass
