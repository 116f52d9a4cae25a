import LayerView.Proofs.DrawHistories
import LayerView.Proofs.OneLine

/-!
# Literals exchanged for references

A pass over a source can be undone.  Its lines are told once, with a mark where a variable stands;
spelled with the literals of the variables they are the lines of the source, and spelled with the
references they are the lines that the pass leaves.  A line is marked exactly when there is a literal
on it and a label holds there.  The pass over texts also puts lines above draw calls: these are the
answers of a watch to the lines before, and taking them out leaves the lines of the other law.

A marked line need not look different afterwards, because the literal may have been the reference
already.

Main statements:
- `colorOn_iff`: the searches for a color in their order
- `Captures.exchanged`: the law of a pass, from what it captures on each line
- `lines_texts`: the lines that the pass over texts leaves, with those of the watch
- `passes_exchange`: the three passes
-/

namespace LayerView

open LayerView.Text

variable {α : Type}

/-! ## Marked lines -/

/-- A line of a drawing, plain or with a variable between two texts. -/
inductive MarkedLine (α : Type) where
  | plain (line : Text)
  | marked (before : Text) (v : α) (after : Text)
deriving DecidableEq, Repr

namespace MarkedLine

/-- The line with a word in the place of the variable. -/
def spell (word : α → Text) : MarkedLine α → Text
  | plain line => line
  | marked before v after => before ++ word v ++ after

/-- The variable on a line. -/
def found? : MarkedLine α → Option α
  | plain _ => none
  | marked _ v _ => some v

/-- A line with a mark where something was captured on it. -/
def ofCapture (line : Text) : Option (α × Capture) → MarkedLine α
  | some (v, c) => marked c.before v c.after
  | none => plain line

/-- Two spellings of a line differ where the words for its variable do. -/
private theorem spell_ne_spell_iff {f g : α → Text} {m : MarkedLine α} :
    m.spell f ≠ m.spell g ↔ ∃ v, m.found? = some v ∧ f v ≠ g v := by
  cases m with
  | plain line => simp [spell, found?]
  | marked before v after => simp [spell, found?]

theorem found?_ofCapture (line : Text) (capture? : Option (α × Capture)) :
    (ofCapture line capture?).found? = capture?.map Prod.fst := by
  cases capture? <;> rfl

private theorem ofCapture_eq_marked_iff {line before after : Text} {v : α}
    {capture? : Option (α × Capture)} :
    ofCapture line capture? = marked before v after ↔
      ∃ c, capture? = some (v, c) ∧ c.before = before ∧ c.after = after := by
  cases capture? with
  | none => simp [ofCapture]
  | some capture =>
    obtain ⟨u, c⟩ := capture
    simp only [ofCapture, marked.injEq, Option.some.injEq, Prod.mk.injEq]
    constructor
    · rintro ⟨rfl, rfl, rfl⟩
      exact ⟨c, ⟨rfl, rfl⟩, rfl, rfl⟩
    · rintro ⟨c', ⟨rfl, rfl⟩, rfl, rfl⟩
      exact ⟨rfl, rfl, rfl⟩

end MarkedLine

/-! ## Literals on a line -/

namespace Pass

/-- A line does not give a string a color literal. -/
def NoTextColor (line : Text) : Prop :=
  foregroundLiteral <:+: line → foreground.find? line = none

/-- The color on a line and its use: the color of letters comes before a fill, and a fill before a
stroke. -/
inductive ColorOn (line : Text) : ColorUse → Capture → Prop where
  | text {c : Capture} :
      foregroundLiteral <:+: line → foreground.find? line = some c → ColorOn line .text c
  | fill {c : Capture} :
      NoTextColor line → fillCall.find? line = some c → ColorOn line .fill c
  | stroke {c : Capture} :
      NoTextColor line → fillCall.find? line = none → strokeCall.find? line = some c →
      ColorOn line .stroke c

theorem textColor?_eq_some_iff {line : Text} {c : Capture} :
    textColor? line = some c ↔ foregroundLiteral <:+: line ∧ foreground.find? line = some c := by
  simp [textColor?, contains_iff]

theorem textColor?_eq_none_iff {line : Text} : textColor? line = none ↔ NoTextColor line := by
  -- the search is made only on lines with the words for the color of letters
  simp [textColor?, contains_iff, NoTextColor]

/-- The color on a line, as the three searches find it in turn. -/
theorem colorOn_iff {line : Text} {use : ColorUse} {c : Capture} :
    ColorOn line use c ↔ color? line = some (use, c) := by
  constructor
  · intro h
    -- each use comes with the failure of those before it, so the searches get to it
    cases h with
    | text hliteral hfind => simp [color?, textColor?_eq_some_iff.mpr ⟨hliteral, hfind⟩]
    | fill hno hfind => simp [color?, textColor?_eq_none_iff.mpr hno, hfind]
    | stroke hno hfill hfind => simp [color?, textColor?_eq_none_iff.mpr hno, hfill, hfind]
  · intro h
    unfold color? at h
    -- the three searches in turn
    split at h
    case h_1 c' hc =>
      obtain ⟨rfl, rfl⟩ : ColorUse.text = use ∧ c' = c := by simpa using h
      obtain ⟨hliteral, hfind⟩ := textColor?_eq_some_iff.mp hc
      exact .text hliteral hfind
    case h_2 hno =>
      split at h
      case h_1 c' hc =>
        obtain ⟨rfl, rfl⟩ : ColorUse.fill = use ∧ c' = c := by simpa using h
        exact .fill (textColor?_eq_none_iff.mp hno) hc
      case h_2 hfill =>
        obtain ⟨c', hc, hpair⟩ := Option.map_eq_some_iff.mp h
        obtain ⟨rfl, rfl⟩ : ColorUse.stroke = use ∧ c' = c := by simpa using hpair
        exact .stroke (textColor?_eq_none_iff.mp hno) hfill hc

end Pass

/-- The literal of a finding is what is captured on a line, between these two texts.  Of a string only
the inside is captured, and its quotes are found around it. -/
def Finding.StandsOn (line before : Text) (f : Finding) (after : Text) : Prop :=
  match f with
  | .color v => ∃ closed, Pass.ColorOn line v.use ⟨before, v.color, after, closed⟩
  | .text v =>
    Pass.stringLiteral.find? line = some ⟨before ++ ['"'], v.text, '"' :: after, true⟩
  | .font v => ∃ closed, Pass.fontValue.find? line = some ⟨before, v.expression, after, closed⟩

/-! ## The law of a pass -/

/-- `outs` are the lines of a source with literals exchanged for references to the variables `vs`, as
the marked lines `ms` tell.  `Matches` says on which lines there is a literal. -/
structure Exchanged (Matches : Text → Prop) (finding : α → Finding) (mark source : Text)
    (outs : List Text) (vs : List α) (ms : List (MarkedLine α)) : Prop where
  length_eq : outs.length = (locatedLines source).length
  /-- With the literals in their places the lines are those of the source. -/
  restores : ms.map (MarkedLine.spell fun v => (finding v).literal) =
    (locatedLines source).map Located.line
  /-- With the references in their places they are the lines that are left. -/
  reads : ms.map (MarkedLine.spell fun v => (finding v).reference) = outs
  /-- The variables are those of the marked lines, in the order of the lines. -/
  finds : ms.filterMap MarkedLine.found? = vs
  /-- A line is marked exactly when there is a literal on it and a label holds at its start. -/
  marked_iff : List.Forall₂ (fun l m => m.found?.isSome ↔
      Matches l.line ∧ (Caption.labelBefore? mark source l.offset).isSome)
    (locatedLines source) ms
  /-- The mark stands where the literal was captured, for a variable of the layer with that label. -/
  stands_iff : List.Forall₂ (fun l m => ∀ before v after, m = .marked before v after ↔
      (finding v).StandsOn l.line before after ∧
        Caption.labelBefore? mark source l.offset = some (finding v).toVariable.layer.label)
    (locatedLines source) ms
  /-- A line looks different afterwards unless the literal was the reference already. -/
  differs_iff : ∀ m ∈ ms, (m.spell (fun v => (finding v).reference) ≠
      m.spell fun v => (finding v).literal) ↔
    ∃ v, m.found? = some v ∧ (finding v).reference ≠ (finding v).literal

/-- What a pass captures on the lines of a source, and for which variables. -/
structure Captures (Matches : Text → Prop) (finding : α → Finding) (mark source : Text)
    (at? : Located → Option (α × Capture)) : Prop where
  line_eq : ∀ l v c, at? l = some (v, c) → c.before ++ (finding v).literal ++ c.after = l.line
  isSome_iff : ∀ l, (at? l).isSome ↔
    Matches l.line ∧ (Caption.labelBefore? mark source l.offset).isSome
  stands_iff : ∀ l before v after,
    (∃ c, at? l = some (v, c) ∧ c.before = before ∧ c.after = after) ↔
      (finding v).StandsOn l.line before after ∧
        Caption.labelBefore? mark source l.offset = some (finding v).toVariable.layer.label

/-- An edit fills the reference in where something was captured, and finds its variable. -/
structure Edit.Fills (finding : α → Finding) (capture? : Option (α × Capture)) (old : Text)
    (e : Edit α) : Prop where
  line_eq : e.line =
    (MarkedLine.ofCapture old capture?).spell fun v => (finding v).reference
  found?_eq : e.found? = capture?.map Prod.fst

theorem map_eq_map_of_forall₂ {β γ : Type} {f : α → γ} {g : β → γ} {as : List α} {bs : List β}
    (h : List.Forall₂ (fun a b => g b = f a) as bs) : bs.map g = as.map f := by
  induction h with
  | nil => rfl
  | cons hab _ ih => rw [List.map_cons, List.map_cons, hab, ih]

/-- A pass that fills references in where it captures literals obeys the law. -/
theorem Captures.exchanged {Matches : Text → Prop} {finding : α → Finding} {mark source : Text}
    {at? : Located → Option (α × Capture)} (h : Captures Matches finding mark source at?)
    {es : List (Edit α)}
    (hes : List.Forall₂ (fun l e => e.Fills finding (at? l) l.line) (locatedLines source) es) :
    Exchanged Matches finding mark source (es.map Edit.line) (Edit.findings es)
      ((locatedLines source).map fun l => .ofCapture l.line (at? l)) where
  length_eq := by rw [List.length_map, ← hes.length_eq]
  restores := by
    rw [List.map_map]
    apply List.map_congr_left
    intro l _
    show (MarkedLine.ofCapture l.line (at? l)).spell _ = l.line
    cases hat : at? l with
    | none => rfl
    | some found =>
      -- the parts of what was captured make up the line
      exact h.line_eq l found.1 found.2 hat
  reads := by
    rw [List.map_map]
    exact (map_eq_map_of_forall₂ (hes.imp fun _ _ hfills => hfills.line_eq)).symm
  finds := by
    -- both lists of variables are read off line by line
    have hfound : es.map Edit.found? = (locatedLines source).map fun l => (at? l).map Prod.fst :=
      map_eq_map_of_forall₂ (hes.imp fun _ _ hfills => hfills.found?_eq)
    have hmarked : (fun l : Located => (MarkedLine.ofCapture l.line (at? l)).found?) =
        fun l => (at? l).map Prod.fst := funext fun l => MarkedLine.found?_ofCapture l.line (at? l)
    calc ((locatedLines source).map fun l => MarkedLine.ofCapture l.line (at? l)).filterMap
          MarkedLine.found?
        = (locatedLines source).filterMap fun l => (at? l).map Prod.fst := by
          rw [List.filterMap_map]
          exact congrArg (List.filterMap · (locatedLines source)) hmarked
      _ = (es.map Edit.found?).filterMap id := by
          rw [hfound, List.filterMap_map]
          rfl
      _ = Edit.findings es := by
          rw [List.filterMap_map]
          rfl
  marked_iff := by
    rw [List.forall₂_map_right_iff, List.forall₂_same]
    intro l _
    rw [MarkedLine.found?_ofCapture, Option.isSome_map]
    exact h.isSome_iff l
  stands_iff := by
    rw [List.forall₂_map_right_iff, List.forall₂_same]
    intro l _ before v after
    rw [MarkedLine.ofCapture_eq_marked_iff]
    exact h.stands_iff l before v after
  differs_iff m _ := MarkedLine.spell_ne_spell_iff

namespace Pass

/-! ## Colors and fonts -/

section OneKind

variable {β : Type} {k : LiteralKind β α} {finding : α → Finding}

/-- What a pass over literals of one kind captures.  It is enough to know on which lines its search
finds something, and that a finding stands where the search has captured it. -/
theorem LiteralKind.Yields.captures (h : k.Yields finding) {Matches : Text → Prop}
    (hmatches : ∀ line, Matches line ↔ ∃ told c, k.find? line = some (told, c))
    (hstands : ∀ line before v after, (finding v).StandsOn line before after ↔
      ∃ told c, k.find? line = some (told, c) ∧ c.before = before ∧ c.after = after ∧
        k.variableOf (finding v).toVariable.layer told c.text = v)
    (mark source : Text) : Captures Matches finding mark source (k.at? mark source) where
  line_eq l v c hat := h.line_eq_of_at? hat
  isSome_iff l := by
    rw [hmatches, Option.isSome_iff_exists, Option.isSome_iff_exists]
    constructor
    · rintro ⟨⟨v, c⟩, hat⟩
      obtain ⟨told, label, hfind, hlabel, -⟩ := at?_eq_some_iff.mp hat
      exact ⟨⟨told, c, hfind⟩, label, hlabel⟩
    · -- the variable is made of the label that holds and of what was captured
      rintro ⟨⟨told, c, hfind⟩, label, hlabel⟩
      exact ⟨(_, c), at?_eq_some_iff.mpr ⟨told, label, hfind, hlabel, rfl⟩⟩
  stands_iff l before v after := by
    rw [hstands]
    constructor
    · rintro ⟨c, hat, hbefore, hafter⟩
      -- the layer of the variable is the one that the label names
      obtain ⟨told, label, hfind, hlabel, rfl⟩ := at?_eq_some_iff.mp hat
      rw [h.layer_eq]
      exact ⟨⟨told, c, hfind, hbefore, hafter, rfl⟩, hlabel⟩
    · rintro ⟨⟨told, c, hfind, hbefore, hafter, hv⟩, hlabel⟩
      exact ⟨c, at?_eq_some_iff.mpr ⟨told, _, hfind, hlabel, hv⟩, hbefore, hafter⟩

/-- A pass over literals of one kind fills in a reference at each of its captures. -/
theorem LiteralKind.Yields.edits_fill (h : k.Yields finding) (mark source : Text) :
    List.Forall₂ (fun l e => Edit.Fills finding (k.at? mark source l) l.line e)
      (locatedLines source) (k.edits mark source) := by
  unfold edits
  rw [List.forall₂_map_right_iff, List.forall₂_same]
  intro l _
  refine ⟨?_, found?_editAt mark source l⟩
  unfold editAt
  cases k.at? mark source l with
  | none => rfl
  | some found =>
    -- the capture is filled with what the finding reads
    show found.2.before ++ k.reference found.1 ++ found.2.after = _
    rw [← h.reference_eq]
    rfl

end OneKind

/-- The pass over colors captures the color on each line that is in a layer. -/
theorem captures_colors (mark source : Text) :
    Captures (fun line => ∃ use c, ColorOn line use c) .color mark source
      (colorLiteral.at? mark source) := by
  apply yields_colors.captures
  · exact fun line => exists_congr fun use => exists_congr fun c => colorOn_iff
  · intro line before v after
    constructor
    · rintro ⟨closed, hcolor⟩
      exact ⟨v.use, _, colorOn_iff.mp hcolor, rfl, rfl, rfl⟩
    · -- the use and the color of the variable are those that were found
      rintro ⟨use, c, hfind, rfl, rfl, hv⟩
      rw [← hv]
      exact ⟨c.closed, colorOn_iff.mpr hfind⟩

theorem captures_fonts (mark source : Text) :
    Captures (fun line => ∃ c, fontValue.find? line = some c) .font mark source
      (fontLiteral.at? mark source) := by
  apply yields_fonts.captures
  · intro line
    simp only [find?_fontLiteral_eq_some_iff, exists_const]
  · intro line before v after
    constructor
    · rintro ⟨closed, hfont⟩
      exact ⟨(), _, find?_fontLiteral_eq_some_iff.mpr hfont, rfl, rfl, rfl⟩
    · rintro ⟨told, c, hfind, rfl, rfl, hv⟩
      rw [← hv]
      exact ⟨c.closed, find?_fontLiteral_eq_some_iff.mp hfind⟩

/-! ## Texts -/

/-- The text on a line of a source that belongs to a layer, and where it stands with its quotes. -/
def textAt? (mark source : Text) (l : Located) : Option (TextVariable × Capture) := do
  let c ← text? l.line
  let label ← Caption.labelBefore? mark source l.offset
  return (⟨⟨label⟩, c.text⟩, c.widen)

/-- A string literal is captured between its quotes. -/
theorem text?_eq_some_iff {line : Text} {c : Capture} :
    text? line = some c ↔ ∃ before text after,
      c = ⟨before ++ ['"'], text, '"' :: after, true⟩ ∧ stringLiteral.find? line = some c := by
  constructor
  · intro h
    obtain ⟨before, after, hbefore, hafter⟩ := quotes_of_text? h
    obtain ⟨hfind, hclosed⟩ := Option.filter_eq_some_iff.mp h
    refine ⟨before, c.text, after, ?_, hfind⟩
    rw [← hbefore, ← hafter, ← hclosed]
  · rintro ⟨before, text, after, rfl, hfind⟩
    exact Option.filter_eq_some_iff.mpr ⟨hfind, rfl⟩

private theorem isSome_text?_iff {line : Text} :
    (text? line).isSome ↔ ∃ c, stringLiteral.find? line = some c ∧ c.closed = true := by
  rw [Option.isSome_iff_exists]
  exact exists_congr fun _ => Option.filter_eq_some_iff

/-- What is replaced is the string with its quotes. -/
theorem textAt?_eq_some_iff {mark source : Text} {l : Located} {v : TextVariable} {c : Capture} :
    textAt? mark source l = some (v, c) ↔ ∃ before after,
      c = ⟨before, ['"'] ++ v.text ++ ['"'], after, true⟩ ∧
        stringLiteral.find? l.line = some ⟨before ++ ['"'], v.text, '"' :: after, true⟩ ∧
        Caption.labelBefore? mark source l.offset = some v.layer.label := by
  simp only [textAt?, Option.bind_eq_bind, Option.bind_eq_some_iff, text?_eq_some_iff]
  constructor
  · -- widening takes one character on each side, and these are the quotes
    rintro ⟨d, ⟨before, text, after, rfl, hfind⟩, label, hlabel, hv⟩
    obtain ⟨rfl, rfl⟩ := Prod.mk.inj (Option.some.inj hv)
    refine ⟨before, after, ?_, hfind, hlabel⟩
    simp [Capture.widen]
  · rintro ⟨before, after, rfl, hfind, hlabel⟩
    refine ⟨_, ⟨before, v.text, after, rfl, hfind⟩, _, hlabel, ?_⟩
    simp [Capture.widen]

/-- The pass over texts captures the strings that are closed, quotes and all. -/
theorem captures_texts (mark source : Text) :
    Captures (fun line => ∃ c, stringLiteral.find? line = some c ∧ c.closed = true) .text mark
      source (textAt? mark source) where
  line_eq l v c h := by
    obtain ⟨before, after, rfl, hfind, -⟩ := textAt?_eq_some_iff.mp h
    rw [← Delimited.line_eq_of_find? hfind]
    simp [Capture.line, Finding.literal]
  isSome_iff l := by
    rw [← isSome_text?_iff]
    -- both searches have to succeed, in whatever order they are made
    simp only [textAt?]
    cases text? l.line <;> cases Caption.labelBefore? mark source l.offset <;> simp
  stands_iff l before v after := by
    simp only [textAt?_eq_some_iff]
    constructor
    · rintro ⟨c, ⟨before', after', rfl, hfind, hlabel⟩, rfl, rfl⟩
      exact ⟨hfind, hlabel⟩
    · rintro ⟨hfind, hlabel⟩
      exact ⟨_, ⟨before, after, rfl, hfind, hlabel⟩, rfl, rfl⟩

/-- What the pass over texts tells its watch about a line: a text that was found, a line without a
literal, or nothing. -/
def watchStep? (mark source : Text) (l : Located) : Option DrawWatch.Step :=
  match text? l.line with
  | some _ => (textAt? mark source l).map fun found => .remember found.1
  | none => some (.observe l.line)

/-- What becomes of one line: the literal is exchanged, the watch makes its step, and what it answers
goes above the line. -/
theorem textEditAt_eq (mark source : Text) (w : DrawWatch) (l : Located) :
    (textEditAt mark source w l).1.Fills .text (textAt? mark source l) l.line ∧
      (textEditAt mark source w l).1.lines =
        ((watchStep? mark source l).elim [] fun s => (w.step s).1) ++
          [(textEditAt mark source w l).1.line] ∧
      (textEditAt mark source w l).2 =
        (watchStep? mark source l).elim w fun s => (w.step s).2 := by
  unfold textEditAt watchStep? textAt?
  -- a literal without a label is left alone, and the watch is not shown its line
  cases text? l.line with
  | none => exact ⟨⟨rfl, rfl⟩, rfl, rfl⟩
  | some c =>
    cases Caption.labelBefore? mark source l.offset with
    | none => exact ⟨⟨rfl, rfl⟩, rfl, rfl⟩
    | some label => exact ⟨⟨rfl, rfl⟩, rfl, rfl⟩

theorem texts_fill (mark source : Text) :
    List.Forall₂ (fun l e => Edit.Fills .text (textAt? mark source l) l.line e)
      (locatedLines source) (texts mark source) := by
  unfold texts
  -- the watch changes from line to line, and what is filled in does not depend on it
  generalize DrawWatch.idle = w
  generalize locatedLines source = ls
  induction ls generalizing w with
  | nil => exact List.Forall₂.nil
  -- the first edit is that of `l`; the others start from another watch
  | cons l ls ih => exact List.Forall₂.cons (textEditAt_eq mark source w l).1 (ih _)

/-- What a watch answers to a line, after what it was told about the lines before. -/
def insertedAbove (mark source : Text) (w : DrawWatch) (earlier : List Located) (l : Located) :
    List Text :=
  (watchStep? mark source l).elim [] fun s =>
    ((w.after (earlier.filterMap (watchStep? mark source))).step s).1

/-- Line by line, what comes out is the answer of the watch and the line below it. -/
theorem lines_textsFrom (mark source : Text) (w : DrawWatch) (ls : List Located) :
    (textsFrom mark source w ls).map Edit.lines =
      List.zipWith (fun block line => block ++ [line])
        (ls.mapIdx fun i l => insertedAbove mark source w (ls.take i) l)
        ((textsFrom mark source w ls).map Edit.line) := by
  induction ls generalizing w with
  | nil => rfl
  | cons l ls ih =>
    obtain ⟨-, hlines, hnext⟩ := textEditAt_eq mark source w l
    -- the watch after this line has this line's step in its history
    have hshift : (fun i k => insertedAbove mark source w ((l :: ls).take (i + 1)) k) =
        fun i k => insertedAbove mark source (textEditAt mark source w l).2 (ls.take i) k := by
      funext i k
      rw [hnext, insertedAbove, insertedAbove, List.take_succ_cons, List.filterMap_cons]
      cases watchStep? mark source l <;> rfl
    rw [textsFrom, List.map_cons, List.map_cons, List.mapIdx_cons, List.zipWith_cons_cons, hlines,
      ih, hshift]
    rfl

/-- The lines that the pass over texts leaves: before each line of the source, as it comes out, what
the watch answers to it. -/
theorem lines_texts (mark source : Text) :
    (texts mark source).flatMap Edit.lines =
      (List.zipWith (fun block line => block ++ [line])
        ((locatedLines source).mapIdx fun i l =>
          insertedAbove mark source .idle ((locatedLines source).take i) l)
        ((texts mark source).map Edit.line)).flatten := by
  rw [List.flatMap_def]
  exact congrArg List.flatten (lines_textsFrom mark source .idle (locatedLines source))

end Pass

/-! ## What is returned -/

/-- A text is these lines: they are joined to it, and cutting it at its line feeds gives them back. -/
def IsCut (t : Text) (ls : List Text) : Prop :=
  t = joinLines ls ∧ (ls ≠ [] → t.splitOn '\n' = ls)

private theorem isCut_source {es : List (Edit α)} (h : ∀ l ∈ es.flatMap Edit.lines, '\n' ∉ l) :
    IsCut (Edit.source es) (es.flatMap Edit.lines) :=
  ⟨rfl, List.splitOn_intercalate '\n' h⟩

/-- The lines that a pass leaves hold no line feed if the lines that it adds do not. -/
theorem isCut_of_follows {finding? : α → Option Finding} {ok : Text → Prop} {source : Text}
    {es : List (Edit α)}
    (h : List.Forall₂ (fun l e => e.Follows finding? ok l.line) (locatedLines source) es)
    (hok : ∀ t, ok t → '\n' ∉ t) : IsCut (Edit.source es) (es.flatMap Edit.lines) := by
  apply isCut_source
  intro t ht
  obtain ⟨e, he, hte⟩ := List.mem_flatMap.mp ht
  -- a line that is left comes from a line of the source, or was added at one
  obtain ⟨l, hl, hfollows⟩ := exists_line_of_mem h he
  exact hfollows.feed_notMem (feed_notMem_of_mem_locatedLines hl) hok t hte

private theorem flatMap_lines_of_bare {es : List (Edit α)}
    (h : ∀ e ∈ es, e.above = [] ∧ e.below = []) : es.flatMap Edit.lines = es.map Edit.line := by
  rw [List.map_eq_flatMap]
  apply List.flatMap_congr
  intro e he
  obtain ⟨habove, hbelow⟩ := h e he
  rw [Edit.lines, habove, hbelow, List.nil_append]

namespace Pass

/-- A pass over literals of one kind adds no lines. -/
theorem LiteralKind.lines_edits {β : Type} (k : LiteralKind β α) (mark source : Text) :
    (k.edits mark source).flatMap Edit.lines = (k.edits mark source).map Edit.line := by
  apply flatMap_lines_of_bare
  intro e he
  obtain ⟨l, -, rfl⟩ := List.mem_map.mp he
  unfold editAt
  cases k.at? mark source l with
  | none => exact ⟨rfl, rfl⟩
  | some found => exact ⟨rfl, rfl⟩

/-- What a pass over literals of one kind leaves is its lines. -/
theorem LiteralKind.Yields.isCut_edits {β : Type} {k : LiteralKind β α} {finding : α → Finding}
    (h : k.Yields finding) (mark source : Text) :
    IsCut (Edit.source (k.edits mark source)) ((k.edits mark source).map Edit.line) := by
  rw [← k.lines_edits]
  exact isCut_of_follows (h.forall₂_edits mark source ('\n' ∉ ·)) fun _ ht => ht

/-- What the pass over texts adds holds no line feed. -/
private theorem feed_notMem_of_isOverride {mark source t : Text}
    (h : IsOverride (· ∈ Edit.findings (texts mark source))
      (· ∈ (locatedLines source).map Located.line) t) : '\n' ∉ t := by
  obtain ⟨v, call, hv, hcall, -, ht⟩ := h
  obtain ⟨l, hl, rfl⟩ := List.mem_map.mp hcall
  exact feed_notMem_overrideBlock (feed_notMem_label_of_mem_textsFrom hv)
    (feed_notMem_of_mem_locatedLines hl) ht

/-- Each pass exchanges literals for references, line by line and so that it can be undone. -/
theorem passes_exchange (mark source : Text) :
    (IsCut (Edit.source (colors mark source)) ((colors mark source).map Edit.line) ∧
      ∃ ms, Exchanged (fun line => ∃ use c, ColorOn line use c) .color mark source
        ((colors mark source).map Edit.line) (Edit.findings (colors mark source)) ms) ∧
    (IsCut (Edit.source (fonts mark source)) ((fonts mark source).map Edit.line) ∧
      ∃ ms, Exchanged (fun line => ∃ c, fontValue.find? line = some c) .font mark source
        ((fonts mark source).map Edit.line) (Edit.findings (fonts mark source)) ms) ∧
    -- the lines that are left are told apart from those that the watch has put above them
    ∃ outs, IsCut (Edit.source (texts mark source))
        (List.zipWith (fun block line => block ++ [line])
          ((locatedLines source).mapIdx fun i l =>
            insertedAbove mark source .idle ((locatedLines source).take i) l) outs).flatten ∧
      ∃ ms, Exchanged (fun line => ∃ c, stringLiteral.find? line = some c ∧ c.closed = true)
        .text mark source outs (Edit.findings (texts mark source)) ms := by
  have hcolors := (captures_colors mark source).exchanged (yields_colors.edits_fill mark source)
  have hfonts := (captures_fonts mark source).exchanged (yields_fonts.edits_fill mark source)
  have htexts := (captures_texts mark source).exchanged (texts_fill mark source)
  refine ⟨⟨yields_colors.isCut_edits mark source, _, hcolors⟩,
    ⟨yields_fonts.isCut_edits mark source, _, hfonts⟩, _, ?_, _, htexts⟩
  -- only the pass over texts leaves more lines than there were
  rw [← lines_texts]
  exact isCut_of_follows (forall₂_texts mark source) fun _ => feed_notMem_of_isOverride

end Pass

end LayerView
