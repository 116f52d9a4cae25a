import LayerView.Conversion
import LayerView.Proofs.Search
import Mathlib.Data.List.Forall2

/-!
# Literals and what reads them

A pass treats one line after the other.  On a line it either finds nothing and keeps it, or finds the
literal of one variable and puts a read of the variable's property in its place.  This module states
that law once, as a relation between a line and its edit, and shows that every pass obeys it.

Main statements:
- `LiteralKind.Yields.forall₂_edits`: a pass over literals of one kind, of which `yields_colors` and
  `yields_fonts` are the cases
- `forall₂_texts`: the pass over texts
- `forall₂_frames`: the pass over the filled layers, which only adds lines
- `obeys_run`: all passes of a conversion
-/

namespace LayerView

open LayerView.Text

/-- A literal of a drawing that became a property, as the variable for it. -/
inductive Finding where
  | color (v : ColorVariable)
  | text (v : TextVariable)
  | font (v : FontVariable)
deriving DecidableEq, Repr

namespace Finding

/-- The variable of a finding. -/
def toVariable : Finding → Variable
  | .color v => .color v
  | .text v => .text v
  | .font v => .font v

/-- The kind of property that a finding became. -/
def kind (f : Finding) : Kind := f.toVariable.kind

/-- The literal in the drawing; a string has its quotes. -/
def literal : Finding → Text
  | .color v => v.color
  | .text v => "\"".toList ++ v.text ++ "\"".toList
  | .font v => v.expression

/-- The text that reads the property. -/
def reference : Finding → Text
  | .color v => Pass.propertyRead v.name
  | .text v => v.name
  | .font v => v.name

/-- `new` is the line `old` with a read of the property in place of the literal. -/
def Replaces (f : Finding) (old new : Text) : Prop :=
  ∃ before after, old = before ++ f.literal ++ after ∧ new = before ++ f.reference ++ after

end Finding

/-- An edit of the line `old`: a finding is replaced, nothing else is changed, and every line put
above or below has the property `ok`. -/
structure Edit.Follows {α : Type} (finding? : α → Option Finding) (ok : Text → Prop) (old : Text)
    (e : Edit α) : Prop where
  keeps : e.found?.bind finding? = none → e.line = old
  replaces : ∀ f, e.found?.bind finding? = some f → f.Replaces old e.line
  adds : ∀ t ∈ e.above ++ e.below, ok t

/-- An edit that finds nothing and keeps its line. -/
theorem Edit.Follows.of_unchanged {α : Type} {finding? : α → Option Finding} {ok : Text → Prop}
    {old : Text} {e : Edit α} (hline : e.line = old) (hfound : e.found?.bind finding? = none)
    (hadds : ∀ t ∈ e.above ++ e.below, ok t) : e.Follows finding? ok old where
  keeps _ := hline
  replaces f hf := by rw [hfound] at hf; simp at hf
  adds := hadds

/-- An edit that replaces a finding and adds no line. -/
theorem Edit.Follows.of_replaces {α : Type} {finding? : α → Option Finding} {ok : Text → Prop}
    {old : Text} {e : Edit α} {f : Finding} (hfound : e.found?.bind finding? = some f)
    (hrep : f.Replaces old e.line) (habove : e.above = []) (hbelow : e.below = []) :
    e.Follows finding? ok old where
  keeps hnone := by rw [hfound] at hnone; simp at hnone
  replaces g hg := by
    obtain rfl : f = g := Option.some.inj (hfound.symm.trans hg)
    exact hrep
  adds t ht := by simp [habove, hbelow] at ht

theorem Edit.Follows.mono {α : Type} {finding? : α → Option Finding} {ok ok' : Text → Prop}
    {old : Text} {e : Edit α} (h : e.Follows finding? ok old) (hok : ∀ t, ok t → ok' t) :
    e.Follows finding? ok' old where
  keeps := h.keeps
  replaces := h.replaces
  adds t ht := hok t (h.adds t ht)

/-- Every edit of a pass is that of a line. -/
theorem exists_line_of_mem {α β : Type} {R : α → β → Prop} {ls : List α} {es : List β}
    (h : List.Forall₂ R ls es) {e : β} (he : e ∈ es) : ∃ l ∈ ls, R l e := by
  induction h with
  | nil => simp at he
  | @cons l e' ls es hle _ ih =>
    -- the first edit is of the first line, and the others are of the lines below
    rcases List.mem_cons.mp he with rfl | he
    · exact ⟨l, List.mem_cons_self, hle⟩
    · obtain ⟨k, hk, hke⟩ := ih he
      exact ⟨k, List.mem_cons_of_mem l hk, hke⟩

namespace Pass

/-! ## Literals of one kind -/

namespace LiteralKind

variable {α β : Type} {k : LiteralKind β α} {finding : α → Finding}

/-- The literal of a layer on a line: what was captured, under the label that holds there. -/
theorem at?_eq_some_iff {mark source : Text} {l : Located} {v : α} {c : Capture} :
    k.at? mark source l = some (v, c) ↔ ∃ told label, k.find? l.line = some (told, c) ∧
      Caption.labelBefore? mark source l.offset = some label ∧
      k.variableOf ⟨label⟩ told c.text = v := by
  simp only [at?, Option.bind_eq_bind, Option.bind_eq_some_iff]
  constructor
  · -- search first, then look for the label above the line
    rintro ⟨⟨told, c'⟩, hfind, label, hlabel, hv⟩
    obtain ⟨rfl, rfl⟩ := Prod.mk.inj (Option.some.inj hv)
    exact ⟨told, label, hfind, hlabel, rfl⟩
  · rintro ⟨told, label, hfind, hlabel, rfl⟩
    exact ⟨(told, c), hfind, label, hlabel, rfl⟩

theorem found?_editAt (mark source : Text) (l : Located) :
    (k.editAt mark source l).found? = (k.at? mark source l).map Prod.fst := by
  unfold editAt
  cases k.at? mark source l with
  | none => rfl
  | some found => rfl

/-- The variables that a pass finds are those of its lines. -/
theorem mem_findings_edits_iff {mark source : Text} {v : α} :
    v ∈ Edit.findings (k.edits mark source) ↔
      ∃ l ∈ locatedLines source, ∃ c, k.at? mark source l = some (v, c) := by
  simp only [Edit.findings, edits, List.mem_filterMap, List.mem_map]
  constructor
  · rintro ⟨e, ⟨l, hl, rfl⟩, he⟩
    rw [found?_editAt] at he
    obtain ⟨⟨u, c⟩, hc, rfl⟩ := Option.map_eq_some_iff.mp he
    exact ⟨l, hl, c, hc⟩
  · rintro ⟨l, hl, c, hc⟩
    exact ⟨_, ⟨l, hl, rfl⟩, by rw [found?_editAt, hc, Option.map_some]⟩

/-- Literals of a kind are findings: what is captured on a line is the literal of the finding that it
becomes, and code reads the one as it reads the other. -/
structure Yields (k : LiteralKind β α) (finding : α → Finding) : Prop where
  line_eq : ∀ line told c, k.find? line = some (told, c) → c.line = line
  literal_eq : ∀ layer told t, (finding (k.variableOf layer told t)).literal = t
  layer_eq : ∀ layer told t, (finding (k.variableOf layer told t)).toVariable.layer = layer
  reference_eq : ∀ v, (finding v).reference = k.reference v

/-- The parts of what was captured make up the line, with the literal between them. -/
theorem Yields.line_eq_of_at? (h : k.Yields finding) {mark source : Text} {l : Located} {v : α}
    {c : Capture} (hat : k.at? mark source l = some (v, c)) :
    c.before ++ (finding v).literal ++ c.after = l.line := by
  obtain ⟨told, label, hfind, -, rfl⟩ := at?_eq_some_iff.mp hat
  rw [h.literal_eq]
  exact h.line_eq _ _ _ hfind

theorem Yields.editAt_follows (h : k.Yields finding) (mark source : Text) (l : Located)
    (ok : Text → Prop) : (k.editAt mark source l).Follows (some ∘ finding) ok l.line := by
  unfold editAt
  split
  -- the reference goes between the two parts of the capture
  case h_1 v c hat =>
    refine Edit.Follows.of_replaces rfl ⟨c.before, c.after, ?_, ?_⟩ rfl rfl
    · exact (h.line_eq_of_at? hat).symm
    · rw [h.reference_eq]
      rfl
  case h_2 => exact Edit.Follows.of_unchanged rfl rfl (by simp)

/-- A pass over literals of a kind. -/
theorem Yields.forall₂_edits (h : k.Yields finding) (mark source : Text) (ok : Text → Prop) :
    List.Forall₂ (fun l e => e.Follows (some ∘ finding) ok l.line) (locatedLines source)
      (k.edits mark source) := by
  unfold edits
  rw [List.forall₂_map_right_iff, List.forall₂_same]
  exact fun l _ => h.editAt_follows mark source l ok

end LiteralKind

/-! ## Colors and fonts -/

/-- The color on a line is a part of the line. -/
private theorem line_eq_of_color? {line : Text} {use : ColorUse} {c : Capture}
    (h : color? line = some (use, c)) : c.line = line := by
  unfold color? at h
  -- three searches in turn, and what each captures is a part of the line
  split at h
  case h_1 c' hc =>
    obtain ⟨-, rfl⟩ : ColorUse.text = use ∧ c' = c := by simpa using h
    unfold textColor? at hc
    split at hc
    · exact Delimited.line_eq_of_find? hc
    · simp at hc
  case h_2 =>
    split at h
    case h_1 c' hc =>
      obtain ⟨-, rfl⟩ : ColorUse.fill = use ∧ c' = c := by simpa using h
      exact CallSuffix.line_eq_of_find? hc
    case h_2 =>
      obtain ⟨c', hc, hpair⟩ := Option.map_eq_some_iff.mp h
      obtain ⟨-, rfl⟩ : ColorUse.stroke = use ∧ c' = c := by simpa using hpair
      exact CallSuffix.line_eq_of_find? hc

theorem find?_fontLiteral_eq_some_iff {line : Text} {told : Unit} {c : Capture} :
    fontLiteral.find? line = some (told, c) ↔ fontValue.find? line = some c := by
  show (fontValue.find? line).map _ = _ ↔ _
  rw [Option.map_eq_some_iff]
  constructor
  · rintro ⟨c', hfind, hpair⟩
    obtain rfl : c' = c := (Prod.mk.inj hpair).2
    exact hfind
  · exact fun hfind => ⟨c, hfind, rfl⟩

/-- Color literals are findings, read through the property of their layer. -/
theorem yields_colors : colorLiteral.Yields .color where
  line_eq _ _ _ h := line_eq_of_color? h
  literal_eq _ _ _ := rfl
  layer_eq _ _ _ := rfl
  reference_eq _ := rfl

theorem yields_fonts : fontLiteral.Yields .font where
  line_eq _ _ _ h := Delimited.line_eq_of_find? (find?_fontLiteral_eq_some_iff.mp h)
  literal_eq _ _ _ := rfl
  layer_eq _ _ _ := rfl
  reference_eq _ := rfl

/-! ## Texts -/

/-- What stands around a capture between delimiters. -/
theorem delimiters_of_find? {d : Delimited} {line : Text} {c : Capture}
    (h : d.find? line = some c) :
    (∃ lead, c.before = lead ++ d.left) ∧ (c.closed = true → ∃ rest, c.after = d.right ++ rest) := by
  cases hl : breakOn? d.left line with
  | none => simp [Delimited.find?, hl] at h
  | some parts =>
    simp only [Delimited.find?, hl, Option.bind_eq_bind, Option.bind_some,
      Option.ite_none_left_eq_some, Option.some.injEq] at h
    obtain ⟨-, rfl⟩ := h
    refine ⟨⟨parts.1, rfl⟩, ?_⟩
    intro hclosed
    -- a closed capture was cut before its right delimiter
    unfold cutBefore at hclosed ⊢
    split at hclosed
    · exact ⟨_, List.append_assoc _ _ _⟩
    · simp at hclosed

/-- A string literal stands between quotes, which belong to what is replaced. -/
theorem quotes_of_text? {line : Text} {c : Capture} (h : text? line = some c) :
    ∃ before after, c.before = before ++ ['"'] ∧ c.after = '"' :: after := by
  obtain ⟨hfind, hclosed⟩ := Option.filter_eq_some_iff.mp h
  obtain ⟨⟨lead, hbefore⟩, hafter⟩ := delimiters_of_find? hfind
  obtain ⟨rest, hrest⟩ := hafter hclosed
  refine ⟨lead ++ "NSMutableAttributedString(string: ".toList, ')' :: rest, ?_, ?_⟩
  · rw [hbefore, List.append_assoc]
    rfl
  · rw [hrest]
    rfl

/-- A text is replaced together with its quotes. -/
private theorem textEdit_replaces {line : Text} {v : TextVariable} {c : Capture}
    (h : text? line = some c) (hv : v.text = c.text) :
    (Finding.text v).Replaces line (textEdit v c).line := by
  obtain ⟨before, after, hbefore, hafter⟩ := quotes_of_text? h
  have hline := Delimited.line_eq_of_find? (Option.filter_eq_some_iff.mp h).1
  -- the quotes go with the literal, so they leave the text on both sides of the capture
  refine ⟨before, after, ?_, ?_⟩
  · rw [← hline, Capture.line, hbefore, hafter, ← hv]
    simp [Finding.literal]
  · simp [textEdit, Capture.widen, Capture.fill, hbefore, hafter, Finding.reference]

/-- A line that goes above the draw call of a text that was found; the call is a line of a source. -/
def IsOverride (found : TextVariable → Prop) (isLine : Text → Prop) (t : Text) : Prop :=
  ∃ v call, found v ∧ isLine call ∧ contains (DrawWatch.callOf v) call = true ∧
    t ∈ DrawWatch.overrideBlock v call

/-- One line of the pass over texts, with a watch for a text that was found. -/
theorem textEditAt_follows {mark source : Text} {w : DrawWatch} {l : Located}
    {found : TextVariable → Prop} {isLine : Text → Prop}
    (hw : ∀ v, w.waiting? = some v → found v) (hl : isLine l.line)
    (hfound : ∀ v, (textEditAt mark source w l).1.found? = some v → found v) :
    (textEditAt mark source w l).1.Follows (some ∘ .text) (IsOverride found isLine) l.line ∧
      ∀ v, (textEditAt mark source w l).2.waiting? = some v → found v := by
  unfold textEditAt at hfound ⊢
  cases htext : text? l.line with
  | some c =>
    cases hlabel : Caption.labelBefore? mark source l.offset with
    | some label =>
      -- the watch waits for this finding from here on
      simp only [htext, hlabel] at hfound ⊢
      refine ⟨Edit.Follows.of_replaces rfl (textEdit_replaces htext rfl) rfl rfl, ?_⟩
      intro v hv
      exact hfound v hv
    -- a string without a label is not touched, and the watch goes on waiting
    | none =>
      simp only
      exact ⟨Edit.Follows.of_unchanged rfl rfl (by simp), hw⟩
  | none =>
    simp only
    cases hwait : w.waiting? with
    | none =>
      have hobserve : w.observe l.line = ([], w) := by simp [DrawWatch.observe, hwait]
      rw [hobserve]
      exact ⟨Edit.Follows.of_unchanged rfl rfl (by simp [drawEdit]), hw⟩
    | some v =>
      -- only the call that draws the text ends the wait
      by_cases hcall : contains (DrawWatch.callOf v) l.line = true
      · have hobserve : w.observe l.line = (DrawWatch.overrideBlock v l.line, .idle) := by
          simp [DrawWatch.observe, hwait, hcall]
        rw [hobserve]
        refine ⟨Edit.Follows.of_unchanged rfl rfl ?_, by simp [DrawWatch.idle]⟩
        intro t ht
        exact ⟨v, l.line, hw v hwait, hl, hcall, by simpa [drawEdit] using ht⟩
      · have hobserve : w.observe l.line = ([], w) := by simp [DrawWatch.observe, hwait, hcall]
        rw [hobserve]
        exact ⟨Edit.Follows.of_unchanged rfl rfl (by simp [drawEdit]), hw⟩

/-- The pass over texts keeps to its findings: a watch always waits for one of them. -/
theorem forall₂_textsFrom (mark source : Text) {w : DrawWatch} {ls : List Located}
    {found : TextVariable → Prop} {isLine : Text → Prop}
    (hw : ∀ v, w.waiting? = some v → found v) (hls : ∀ l ∈ ls, isLine l.line)
    (hfound : ∀ v ∈ Edit.findings (textsFrom mark source w ls), found v) :
    List.Forall₂ (fun l e => e.Follows (some ∘ .text) (IsOverride found isLine) l.line) ls
      (textsFrom mark source w ls) := by
  induction ls generalizing w with
  | nil => exact List.Forall₂.nil
  | cons l ls ih =>
    have hhead : ∀ v, (textEditAt mark source w l).1.found? = some v → found v := by
      intro v hv
      exact hfound v (List.mem_filterMap.mpr ⟨_, List.mem_cons_self, hv⟩)
    -- the watch after this line waits for a finding, since the watch before it did
    obtain ⟨hfollows, hnext⟩ := textEditAt_follows hw (hls l List.mem_cons_self) hhead
    refine List.Forall₂.cons hfollows (ih hnext (fun k hk => hls k (List.mem_cons_of_mem l hk)) ?_)
    intro v hv
    obtain ⟨e, he, hev⟩ := List.mem_filterMap.mp hv
    exact hfound v (List.mem_filterMap.mpr ⟨e, List.mem_cons_of_mem _ he, hev⟩)

/-- The pass over texts starts with a watch that waits for nothing. -/
theorem forall₂_texts (mark source : Text) :
    List.Forall₂ (fun l e => e.Follows (some ∘ .text)
      (IsOverride (· ∈ Edit.findings (texts mark source))
        (· ∈ (locatedLines source).map Located.line)) l.line) (locatedLines source)
      (texts mark source) :=
  forall₂_textsFrom mark source (by simp [DrawWatch.idle])
    (fun _ hl => List.mem_map_of_mem hl) fun _ hv => hv

/-! ## Frames -/

/-- The pass over filled layers finds no literal; it adds assignments of its frames. -/
theorem forall₂_frames (fs : List FrameVariable) (source : Text) :
    List.Forall₂ (fun l e => e.Follows (fun _ => none) (∃ f ∈ fs, · = boundsAssignment f) l)
      (lines source) (frames fs source) := by
  unfold frames
  rw [List.forall₂_map_right_iff, List.forall₂_same]
  intro l _
  unfold frameEditAt
  split
  case h_1 f hf =>
    refine Edit.Follows.of_unchanged rfl rfl ?_
    intro t ht
    exact ⟨f, List.mem_of_find?_eq_some hf, by simpa using ht⟩
  case h_2 => exact Edit.Follows.of_unchanged rfl rfl (by simp)

end Pass

/-! ## The passes of a conversion -/

namespace Conversion.Passes

theorem run_colors (source : Text) :
    (Passes.run source).colors = Pass.colors Caption.swiftMark source := by
  simp only [Passes.run]

theorem run_frames (source : Text) :
    (Passes.run source).frames =
      Pass.frames (Passes.run source).frameVariables (Edit.source (Passes.run source).colors) := by
  simp only [Passes.run, frameVariables]

theorem run_texts (source : Text) :
    (Passes.run source).texts =
      Pass.texts Caption.swiftMark (Edit.source (Passes.run source).frames) := by
  simp only [Passes.run]

theorem run_fonts (source : Text) :
    (Passes.run source).fonts =
      Pass.fonts Caption.swiftMark (Edit.source (Passes.run source).texts) := by
  simp only [Passes.run]

/-- The passes obey their laws, each over what the one before left; the lines they add have the
property `ok`. -/
structure Obeys (ok : Text → Prop) (source : Text) (p : Passes) : Prop where
  colors : List.Forall₂ (fun l e => e.Follows (some ∘ .color) ok l.line) (locatedLines source)
    p.colors
  frames : List.Forall₂ (fun l e => e.Follows (fun _ => none) ok l)
    (lines (Edit.source p.colors)) p.frames
  texts : List.Forall₂ (fun l e => e.Follows (some ∘ .text) ok l.line)
    (locatedLines (Edit.source p.frames)) p.texts
  fonts : List.Forall₂ (fun l e => e.Follows (some ∘ .font) ok l.line)
    (locatedLines (Edit.source p.texts)) p.fonts

/-- A conversion makes each pass over what the one before returned. -/
theorem obeys_run {ok : Text → Prop} {source : Text} {p : Passes} (hp : Passes.run source = p)
    (hframe : ∀ v ∈ p.frameVariables, ok (Pass.boundsAssignment v))
    (hoverride : ∀ t, Pass.IsOverride (· ∈ Edit.findings p.texts)
      (· ∈ (locatedLines (Edit.source p.frames)).map Located.line) t → ok t) :
    p.Obeys ok source := by
  have hcolors := run_colors source
  have hframes := run_frames source
  have htexts := run_texts source
  have hfonts := run_fonts source
  -- each pass is given in terms of the ones before it
  rw [hp] at hcolors hframes htexts hfonts
  refine ⟨?_, ?_, ?_, ?_⟩
  · rw [hcolors]
    exact Pass.yields_colors.forall₂_edits Caption.swiftMark source ok
  · have hpass := Pass.forall₂_frames p.frameVariables (Edit.source p.colors)
    rw [← hframes] at hpass
    -- what this pass adds are assignments of the frames it was given
    refine hpass.imp fun l e h => h.mono ?_
    rintro t ⟨v, hv, rfl⟩
    exact hframe v hv
  · -- this one adds the lines above the calls that draw its texts
    have hpass := Pass.forall₂_texts Caption.swiftMark (Edit.source p.frames)
    rw [← htexts] at hpass
    exact hpass.imp fun l e h => h.mono hoverride
  · rw [hfonts]
    exact Pass.yields_fonts.forall₂_edits Caption.swiftMark (Edit.source p.texts) ok

end Conversion.Passes

end LayerView
