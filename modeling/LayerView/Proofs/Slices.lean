import LayerView.Proofs.Findings
import LayerView.Proofs.Recoloring

/-!
# Parts of a text by byte offsets

A conversion can be told without byte offsets, since a capture holds the texts around a literal.
Here the same searches are told with them: places are numbers, a part of a text is asked for by two
of them, and asking fails outside the text, inside a character, or when the two are the wrong way
round.  So does taking a larger number from a smaller one.

Nothing of this ever fails.  The searches give what the captures say, the ranges at which a pass
rewrites a line are ranges of that line, and each range at which a color is replaced is a range of
the code that the replacements before it have left.

Main statements:
- `isSome_slice?_iff`: what can be asked for
- `Delimited.span?_eq`, `CallSuffix.span?_eq`, `rectSpan?_eq`: the searches by offsets never fail
- `forall₂_colors_cuts`, `forall₂_texts_cuts`, `forall₂_fonts_cuts`: nor do the passes
- `slices_in_range`: all of it together, with the recoloring of a pair
-/

namespace LayerView.Text

/-! ## Ranges -/

/-- An offset between two characters of a text, or at one of its ends. -/
def IsBoundary (t : Text) (n : Nat) : Prop := ∃ before after, t = before ++ after ∧ size before = n

/-- Two offsets with a part of a text between them. -/
structure IsRange (t : Text) (start stop : Nat) : Prop where
  start_le_stop : start ≤ stop
  stop_le_size : stop ≤ size t
  start_boundary : IsBoundary t start
  stop_boundary : IsBoundary t stop

theorem isRange_append (before mid after : Text) :
    IsRange (before ++ mid ++ after) (size before) (size before + size mid) where
  start_le_stop := Nat.le_add_right _ _
  stop_le_size := by
    rw [size_append, size_append]
    exact Nat.le_add_right _ _
  start_boundary := ⟨before, mid ++ after, List.append_assoc _ _ _, rfl⟩
  stop_boundary := ⟨before ++ mid, after, rfl, size_append _ _⟩

/-- A cut is where the sizes say it is, and nowhere else. -/
theorem cut?_eq_some_iff {n : Nat} {t before after : Text} :
    cut? n t = some (before, after) ↔ t = before ++ after ∧ size before = n := by
  constructor
  · intro h
    induction t generalizing n before with
    | nil =>
      cases n with
      | zero =>
        obtain ⟨rfl, rfl⟩ : [] = before ∧ [] = after := by simpa [cut?] using h
        exact ⟨rfl, rfl⟩
      | succ n => simp [cut?] at h
    | cons c t ih =>
      cases n with
      | zero =>
        obtain ⟨rfl, rfl⟩ : [] = before ∧ c :: t = after := by simpa [cut?] using h
        exact ⟨rfl, rfl⟩
      | succ n =>
        -- the first character is taken off if the offset is not inside it
        rw [cut?] at h
        split at h
        case isTrue hle =>
          obtain ⟨⟨b, a⟩, hcut, hparts⟩ := Option.map_eq_some_iff.mp h
          obtain ⟨rfl, rfl⟩ : c :: b = before ∧ a = after := by simpa using hparts
          obtain ⟨rfl, hsize⟩ := ih hcut
          exact ⟨rfl, by rw [size_cons, hsize]; omega⟩
        case isFalse => simp at h
  · rintro ⟨rfl, rfl⟩
    exact cut?_append before after

/-- The part of a text between two offsets. -/
def slice? (t : Text) (start stop : Nat) : Option Text := do
  let (head, _) ← cut? stop t
  let (_, part) ← cut? start head
  return part

/-- The part between two offsets is where the sizes before it say. -/
theorem slice?_eq_some_iff {t part : Text} {start stop : Nat} :
    slice? t start stop = some part ↔
      ∃ before after, t = before ++ part ++ after ∧ size before = start ∧
        size before + size part = stop := by
  simp only [slice?, Option.bind_eq_bind, Option.bind_eq_some_iff, Prod.exists, cut?_eq_some_iff]
  constructor
  · -- the stop is cut first, and the start within what is before it
    rintro ⟨head, after, ⟨rfl, hstop⟩, before, mid, ⟨rfl, hstart⟩, hpart⟩
    obtain rfl : mid = part := Option.some.inj hpart
    exact ⟨before, after, rfl, hstart, by rw [← hstop, size_append]⟩
  · rintro ⟨before, after, rfl, hstart, hstop⟩
    exact ⟨before ++ part, after, ⟨rfl, by rw [size_append, hstop]⟩, before, part,
      ⟨rfl, hstart⟩, rfl⟩

/-- There is a part between two offsets exactly when they are in order, within the text and on its
boundaries. -/
theorem isSome_slice?_iff {t : Text} {start stop : Nat} :
    (slice? t start stop).isSome ↔ IsRange t start stop := by
  rw [Option.isSome_iff_exists]
  constructor
  · rintro ⟨part, h⟩
    obtain ⟨before, after, rfl, rfl, rfl⟩ := slice?_eq_some_iff.mp h
    exact isRange_append before part after
  · rintro ⟨hle, -, ⟨b, a, hstart, rfl⟩, ⟨head, tail, hstop, rfl⟩⟩
    -- of two leading parts of one text the smaller leads the larger
    obtain ⟨part, hpart⟩ : b <+: head := by
      have hb : b <+: t := ⟨a, hstart.symm⟩
      have hhead : head <+: t := ⟨tail, hstop.symm⟩
      rcases List.prefix_or_prefix_of_prefix hb hhead with h | ⟨extra, rfl⟩
      · exact h
      · have hnil : extra = [] := by
          by_contra hne
          have hpos := size_pos hne
          rw [size_append] at hle
          omega
        rw [hnil, List.append_nil]
    refine ⟨part, slice?_eq_some_iff.mpr ⟨b, tail, ?_, rfl, ?_⟩⟩
    · rw [hpart, hstop]
    · rw [← size_append, hpart]

theorem slice?_head (before after : Text) :
    slice? (before ++ after) 0 (size before) = some before :=
  slice?_eq_some_iff.mpr ⟨[], after, rfl, rfl, Nat.zero_add _⟩

theorem slice?_tail (before after : Text) :
    slice? (before ++ after) (size before) (size (before ++ after)) = some after :=
  slice?_eq_some_iff.mpr ⟨before, [], by rw [List.append_nil], rfl, (size_append _ _).symm⟩

/-- The difference of two numbers of which the second is not larger. -/
def minus? (a b : Nat) : Option Nat := if b ≤ a then some (a - b) else none

theorem minus?_add (a b : Nat) : minus? (a + b) b = some a := by
  rw [minus?, if_pos (Nat.le_add_left b a), Nat.add_sub_cancel]

/-! ## Searches -/

/-- The offset at which a needle occurs for the first time. -/
def offsetOf? (needle t : Text) : Option Nat :=
  (breakOn? needle t).map fun (before, _) => size before

/-- The text before the first needle, asked for by offsets, and whether there is a needle. -/
def sliceBefore? (needle t : Text) : Option (Text × Bool) :=
  match offsetOf? needle t with
  | some stop => (slice? t 0 stop).map fun part => (part, true)
  | none => some (t, false)

private theorem sliceBefore?_eq (needle t : Text) :
    sliceBefore? needle t = some ((cutBefore needle t).1, (cutBefore needle t).2.2) := by
  unfold sliceBefore? cutBefore offsetOf?
  cases h : breakOn? needle t with
  | none => rfl
  | some parts =>
    obtain ⟨before, after⟩ := parts
    have ht := eq_append_of_breakOn? h
    rw [List.append_assoc] at ht
    show (slice? t 0 (size before)).map _ = _
    rw [ht, slice?_head]
    rfl

/-- A search goes past characters that the needle does not start with. -/
private theorem breakOn?_append_of_notMem {c : Char} {needle front : Text} (hfront : c ∉ front)
    (t : Text) :
    breakOn? (c :: needle) (front ++ t) =
      (breakOn? (c :: needle) t).map fun (before, after) => (front ++ before, after) := by
  induction front with
  | nil => simp
  | cons d front ih =>
    rw [List.mem_cons, not_or] at hfront
    -- the needle starts with another character than `d`
    have hpre : (c :: needle).isPrefixOf (d :: (front ++ t)) = false := by
      simp [List.isPrefixOf, hfront.1]
    rw [List.cons_append, breakOn?, hpre, ih hfront.2, Option.map_map]
    rfl

end LayerView.Text

namespace LayerView

open LayerView.Text

/-! ## Literals by offsets -/

/-- A literal as a range of its line. -/
structure Span where
  start : Nat
  stop : Nat
  text : Text
  closed : Bool
deriving DecidableEq, Repr

/-- Where a capture stands. -/
def Capture.span (c : Capture) : Span := ⟨c.start, c.stop, c.text, c.closed⟩

/-- The literal after the first left delimiter, found by offsets.  The outer result is `none` where
a part is asked for that is not there. -/
def Delimited.span? (d : Delimited) (line : Text) : Option (Option Span) :=
  match offsetOf? d.left line with
  | none => some none
  | some lead => do
    let start := lead + size d.left
    let rest ← slice? line start (size line)
    let (segment, _) ← sliceBefore? d.left rest
    let (text, closed) ← sliceBefore? d.right segment
    return if text.isEmpty then none else some ⟨start, start + size text, text, closed⟩

/-- The search by offsets asks for no part that is not there, and finds what the search by texts
finds. -/
theorem Delimited.span?_eq (d : Delimited) (line : Text) :
    d.span? line = some ((d.find? line).map Capture.span) := by
  unfold Delimited.span? Delimited.find? offsetOf?
  cases h : breakOn? d.left line with
  | none => rfl
  | some parts =>
    obtain ⟨lead, rest⟩ := parts
    have hline := eq_append_of_breakOn? h
    have hrest : slice? line (size lead + size d.left) (size line) = some rest := by
      rw [hline, ← size_append]
      exact slice?_tail (lead ++ d.left) rest
    -- both searches now cut the same texts in the same places
    simp only [Option.map_some, Option.bind_eq_bind, Option.bind_some, hrest, sliceBefore?_eq]
    split
    · rfl
    · simp [Capture.span, Capture.start, Capture.stop]

/-- The receiver of the first call, found by offsets; the blanks before it are counted as what
trimming the start takes off. -/
def CallSuffix.span? (s : CallSuffix) (line : Text) : Option (Option Span) :=
  match offsetOf? s.marker line with
  | none => some none
  | some stop => do
    let head ← slice? line 0 stop
    let text := trim head
    if text.isEmpty then return none
    else
      let start ← minus? (size head) (size (trimStart head))
      return some ⟨start, start + size text, text, true⟩

/-- What trimming the start of a text takes off. -/
private theorem minus?_trimStart (t : Text) :
    minus? (size t) (size (trimStart t)) = some (size (t.takeWhile isBlank)) := by
  have hsize : size t = size (t.takeWhile isBlank) + size (trimStart t) := by
    rw [← size_append]
    exact congrArg size List.takeWhile_append_dropWhile.symm
  rw [hsize, minus?_add]

/-- So it is with the receivers of calls. -/
theorem CallSuffix.span?_eq (s : CallSuffix) (line : Text) :
    s.span? line = some ((s.find? line).map Capture.span) := by
  unfold CallSuffix.span? CallSuffix.find? offsetOf?
  cases h : breakOn? s.marker line with
  | none => rfl
  | some parts =>
    obtain ⟨head, rest⟩ := parts
    -- the receiver is looked for in what is before the call
    have hhead : slice? line 0 (size head) = some head := by
      rw [eq_append_of_breakOn? h, List.append_assoc]
      exact slice?_head head (s.marker ++ rest)
    simp only [Option.map_some, Option.bind_eq_bind, Option.bind_some, hhead, minus?_trimStart]
    split
    · rfl
    · rfl

/-- The rectangle of a draw call, found by offsets: the search for its end begins at its start. -/
def rectSpan? (line : Text) : Option (Option Text) :=
  match offsetOf? rectOpening line with
  | none => some none
  | some start => do
    let rest ← slice? line start (size line)
    match offsetOf? "))".toList rest with
    | none => return none
    | some length =>
      let part ← slice? line start (start + length)
      return some (part ++ [')'])

/-- And so with rectangles. -/
theorem rectSpan?_eq (line : Text) : rectSpan? line = some (rectLiteral? line) := by
  unfold rectSpan? rectLiteral? offsetOf?
  cases h : breakOn? rectOpening line with
  | none => rfl
  | some parts =>
    obtain ⟨lead, rest⟩ := parts
    have hline : line = lead ++ (rectOpening ++ rest) := by
      rw [eq_append_of_breakOn? h, List.append_assoc]
    have hrest : slice? line (size lead) (size line) = some (rectOpening ++ rest) := by
      rw [hline]
      exact slice?_tail lead (rectOpening ++ rest)
    -- no bracket is closed in the opening, so the end is found behind it
    have hsearch : breakOn? "))".toList (rectOpening ++ rest) =
        (breakOn? "))".toList rest).map fun (inner, after) => (rectOpening ++ inner, after) :=
      breakOn?_append_of_notMem (by decide) rest
    simp only [Option.map_some, Option.bind_eq_bind, Option.bind_some, hrest, hsearch]
    cases hend : breakOn? "))".toList rest with
    | none => rfl
    | some parts =>
      obtain ⟨inner, after⟩ := parts
      have hpart : slice? line (size lead) (size lead + size (rectOpening ++ inner)) =
          some (rectOpening ++ inner) := by
        refine slice?_eq_some_iff.mpr ⟨lead, "))".toList ++ after, ?_, rfl, rfl⟩
        rw [hline, eq_append_of_breakOn? hend]
        simp only [List.append_assoc]
      simp only [Option.map_some, Option.bind_some, hpart]
      rfl

/-! ## Passes -/

variable {α β : Type}

/-- What an edit does to a line, by offsets.  Where something was found, the reference to it takes
the place of a range of the line; any other line stays. -/
structure Edit.Cuts (range? : Text → Option (Nat × Nat)) (reference : α → Text) (old : Text)
    (e : Edit α) : Prop where
  found : ∀ v, e.found? = some v → ∃ start stop, range? old = some (start, stop) ∧
    IsRange old start stop ∧ splice? old start stop (reference v) = some e.line
  unfound : e.found? = none → e.line = old

theorem Edit.Cuts.of_unchanged {range? : Text → Option (Nat × Nat)} {reference : α → Text}
    {old : Text} {e : Edit α} (hfound : e.found? = none) (hline : e.line = old) :
    e.Cuts range? reference old where
  found v hv := by
    rw [hfound] at hv
    exact absurd hv (Option.some_ne_none v).symm
  unfound _ := hline

/-- It is enough that the line is cut into three parts of which the middle one is replaced. -/
theorem Edit.Cuts.of_parts (before mid after : Text) {range? : Text → Option (Nat × Nat)}
    {reference : α → Text} {old : Text} {e : Edit α} {v : α} (hfound : e.found? = some v)
    (hrange : range? old = some (size before, size before + size mid))
    (hold : old = before ++ mid ++ after) (hline : e.line = before ++ reference v ++ after) :
    e.Cuts range? reference old where
  found w hw := by
    obtain rfl : v = w := Option.some.inj (hfound.symm.trans hw)
    refine ⟨_, _, hrange, ?_, ?_⟩
    · rw [hold]
      exact isRange_append before mid after
    · rw [hold, hline]
      exact splice?_append before mid after (reference v)
  unfound h := by
    rw [hfound] at h
    exact absurd h (Option.some_ne_none v)

namespace Pass

/-- Where the color of a line stands. -/
def colorRange? (line : Text) : Option (Nat × Nat) :=
  (color? line).map fun (_, c) => (c.start, c.stop)

/-- Where the font of a line stands. -/
def fontRange? (line : Text) : Option (Nat × Nat) :=
  (fontValue.find? line).map fun c => (c.start, c.stop)

/-- Where the text of a line stands with its quotes, each of which is one byte. -/
def textRange? (line : Text) : Option (Nat × Nat) := do
  let c ← text? line
  let start ← minus? c.start 1
  return (start, c.stop + 1)

/-- A pass over literals of one kind cuts each line where its search has captured something. -/
theorem LiteralKind.Yields.forall₂_edits_cuts {k : LiteralKind β α} {finding : α → Finding}
    (h : k.Yields finding) {range? : Text → Option (Nat × Nat)}
    (hrange : ∀ line told c, k.find? line = some (told, c) → range? line = some (c.start, c.stop))
    (mark source : Text) : List.Forall₂ (fun l e => Edit.Cuts range? k.reference l.line e)
      (locatedLines source) (k.edits mark source) := by
  unfold edits
  rw [List.forall₂_map_right_iff, List.forall₂_same]
  intro l _
  unfold editAt
  split
  case h_1 v c hat =>
    obtain ⟨told, label, hfind, -, -⟩ := at?_eq_some_iff.mp hat
    -- what was captured is a part of the line, with its offsets
    have hline := h.line_eq _ _ _ hfind
    exact Edit.Cuts.of_parts c.before c.text c.after rfl (hrange _ _ _ hfind) hline.symm rfl
  case h_2 => exact Edit.Cuts.of_unchanged rfl rfl

theorem forall₂_colors_cuts (mark source : Text) :
    List.Forall₂ (fun l e => Edit.Cuts colorRange? (fun v => propertyRead v.name) l.line e)
      (locatedLines source) (colors mark source) := by
  apply yields_colors.forall₂_edits_cuts
  intro line use c hfind
  exact congrArg (Option.map _) hfind

theorem forall₂_fonts_cuts (mark source : Text) :
    List.Forall₂ (fun l e => Edit.Cuts fontRange? FontVariable.name l.line e)
      (locatedLines source) (fonts mark source) := by
  apply yields_fonts.forall₂_edits_cuts
  intro line told c hfind
  exact congrArg (Option.map _) (find?_fontLiteral_eq_some_iff.mp hfind)

private theorem textEdit_cuts {line : Text} {c : Capture} (h : text? line = some c)
    (v : TextVariable) : (textEdit v c).Cuts textRange? TextVariable.name line := by
  obtain ⟨before, after, hbefore, hafter⟩ := quotes_of_text? h
  have hline := Delimited.line_eq_of_find? (Option.filter_eq_some_iff.mp h).1
  have hquote : size ['"'] = 1 := by decide
  -- the byte before the literal is the quote, so there is one to step back over
  have hstart : c.start = size before + 1 := by rw [Capture.start, hbefore, size_append, hquote]
  have hstop : c.stop + 1 = size before + size (['"'] ++ c.text ++ ['"']) := by
    rw [Capture.stop, hbefore]
    simp only [size_append, hquote]
    omega
  refine Edit.Cuts.of_parts before (['"'] ++ c.text ++ ['"']) after rfl ?_ ?_ ?_
  · simp only [textRange?, h, Option.bind_eq_bind, Option.bind_some, hstart, minus?_add, hstop]
    rfl
  · rw [← hline, Capture.line, hbefore, hafter]
    simp
  · simp [textEdit, Capture.widen, Capture.fill, hbefore, hafter]

private theorem textEditAt_cuts (mark source : Text) (w : DrawWatch) (l : Located) :
    (textEditAt mark source w l).1.Cuts textRange? TextVariable.name l.line := by
  unfold textEditAt
  split
  case h_1 c h =>
    split
    · -- a literal of a layer; without a label it stays
      exact textEdit_cuts h _
    · exact Edit.Cuts.of_unchanged rfl rfl
  case h_2 => exact Edit.Cuts.of_unchanged rfl rfl

theorem forall₂_texts_cuts (mark source : Text) :
    List.Forall₂ (fun l e => Edit.Cuts textRange? TextVariable.name l.line e)
      (locatedLines source) (texts mark source) := by
  unfold texts
  -- the watch changes from line to line, and no line depends on it for its range
  generalize DrawWatch.idle = w
  generalize locatedLines source = ls
  induction ls generalizing w with
  | nil => exact List.Forall₂.nil
  | cons l ls ih => exact List.Forall₂.cons (textEditAt_cuts mark source w l) (ih _)

end Pass

/-! ## Recoloring -/

namespace Pair

/-- When the replacements after a match have been made, its color is where it was.  `front` is the
text before the first gap. -/
private theorem exists_parts_of_located (front : Text) {before after : List PaintMatch}
    {m : PaintMatch} {gap : Text} {pairs : List (PaintMatch × Text)}
    (hloc : Located (size front) gap pairs)
    (hpairs : pairs.map Prod.fst = before ++ m :: after) :
    ∃ lead rest, m.start = size lead ∧
      replaceColors after (front ++ weave PaintMatch.color gap pairs) =
        lead ++ m.color ++ rest := by
  induction before generalizing front gap pairs with
  | nil =>
    -- the match is the first, and all that was replaced lies behind it
    obtain ⟨⟨m', next⟩, ms, rfl, rfl, rfl⟩ := List.map_eq_cons_iff.mp hpairs
    obtain ⟨hstart, hrest⟩ := hloc
    rw [← size_append] at hstart
    rw [hstart, ← size_append] at hrest
    refine ⟨front ++ gap, weave PaintMatch.reference next ms, hstart, ?_⟩
    rw [← replaceColors_weave _ next ms hrest]
    simp only [weave, List.append_assoc]
  | cons b before ih =>
    -- an earlier match is not replaced yet, so it is part of the text in front
    obtain ⟨⟨b', next⟩, ms, rfl, rfl, hms⟩ := List.map_eq_cons_iff.mp hpairs
    obtain ⟨hstart, hrest⟩ := hloc
    rw [hstart, ← size_append, ← size_append] at hrest
    obtain ⟨lead, rest, hm, hcode⟩ := ih _ hrest hms
    refine ⟨lead, rest, hm, ?_⟩
    rw [← hcode]
    simp only [weave, List.append_assoc]

/-- A color is there at the moment it is replaced, since the later ones have been replaced before
it. -/
theorem replaceColors_in_range {code : Text} {before after : List PaintMatch} {m : PaintMatch}
    (h : colorMatches code = before ++ m :: after) :
    IsRange (replaceColors after code) m.start (m.start + size m.color) ∧
      splice? (replaceColors after code) m.start (m.start + size m.color) m.reference =
        some (replaceColors (m :: after) code) := by
  obtain ⟨gap, pairs, hpairs, hflat, hloc⟩ := exists_gaps code 0 (piecesAt ';' code)
  have hmatches : pairs.map Prod.fst = before ++ m :: after := by
    rw [hpairs, ← h, colorMatches_eq_filterMap]
    rfl
  -- the code is put together from gaps, and those before this match are as they were
  obtain ⟨lead, rest, hstart, hcode⟩ := exists_parts_of_located [] hloc hmatches
  rw [List.nil_append, ← hflat, flatten_piecesAt] at hcode
  have hsplice : splice? (replaceColors after code) m.start (m.start + size m.color) m.reference =
      some (lead ++ m.reference ++ rest) := by
    rw [hcode, hstart]
    exact splice?_append lead m.color rest m.reference
  refine ⟨?_, ?_⟩
  · rw [hcode, hstart]
    exact isRange_append lead m.color rest
  · show _ = some (replaceColor m (replaceColors after code))
    rw [replaceColor, hsplice]
    rfl

end Pair

/-- Every part that a conversion asks for by byte offsets is there: in each search for a literal,
in each line that a pass rewrites, the widening of a text to its quotes included, and at each color
of a pair at the moment it is replaced. -/
theorem slices_in_range (mark source code : Text) :
    (∀ t start stop, (slice? t start stop).isSome ↔ IsRange t start stop) ∧
    (∀ (d : Delimited) line, d.span? line = some ((d.find? line).map Capture.span)) ∧
    (∀ (s : CallSuffix) line, s.span? line = some ((s.find? line).map Capture.span)) ∧
    (∀ line, rectSpan? line = some (rectLiteral? line)) ∧
    List.Forall₂
      (fun l e => Edit.Cuts Pass.colorRange? (fun v => Pass.propertyRead v.name) l.line e)
      (locatedLines source) (Pass.colors mark source) ∧
    List.Forall₂ (fun l e => Edit.Cuts Pass.textRange? TextVariable.name l.line e)
      (locatedLines source) (Pass.texts mark source) ∧
    List.Forall₂ (fun l e => Edit.Cuts Pass.fontRange? FontVariable.name l.line e)
      (locatedLines source) (Pass.fonts mark source) ∧
    ∀ before m after, Pair.colorMatches code = before ++ m :: after →
      IsRange (Pair.replaceColors after code) m.start (m.start + size m.color) ∧
      splice? (Pair.replaceColors after code) m.start (m.start + size m.color) m.reference =
        some (Pair.replaceColors (m :: after) code) :=
  ⟨fun _ _ _ => isSome_slice?_iff, Delimited.span?_eq, CallSuffix.span?_eq, rectSpan?_eq,
    Pass.forall₂_colors_cuts mark source, Pass.forall₂_texts_cuts mark source,
    Pass.forall₂_fonts_cuts mark source, fun _ _ _ => Pair.replaceColors_in_range⟩

end LayerView
