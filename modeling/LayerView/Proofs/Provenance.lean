import LayerView.Proofs.Declaring
import LayerView.Proofs.Traces

/-!
# Where the lines of a view come from

A conversion goes over a source seven times: it adds initialisers, replaces colors, assigns frames,
replaces texts, replaces fonts, writes declarations and adds the methods of a view.  Each time it cuts
the source into lines and joins them again.  Still every line of the drawing is in the view, in order,
with at most one color, one text and one font on it replaced, and every other line of the view stems
from one of the blocks that are inserted.

Main statements:
- `exists_edits_insertBelow`, `exists_edits_insertAbove`: blocks are inserted by edits
- `Inserted.feed_notMem`: no inserted line breaks into two
- `convert_provenance`: the lines of a converted drawing
-/

namespace LayerView

open LayerView.Text LayerView.ViewClass

/-! ## Blocks as edits -/

/-- Edits that leave all lines as they are. -/
theorem exists_edits_self (ok : Text → Prop) (ls : List Text) :
    ∃ es : List (Edit Unit), List.Forall₂ (fun l e => e.Follows (fun _ => none) ok l) ls es ∧
      es.flatMap Edit.lines = ls := by
  refine ⟨ls.map fun l => { line := l }, ?_, ?_⟩
  · rw [List.forall₂_map_right_iff, List.forall₂_same]
    intro l _
    exact Edit.Follows.of_unchanged rfl rfl (by simp)
  · simp [List.flatMap_map, Edit.lines]

/-- A block below the first line with a property is added by an edit of that line. -/
theorem exists_edits_insertBelow (p : Text → Bool) {block : List Text} {ok : Text → Prop}
    (hok : ∀ t ∈ block, ok t) (ls : List Text) :
    ∃ es : List (Edit Unit), List.Forall₂ (fun l e => e.Follows (fun _ => none) ok l) ls es ∧
      es.flatMap Edit.lines = insertBelow p block ls := by
  induction ls with
  | nil => exact ⟨[], List.Forall₂.nil, rfl⟩
  | cons l ls ih =>
    by_cases hp : p l = true
    · -- the block goes here, and the lines that follow are left alone
      obtain ⟨es, hes, hlines⟩ := exists_edits_self ok ls
      refine ⟨{ line := l, below := block } :: es, List.Forall₂.cons ?_ hes, ?_⟩
      · exact Edit.Follows.of_unchanged rfl rfl (by simpa using hok)
      · simp [insertBelow, hp, Edit.lines, hlines]
    · obtain ⟨es, hes, hlines⟩ := ih
      refine ⟨{ line := l } :: es, List.Forall₂.cons ?_ hes, ?_⟩
      · exact Edit.Follows.of_unchanged rfl rfl (by simp)
      · simp [insertBelow, hp, Edit.lines, hlines]

/-- A block above the first line that calls for one is added by an edit of that line. -/
theorem exists_edits_insertAbove {block? : Text → Option (List Text)} {ok : Text → Prop}
    {ls : List Text} (hok : ∀ block, ls.findSome? block? = some block → ∀ t ∈ block, ok t) :
    ∃ es : List (Edit Unit), List.Forall₂ (fun l e => e.Follows (fun _ => none) ok l) ls es ∧
      es.flatMap Edit.lines = insertAbove block? ls := by
  induction ls with
  | nil => exact ⟨[], List.Forall₂.nil, rfl⟩
  | cons l ls ih =>
    cases hblock : block? l with
    | some block =>
      -- the block goes above this line, and no other line is looked at
      obtain ⟨es, hes, hlines⟩ := exists_edits_self ok ls
      refine ⟨{ above := block, line := l } :: es, List.Forall₂.cons ?_ hes, ?_⟩
      · exact Edit.Follows.of_unchanged rfl rfl (by simpa using hok block (by simp [hblock]))
      · simp [insertAbove, hblock, Edit.lines, hlines]
    | none =>
      obtain ⟨es, hes, hlines⟩ := ih fun block hb => hok block (by simpa [hblock] using hb)
      refine ⟨{ line := l } :: es, List.Forall₂.cons ?_ hes, ?_⟩
      · exact Edit.Follows.of_unchanged rfl rfl (by simp)
      · simp [insertAbove, hblock, Edit.lines, hlines]

/-! ## What is inserted -/

/-- The literals that the passes replace: colors, texts, then fonts. -/
def Conversion.Passes.literals (p : Conversion.Passes) : List Finding :=
  (Edit.findings p.colors).map .color ++ (Edit.findings p.texts).map .text ++
    (Edit.findings p.fonts).map .font

/-- The lines that a conversion inserts, with what its passes found and the declarations it makes. -/
inductive Inserted (background : Text) (p : Conversion.Passes) (ds : List Declaration) :
    Text → Prop where
  | initializer {t : Text} : t ∈ initializers background → Inserted background p ds t
  | declaration {d : Declaration} : d ∈ ds → Inserted background p ds d.line
  | frame {v : FrameVariable} : v ∈ p.frameVariables →
      Inserted background p ds (Pass.boundsAssignment v)
  | override {t : Text} :
      Pass.IsOverride (· ∈ Edit.findings p.texts)
        (· ∈ (locatedLines (Edit.source p.frames)).map Located.line) t →
      Inserted background p ds t
  | drawEntry {f : DrawFunction} {t : Text} :
      firstDrawFunction? (declare p.source ds) = some f → t ∈ drawEntry f →
      Inserted background p ds t

/-- What the passes add are inserted lines. -/
theorem obeys_inserted {source background : Text} {ds : List Declaration} {p : Conversion.Passes}
    (hp : Conversion.Passes.run source = p) : p.Obeys (Inserted background p ds) source :=
  Conversion.Passes.obeys_run hp (fun _ hv => Inserted.frame hv) fun _ ht => Inserted.override ht

/-! ## Inserted lines are lines -/

theorem Conversion.Passes.Obeys.feed_notMem_literal {ok : Text → Prop} {source : Text}
    {p : Conversion.Passes} (h : p.Obeys ok source) {f : Finding} (hf : f ∈ p.literals) :
    '\n' ∉ f.literal := by
  rw [literals, List.mem_append, List.mem_append] at hf
  rcases hf with (hf | hf) | hf
  · obtain ⟨v, hv, rfl⟩ := List.mem_map.mp hf
    exact LayerView.feed_notMem_literal h.colors hv
  · obtain ⟨v, hv, rfl⟩ := List.mem_map.mp hf
    exact LayerView.feed_notMem_literal h.texts hv
  · obtain ⟨v, hv, rfl⟩ := List.mem_map.mp hf
    exact LayerView.feed_notMem_literal h.fonts hv

/-- The value of a variable that the passes give is a literal on one line, or made from one. -/
theorem Conversion.Passes.Obeys.feed_notMem_value {ok : Text → Prop} {source : Text}
    {p : Conversion.Passes} (h : p.Obeys ok source) {v : Variable} (hv : v ∈ p.allVariables) :
    '\n' ∉ v.value := by
  cases v with
  | frame v => exact (by decide : '\n' ∉ ".zero".toList)
  | color v =>
    have hf : Finding.color v ∈ p.literals := by simpa [allVariables, literals] using hv
    exact Finding.feed_notMem_value (h.feed_notMem_literal hf)
  | text v =>
    have hf : Finding.text v ∈ p.literals := by simpa [allVariables, literals] using hv
    exact Finding.feed_notMem_value (h.feed_notMem_literal hf)
  | font v =>
    have hf : Finding.font v ∈ p.literals := by simpa [allVariables, literals] using hv
    exact Finding.feed_notMem_value (h.feed_notMem_literal hf)

/-- No inserted line breaks into two when it is joined with others and cut again. -/
theorem Inserted.feed_notMem {source background : Text} {p : Conversion.Passes}
    {ds : List Declaration} (hp : Conversion.Passes.run source = p)
    (hds : (grantAll .empty p.allVariables).declarations = ds) {t : Text}
    (h : Inserted background p ds t) : '\n' ∉ t := by
  cases h with
  | initializer ht => exact feed_notMem_of_mem_lines ht
  | @declaration d hd =>
    -- what is granted was asked for, by a variable that the passes gave
    rw [← hds, grantAll, (settled_grant _).declarations_eq] at hd
    obtain ⟨v, hv, hdv⟩ := List.mem_flatMap.mp (mem_of_mem_firstOccurrences hd)
    have hobeys : p.Obeys (Inserted background p ds) source := obeys_inserted hp
    exact Variable.feed_notMem_line (hobeys.feed_notMem_value hv) hdv
  | @frame v hv =>
    -- a frame has the label of the fill color that it comes from
    obtain ⟨c, hc, rfl⟩ := List.mem_map.mp hv
    have hcolor : c ∈ Edit.findings (Pass.colors Caption.swiftMark source) := by
      rw [← Conversion.Passes.run_colors, hp]
      exact (List.mem_filter.mp hc).1
    exact feed_notMem_boundsAssignment (Pass.yields_colors.feed_notMem_label hcolor)
  | override ht =>
    -- the rectangle is cut from the call, which is a line itself
    obtain ⟨v, call, hv, hcall, -, ht⟩ := ht
    have htext : v ∈ Edit.findings (Pass.texts Caption.swiftMark (Edit.source p.frames)) := by
      rw [← hp, ← Conversion.Passes.run_texts, hp]
      exact hv
    obtain ⟨l, hl, rfl⟩ := List.mem_map.mp hcall
    exact feed_notMem_overrideBlock (Pass.feed_notMem_label_of_mem_textsFrom htext)
      (feed_notMem_of_mem_locatedLines hl) ht
  | drawEntry _ ht => exact feed_notMem_of_mem_lines ht

/-! ## The whole conversion -/

/-- Located lines and pieces without their endings are the same lines. -/
theorem forall₂_pieces_of_located {α : Type} {R : Text → Edit α → Prop} {source : Text}
    {es : List (Edit α)} (h : List.Forall₂ (fun l e => R l.line e) (locatedLines source) es) :
    List.Forall₂ R ((pieces source).map chomp) es := by
  rw [← map_line_locatedLines, List.forall₂_map_left_iff]
  exact h

/-- The block that goes above a draw function is that of the first draw function. -/
private theorem inserted_of_drawEntry {background : Text} {p : Conversion.Passes}
    {ds : List Declaration} {block : List Text}
    (h : (lines (declare p.source ds)).findSome? (fun l => (drawFunction? l).map drawEntry) =
      some block) :
    ∀ t ∈ block, Inserted background p ds t := by
  have hmap : (firstDrawFunction? (declare p.source ds)).map drawEntry = some block := by
    rw [firstDrawFunction?, List.map_findSome?]
    exact h
  obtain ⟨f, hf, rfl⟩ := Option.map_eq_some_iff.mp hmap
  intro t ht
  exact Inserted.drawEntry hf ht

/-- Seven times over the lines, from a drawing's to those of its view. -/
theorem traceable_conversion {o : Options} {source : Text} {p : Conversion.Passes}
    {ds : List Declaration} (hp : Conversion.Passes.run (Conversion.viewSource o source) = p)
    (hds : (grantAll .empty p.allVariables).declarations = ds) :
    Traceable (lines (rebase source o.baseType)) (Inserted o.background p ds)
      [.color, .text, .font] p.literals (lines (addDrawEntry (declare p.source ds))) := by
  have hobeys : p.Obeys (Inserted o.background p ds) (Conversion.viewSource o source) :=
    obeys_inserted hp
  have hok : ∀ t, Inserted o.background p ds t → '\n' ∉ t := fun t ht => ht.feed_notMem hp hds
  have hdrawn := traceable_self (lines (rebase source o.baseType)) (Inserted o.background p ds)
  -- the initialisers
  obtain ⟨es, hes, hlines⟩ := exists_edits_insertBelow opensClass
    (fun t ht => (Inserted.initializer ht : Inserted o.background p ds t))
    (lines (rebase source o.baseType))
  have hview : Edit.source es = Conversion.viewSource o source := congrArg joinLines hlines
  have hinit := hdrawn.insertion takesEnding_withoutEnding takesEnding_chomp hok hes
  rw [hview] at hinit
  -- the passes
  have hcolors := hinit.literals (k := .color) takesEnding_chomp takesEnding_withoutEnding hok
    (forall₂_pieces_of_located hobeys.colors) fun _ => rfl
  have hframes := hcolors.insertion takesEnding_withoutEnding takesEnding_chomp hok hobeys.frames
  have htexts := hframes.literals (k := .text) takesEnding_chomp takesEnding_chomp hok
    (forall₂_pieces_of_located hobeys.texts) fun _ => rfl
  have hfonts := htexts.literals (k := .font) takesEnding_chomp takesEnding_withoutEnding hok
    (forall₂_pieces_of_located hobeys.fonts) fun _ => rfl
  -- the declarations
  obtain ⟨es, hes, hlines⟩ := exists_edits_insertBelow opensClass
    (fun t ht => by
      obtain ⟨d, hd, rfl⟩ := List.mem_map.mp ht
      exact (Inserted.declaration hd : Inserted o.background p ds d.line))
    (lines p.source)
  have hdeclared : Edit.source es = declare p.source ds := congrArg joinLines hlines
  have hdecls := hfonts.insertion takesEnding_withoutEnding takesEnding_withoutEnding hok hes
  rw [hdeclared] at hdecls
  -- the methods of a view
  obtain ⟨es, hes, hlines⟩ := exists_edits_insertAbove
    fun _ hblock t ht => (inserted_of_drawEntry hblock t ht : Inserted o.background p ds t)
  have hentry : Edit.source es = addDrawEntry (declare p.source ds) := congrArg joinLines hlines
  have hfinal := hdecls.insertion takesEnding_withoutEnding takesEnding_withoutEnding hok hes
  rw [hentry] at hfinal
  exact hfinal

/-- Every line of a Swift drawing is in its view, in order and with nothing changed but the literals
that became properties; every other line of the view stems from an inserted one. -/
theorem convert_provenance (o : Options) (source : Text) (ho : o.dialect = .swift) :
    ∃ view, (convert o source).value = some view ∧
      Nonempty (Provenance
        (Inserted o.background (Conversion.Passes.run (Conversion.viewSource o source))
          view.declarations)
        (Conversion.Passes.run (Conversion.viewSource o source)).literals
        (lines (rebase source o.baseType)) (lines view.source)) := by
  refine ⟨(Conversion.run o source).value, by simp only [convert, ho], ?_⟩
  apply Traceable.provenance
  simp only [Conversion.run]
  exact traceable_conversion rfl rfl

/-- A drawing of six lines with a carriage return and a blank line at the end. -/
def dotDrawing : Text :=
  "class Dot: NSObject \x7b\r\n/// Dot\nUIColor.white.setFill()\n dot.fill()\n\x7d\n\r\n".toList

/-- The view of that drawing has five drawn lines, since the blank one is gone, two declarations, one
assignment, and the fifteen lines of the initialisers. -/
theorem convert_provenance_dot :
    (lines (rebase dotDrawing "UIView".toList)).length = 6 ∧
    ((convert { dialect := .swift } dotDrawing).value.map fun view => (lines view.source).length) =
      some 23 ∧
    ∃ view, (convert { dialect := .swift } dotDrawing).value = some view ∧
      Nonempty (Provenance
        (Inserted ".clear".toList
          (Conversion.Passes.run (Conversion.viewSource { dialect := .swift } dotDrawing))
          view.declarations)
        (Conversion.Passes.run (Conversion.viewSource { dialect := .swift } dotDrawing)).literals
        (lines (rebase dotDrawing "UIView".toList)) (lines view.source)) :=
  ⟨by decide +kernel, by decide +kernel, convert_provenance { dialect := .swift } dotDrawing rfl⟩

end LayerView
