import LayerView.Proofs.Provenance

/-!
# Declarations in the source of a view

The declarations of a view are written below the first line that opens a class.  Two things follow
that are not obvious.  Literals are replaced wherever they stand, also in a source in which no line
opens a class; then the declarations are written nowhere, and the view is as if it had none.  And the
methods of a view go above the first line that reads like a draw function, which may be one of the
declarations.  In all other sources the declarations stand below the class line, one after the other.

Main statements:
- `lines_joinLines_around`: a block of lines survives being joined and cut
- `insertAbove_around`: and the insertion of lines elsewhere
- `convert_declarations_written`: where the declarations of a view are written
-/

namespace LayerView

open LayerView.Text LayerView.ViewClass

/-! ## A block of lines that is joined and cut again -/

/-- A line that does not end with a carriage return loses none. -/
private theorem eq_of_trims {t u : Text} (h : Trims t u) (ht : t.getLast? ≠ some '\r') : u = t := by
  obtain ⟨n, rfl⟩ := h
  cases n with
  | zero => simp
  | succ n =>
    -- the last character that was cut off is the last of the line
    simp [List.replicate_succ', ← List.append_assoc] at ht

private theorem eq_of_forall₂_trims {ts us : List Text} (h : List.Forall₂ Trims ts us)
    (hts : ∀ t ∈ ts, t.getLast? ≠ some '\r') : us = ts := by
  induction h with
  | nil => rfl
  | @cons t u ts us htu _ ih =>
    rw [eq_of_trims htu (hts t List.mem_cons_self),
      ih fun t' ht' => hts t' (List.mem_cons_of_mem t ht')]

theorem exists_append_of_forall₂ {α β : Type} {R : α → β → Prop} {as bs : List α} {cs : List β}
    (h : List.Forall₂ R (as ++ bs) cs) :
    ∃ cs₁ cs₂, cs = cs₁ ++ cs₂ ∧ List.Forall₂ R as cs₁ ∧ List.Forall₂ R bs cs₂ := by
  induction as generalizing cs with
  | nil => exact ⟨[], cs, rfl, List.Forall₂.nil, h⟩
  | cons a as ih =>
    cases h with
    | @cons _ c _ cs hac hrest =>
      obtain ⟨cs₁, cs₂, rfl, has, hbs⟩ := ih hrest
      exact ⟨c :: cs₁, cs₂, rfl, List.Forall₂.cons hac has, hbs⟩

/-- Empty lines that are cut off at the end do not reach a line that is not empty. -/
private theorem exists_append_of_append_eq {front after kept gone : List Text} {l : Text}
    (h : front ++ l :: after = kept ++ gone) (hl : l ≠ []) (hgone : ∀ t ∈ gone, t = []) :
    ∃ rest, kept = front ++ l :: rest ∧ after = rest ++ gone := by
  rcases List.append_eq_append_iff.mp h with ⟨mid, hkept, hmid⟩ | ⟨mid, -, hmid⟩
  · cases mid with
    | nil =>
      -- the line would be the first of those that are gone
      exact absurd (hgone l (by rw [← List.nil_append gone, ← hmid]; simp)) hl
    | cons k rest =>
      obtain ⟨rfl, hafter⟩ := List.cons.inj hmid
      exact ⟨rest, hkept, hafter⟩
  · -- the line would be gone with those behind it
    exact absurd (hgone l (by rw [hmid]; simp)) hl

/-- Nor do they reach into a block without empty lines. -/
private theorem exists_block_of_append_eq {block after rest gone : List Text}
    (h : block ++ after = rest ++ gone) (hblock : ∀ t ∈ block, t ≠ [])
    (hgone : ∀ t ∈ gone, t = []) : ∃ rest', rest = block ++ rest' := by
  induction block generalizing rest with
  | nil => exact ⟨rest, rfl⟩
  | cons b block ih =>
    have hb : b ≠ [] := hblock b List.mem_cons_self
    cases rest with
    | nil =>
      have hmem : b ∈ gone := by
        rw [← List.nil_append gone, ← h]
        exact List.mem_cons_self
      exact absurd (hgone b hmem) hb
    | cons c rest =>
      obtain ⟨rfl, hrest⟩ := List.cons.inj h
      obtain ⟨rest', rfl⟩ := ih hrest fun t ht => hblock t (List.mem_cons_of_mem b ht)
      exact ⟨rest', rfl⟩

/-- Lines of a block that are not empty and do not end with a carriage return come back as they are,
below the line that they were put below. -/
theorem lines_joinLines_around {before block after : List Text} {l : Text}
    (hfeed : ∀ t ∈ before ++ l :: (block ++ after), '\n' ∉ t) (hl : l ≠ [])
    (hblock : ∀ t ∈ block, t ≠ [] ∧ t.getLast? ≠ some '\r') :
    ∃ before' l' after', lines (joinLines (before ++ l :: (block ++ after))) =
      before' ++ l' :: (block ++ after') ∧ Trims l l' := by
  obtain ⟨kept, gone, hsplit, hgone, htrims⟩ :=
    map_pieces_joinLines takesEnding_withoutEnding hfeed
  obtain ⟨rest, rfl, hrest⟩ := exists_append_of_append_eq hsplit hl hgone
  obtain ⟨rest', rfl⟩ := exists_block_of_append_eq hrest (fun t ht => (hblock t ht).1) hgone
  -- line by line, what comes back is the old line less carriage returns
  obtain ⟨before', tail, hlines, -, htail⟩ := exists_append_of_forall₂ htrims
  cases htail with
  | @cons _ l' _ tail hl' htail =>
    obtain ⟨block', after', rfl, hkept, -⟩ := exists_append_of_forall₂ htail
    obtain rfl := eq_of_forall₂_trims hkept fun t ht => (hblock t ht).2
    exact ⟨before', l', after', hlines, hl'⟩

/-! ## Lines that are inserted elsewhere -/

private theorem insertAbove_append_of_forall {block? : Text → Option (List Text)}
    {block : List Text} (hblock : ∀ t ∈ block, block? t = none) (after : List Text) :
    insertAbove block? (block ++ after) = block ++ insertAbove block? after := by
  induction block with
  | nil => rfl
  | cons b block ih =>
    simp only [List.cons_append, insertAbove, hblock b List.mem_cons_self]
    rw [ih fun t ht => hblock t (List.mem_cons_of_mem b ht)]

/-- A block none of whose lines calls for an insertion stays together, below the same line. -/
theorem insertAbove_around {block? : Text → Option (List Text)} {block : List Text}
    (hblock : ∀ t ∈ block, block? t = none) (before : List Text) (l : Text) (after : List Text) :
    ∃ before' after', insertAbove block? (before ++ l :: (block ++ after)) =
      before' ++ l :: (block ++ after') := by
  induction before with
  | nil =>
    -- the line itself may call for lines above it, which leaves the block where it is
    cases hl : block? l with
    | some added => exact ⟨added, after, by simp [insertAbove, hl]⟩
    | none =>
      refine ⟨[], insertAbove block? after, ?_⟩
      simp [insertAbove, hl, insertAbove_append_of_forall hblock]
  | cons k before ih =>
    cases hk : block? k with
    -- the first line that calls for lines is above the block
    | some added => exact ⟨added ++ k :: before, after, by simp [insertAbove, hk]⟩
    | none =>
      obtain ⟨before', after', h⟩ := ih
      exact ⟨k :: before', after', by simp [insertAbove, hk, h]⟩

/-- The methods of a view are given line by line. -/
private theorem feed_notMem_of_mem_insertAbove {ls : List Text} (hls : ∀ l ∈ ls, '\n' ∉ l)
    {t : Text} (ht : t ∈ insertAbove (fun l => (drawFunction? l).map drawEntry) ls) : '\n' ∉ t := by
  have hentry : ∀ block, ls.findSome? (fun l => (drawFunction? l).map drawEntry) = some block →
      ∀ t ∈ block, '\n' ∉ t := by
    intro block hblock t ht
    obtain ⟨l, -, hl⟩ := List.exists_of_findSome?_eq_some hblock
    obtain ⟨f, -, rfl⟩ := Option.map_eq_some_iff.mp hl
    exact feed_notMem_of_mem_lines ht
  -- told as edits, the insertion keeps to its lines and those that it adds
  obtain ⟨es, hes, hlines⟩ := exists_edits_insertAbove hentry
  rw [← hlines] at ht
  obtain ⟨e, he, hte⟩ := List.mem_flatMap.mp ht
  obtain ⟨l, hl, hle⟩ := exists_line_of_mem hes he
  exact hle.feed_notMem (hls l hl) (fun _ h => h) t hte

/-! ## The lines of a view -/

/-- The start of a class line has no carriage return. -/
private theorem opensClass_of_trims {l l' : Text} (hl : opensClass l = true) (h : Trims l l') :
    opensClass l' = true := by
  obtain ⟨n, rfl⟩ := h
  have hclass : "class ".toList <+: l' ++ List.replicate n '\r' := List.isPrefixOf_iff_prefix.mp hl
  apply List.isPrefixOf_iff_prefix.mpr
  rcases List.prefix_or_prefix_of_prefix hclass (List.prefix_append l' _) with h | ⟨s, hs⟩
  · exact h
  · -- what the line lacks of the word would be carriage returns
    rw [← hs, List.prefix_append_right_inj] at hclass
    have hreturn : ∀ c ∈ s, c = '\r' := fun c hc =>
      List.eq_of_mem_replicate (hclass.subset hc)
    cases s with
    | nil => exact ⟨[], by rw [← hs]; simp⟩
    | cons c s =>
      have hmem : '\r' ∈ "class ".toList := by
        rw [← hs, ← hreturn c List.mem_cons_self]
        simp
      exact absurd hmem (by decide)

theorem ne_nil_of_opensClass {l : Text} (hl : opensClass l = true) : l ≠ [] := by
  rintro rfl
  exact absurd hl (by decide)

/-- A declaration whose line is not changed by what is done to a source after it was written. -/
structure Declaration.StaysWhole (d : Declaration) : Prop where
  unended : d.line.getLast? ≠ some '\r'
  noDrawFunction : drawFunction? d.line = none

private theorem Declaration.line_ne_nil (d : Declaration) : d.line ≠ [] := by
  unfold Declaration.line
  simp only [List.append_assoc]
  exact List.append_ne_nil_of_left_ne_nil (by decide) _

/-- A block of declarations below a class line is there when the methods of a view were added. -/
theorem exists_lines_addDrawEntry {ds : List Declaration} (hds : ∀ d ∈ ds, '\n' ∉ d.line)
    (hwhole : ∀ d ∈ ds, d.StaysWhole) {before after : List Text} {l : Text}
    (hbefore : ∀ t ∈ before ++ l :: after, '\n' ∉ t) (hl : opensClass l = true) :
    ∃ top l' bottom,
      lines (addDrawEntry (joinLines (before ++ l :: (ds.map Declaration.line ++ after)))) =
        top ++ l' :: (ds.map Declaration.line ++ bottom) ∧ Trims l l' := by
  have hblock : ∀ t ∈ ds.map Declaration.line, t ≠ [] ∧ t.getLast? ≠ some '\r' := by
    intro t ht
    obtain ⟨d, hd, rfl⟩ := List.mem_map.mp ht
    exact ⟨d.line_ne_nil, (hwhole d hd).unended⟩
  have hentry : ∀ t ∈ ds.map Declaration.line, (drawFunction? t).map drawEntry = none := by
    intro t ht
    obtain ⟨d, hd, rfl⟩ := List.mem_map.mp ht
    rw [(hwhole d hd).noDrawFunction, Option.map_none]
  have hfeed : ∀ t ∈ before ++ l :: (ds.map Declaration.line ++ after), '\n' ∉ t := by
    intro t ht
    simp only [List.mem_append, List.mem_cons, List.mem_map] at ht hbefore
    rcases ht with ht | ht | ⟨d, hd, rfl⟩ | ht
    · exact hbefore t (Or.inl ht)
    · exact hbefore t (Or.inr (Or.inl ht))
    · exact hds d hd
    · exact hbefore t (Or.inr (Or.inr ht))
  -- the lines are cut to find the draw function, and once more when the view is read
  obtain ⟨top, l₁, bottom, hcut, htrims⟩ :=
    lines_joinLines_around hfeed (ne_nil_of_opensClass hl) hblock
  obtain ⟨top', bottom', hinsert⟩ := insertAbove_around hentry top l₁ bottom
  have hl₁ : l₁ ≠ [] := ne_nil_of_opensClass (opensClass_of_trims hl htrims)
  have hfeed' : ∀ t ∈ top' ++ l₁ :: (ds.map Declaration.line ++ bottom'), '\n' ∉ t := by
    rw [← hinsert, ← hcut]
    exact fun t ht => feed_notMem_of_mem_insertAbove (fun _ h => feed_notMem_of_mem_lines h) ht
  obtain ⟨top'', l₂, bottom'', hcut', htrims'⟩ := lines_joinLines_around hfeed' hl₁ hblock
  refine ⟨top'', l₂, bottom'', ?_, trims_trans htrims htrims'⟩
  rw [addDrawEntry, hcut, hinsert, hcut']

/-- Where the declarations of a view are written. -/
structure DeclarationsWritten (passes : Conversion.Passes) (view : Conversion) : Prop where
  /-- If no line opens a class the view is as if it had no declarations. -/
  nowhere : (∀ l ∈ lines passes.source, opensClass l = false) →
    view.source = addDrawEntry (declare passes.source [])
  /-- Otherwise they are written below the first line that does, and stand there one after the other
  if each of them stays whole. -/
  below : ∀ before l after, lines passes.source = before ++ l :: after →
    (∀ k ∈ before, opensClass k = false) → opensClass l = true →
    view.source = addDrawEntry
      (joinLines (before ++ l :: (view.declarations.map Declaration.line ++ after))) ∧
    ((∀ d ∈ view.declarations, d.StaysWhole) →
      ∃ top l' bottom,
        lines view.source = top ++ l' :: (view.declarations.map Declaration.line ++ bottom) ∧
        Trims l l')

theorem declarationsWritten_of_declares {view : Conversion} {source : Text}
    {passes : Conversion.Passes} (hpasses : Conversion.Passes.run source = passes)
    (hsource : view.source = addDrawEntry (declare passes.source view.declarations))
    (hdecls : view.declarations = (grantAll .empty passes.allVariables).declarations) :
    DeclarationsWritten passes view where
  nowhere hnone := by
    rw [hsource]
    simp only [declare, insertInBody, insertBelow_of_forall _ hnone]
  below before l after hlines hbefore hl := by
    have heq : view.source = addDrawEntry
        (joinLines (before ++ l :: (view.declarations.map Declaration.line ++ after))) := by
      rw [hsource, declare, insertInBody, hlines, insertBelow_append after _ hbefore hl]
    refine ⟨heq, fun hwhole => ?_⟩
    -- declarations are inserted lines
    have hfeed : ∀ d ∈ view.declarations, '\n' ∉ d.line := fun d hd =>
      (Inserted.declaration hd : Inserted [] passes view.declarations d.line).feed_notMem hpasses
        hdecls.symm
    rw [heq]
    apply exists_lines_addDrawEntry hfeed hwhole _ hl
    intro t ht
    rw [← hlines] at ht
    exact feed_notMem_of_mem_lines ht

/-- The declarations of a converted drawing are written below the first line that opens a class, as
consecutive lines unless one of them is taken for a draw function or ends with a carriage return.  If
no line opens a class they are declared all the same, and written nowhere. -/
theorem convert_declarations_written (o : Options) (source : Text) (ho : o.dialect = .swift) :
    ∃ view passes, (convert o source).value = some view ∧
      passes = Conversion.Passes.run (Conversion.viewSource o source) ∧
      DeclarationsWritten passes view := by
  refine ⟨(Conversion.run o source).value, _, by simp only [convert, ho], rfl, ?_⟩
  apply declarationsWritten_of_declares rfl
  · simp only [Conversion.run]
  · simp only [Conversion.run]

/-- A drawing with one filled layer. -/
def dotsDrawing : Text :=
  "class Dots: NSObject \x7b\n    /// Dot\n    UIColor.white.setFill()\n\x7d".toList

/-- Its two declarations stay whole, and are the lines below that of the class. -/
theorem convert_declarations_written_dots :
    ((convert { dialect := .swift } dotsDrawing).value.map fun view =>
        (view.declarations.map fun d => (d.line.getLast?, drawFunction? d.line),
          (lines view.source).take 3)) =
      some ([(some 'e', none), (some 'o', none)],
        ["class Dots: UIView \x7b".toList,
         "    public var dotFillColor: UIColor = UIColor.white".toList,
         "    public var dotFrame: CGRect = .zero".toList]) ∧
    ∃ view passes, (convert { dialect := .swift } dotsDrawing).value = some view ∧
      passes = Conversion.Passes.run (Conversion.viewSource { dialect := .swift } dotsDrawing) ∧
      DeclarationsWritten passes view :=
  ⟨by decide +kernel, convert_declarations_written _ _ rfl⟩

/-- The same class with an access modifier, so that no line starts with `class`. -/
def publicDrawing : Text := "public ".toList ++ dotsDrawing

/-- It becomes a view whose color is a property, and the property is declared on no line. -/
theorem declarations_of_public_class_unwritten :
    ((convert { dialect := .swift } publicDrawing).value.map fun view =>
        (view.declarations.map Declaration.line, lines view.source)) =
      some (["    public var dotFillColor: UIColor = UIColor.white".toList,
         "    public var dotFrame: CGRect = .zero".toList],
        ["public class Dots: UIView \x7b".toList,
         "    /// Dot".toList,
         "    self.dotFillColor.setFill()".toList,
         "\x7d".toList]) := by
  decide +kernel

end LayerView
