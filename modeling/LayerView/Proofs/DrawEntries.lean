import LayerView.Proofs.Overlaps
import LayerView.ViewClass

/-!
# The line that gets the methods of a view

The methods of a view go above the first line that introduces a draw function.  Such a line is told
by two literals: the name of the function, up to the frame that it takes, and the native rectangle,
up to the argument behind it.  A literal is also taken where nothing closes it, and then the line
need not be such a line at all: it has `func draw` and a frame, but does not take the frame first.
The methods go above it all the same, with the rest of the line for a name.

So the place is always the first line with two literals, and it is a draw function with a frame
exactly when neither of the two is left open.

Main statements:
- `ViewClass.insertAbove_of_forall`, `ViewClass.insertAbove_append`: where a block is put
- `ViewClass.draw_entry_placed`: where the methods go
- `ViewClass.draw_entry_above_other_function`: a line that does not take a frame
-/

namespace LayerView

open LayerView.Text

namespace ViewClass

/-! ## Putting a block above a line -/

section InsertAbove

variable {block? : Text → Option (List Text)}

theorem insertAbove_of_forall {ls : List Text} (h : ∀ l ∈ ls, block? l = none) :
    insertAbove block? ls = ls := by
  induction ls with
  | nil => rfl
  | cons l ls ih =>
    simp only [insertAbove, h l List.mem_cons_self]
    rw [ih fun k hk => h k (List.mem_cons_of_mem l hk)]

/-- A block goes above the first line that has one. -/
theorem insertAbove_append {above : List Text} {l : Text} {block : List Text}
    (habove : ∀ k ∈ above, block? k = none) (hl : block? l = some block) (below : List Text) :
    insertAbove block? (above ++ l :: below) = above ++ block ++ l :: below := by
  induction above with
  | nil => simp only [List.nil_append, insertAbove, hl]
  -- a line without a block is passed and looked at no more
  | cons k above ih =>
    simp only [List.cons_append, insertAbove, habove k List.mem_cons_self]
    rw [ih fun k' hk' => habove k' (List.mem_cons_of_mem k hk')]

end InsertAbove

/-! ## Draw functions -/

/-- The delimiters of the name cannot run into each other on a line. -/
private theorem keepApart_drawFunction : drawFunction.KeepApart where
  left_bars := .of_check (by decide)
  right_bars := .of_check (by decide)
  right_unbordered := ⟨by decide, .of_check (by decide)⟩

private theorem keepApart_nativeRect : nativeRect.KeepApart where
  left_bars := .of_check (by decide)
  right_bars := .of_check (by decide)
  right_unbordered := ⟨by decide, .of_check (by decide)⟩

namespace DrawFunction

/-- A line with literals that are taken for a draw function. -/
def ReadFrom (f : DrawFunction) (line : Text) : Prop :=
  drawFunction.Takes line f.name ∧ nativeRect.Takes line f.rect

/-- A line that introduces a draw function which takes a frame. -/
def IntroducedBy (f : DrawFunction) (line : Text) : Prop :=
  drawFunction.Encloses line f.name ∧ nativeRect.Encloses line f.rect

/-- A function that is introduced is read, whatever else is on the line. -/
theorem IntroducedBy.readFrom {f : DrawFunction} {line : Text} (h : f.IntroducedBy line) :
    f.ReadFrom line :=
  ⟨h.1.takes keepApart_drawFunction, h.2.takes keepApart_nativeRect⟩

/-- What is read is introduced unless one of the literals runs to the end of its segment. -/
theorem ReadFrom.introducedBy_iff {f : DrawFunction} {line : Text} (h : f.ReadFrom line) :
    f.IntroducedBy line ↔ ¬ drawFunction.LeavesOpen line ∧ ¬ nativeRect.LeavesOpen line :=
  and_congr (h.1.encloses_iff keepApart_drawFunction) (h.2.encloses_iff keepApart_nativeRect)

end DrawFunction

/-- A draw function is read exactly where both of its literals are taken. -/
theorem drawFunction?_eq_some_iff {line : Text} {f : DrawFunction} :
    drawFunction? line = some f ↔ f.ReadFrom line := by
  obtain ⟨name, rect⟩ := f
  simp only [drawFunction?, DrawFunction.ReadFrom, Delimited.takes_iff, Option.bind_eq_bind,
    Option.bind_eq_some_iff]
  constructor
  · -- the two captures are looked for one after the other, both on the whole line
    rintro ⟨c, hc, r, hr, h⟩
    obtain ⟨rfl, rfl⟩ := DrawFunction.mk.inj (Option.some.inj h)
    exact ⟨⟨c, hc, rfl⟩, ⟨r, hr, rfl⟩⟩
  · rintro ⟨⟨c, hc, rfl⟩, ⟨r, hr, rfl⟩⟩
    exact ⟨c, hc, r, hr, rfl⟩

theorem drawFunction?_eq_none_iff {line : Text} :
    drawFunction? line = none ↔ ∀ f : DrawFunction, ¬ f.ReadFrom line := by
  simp only [Option.eq_none_iff_forall_ne_some, ne_eq, drawFunction?_eq_some_iff]

/-- The methods of a view are put into a source once at most, and its lines stay as they are and in
their order.  They go above the first line with the literals of a draw function.  This line
introduces a draw function that takes a frame unless one of the two literals is left open on it; if
it does, it is the first such line. -/
theorem draw_entry_placed (source : Text) :
    ((∀ l ∈ lines source, ∀ f : DrawFunction, ¬ f.ReadFrom l) ∧
      addDrawEntry source = joinLines (lines source)) ∨
    ∃ above l below f, lines source = above ++ l :: below ∧ f.ReadFrom l ∧
      (∀ k ∈ above, ∀ g : DrawFunction, ¬ g.ReadFrom k) ∧
      addDrawEntry source = joinLines (above ++ drawEntry f ++ l :: below) ∧
      (f.IntroducedBy l ↔ ¬ drawFunction.LeavesOpen l ∧ ¬ nativeRect.LeavesOpen l) ∧
      (f.IntroducedBy l →
        "func draw".toList ++ f.name ++ "(frame targetFrame: ".toList <:+: l ∧
        "targetFrame: CGRect = ".toList ++ f.rect ++ ", resizing".toList <:+: l ∧
        ∀ k ∈ above, ∀ g : DrawFunction, ¬ g.IntroducedBy k) := by
  cases hfirst : firstDrawFunction? source with
  | none =>
    left
    have hnone := List.findSome?_eq_none_iff.mp hfirst
    refine ⟨fun l hl => drawFunction?_eq_none_iff.mp (hnone l hl), ?_⟩
    have hkeep : ∀ l ∈ lines source, (drawFunction? l).map drawEntry = none := by
      intro l hl
      rw [hnone l hl, Option.map_none]
    rw [addDrawEntry, insertAbove_of_forall hkeep]
  | some f =>
    right
    obtain ⟨above, l, below, hlines, hl, habove⟩ := List.findSome?_eq_some_iff.mp hfirst
    -- the first line that is read is the only one at which anything is put
    have hread := drawFunction?_eq_some_iff.mp hl
    have hnot : ∀ k ∈ above, ∀ g : DrawFunction, ¬ g.ReadFrom k :=
      fun k hk => drawFunction?_eq_none_iff.mp (habove k hk)
    refine ⟨above, l, below, f, hlines, hread, hnot, ?_, hread.introducedBy_iff, ?_⟩
    · have hkeep : ∀ k ∈ above, (drawFunction? k).map drawEntry = none := by
        intro k hk
        rw [habove k hk, Option.map_none]
      have hblock : (drawFunction? l).map drawEntry = some (drawEntry f) := by
        rw [hl, Option.map_some]
      rw [addDrawEntry, hlines, insertAbove_append hkeep hblock]
    · intro hintroduced
      refine ⟨hintroduced.1.isInfix, hintroduced.2.isInfix, ?_⟩
      -- a line above that introduced a function would have been read
      exact fun k hk g hg => hnot k hk g hg.readFrom

/-- In a source of one line, the methods go above this line. -/
private theorem addDrawEntry_of_line {line : Text} {f : DrawFunction} (hlines : lines line = [line])
    (h : drawFunction? line = some f) : addDrawEntry line = joinLines (drawEntry f ++ [line]) := by
  simp only [addDrawEntry, hlines, insertAbove, h, Option.map_some]

/-- A line with a draw function that takes its frame under another label. -/
def otherFunction : Text := "    func drawDot(in targetFrame: CGRect = .zero) \x7b".toList

/-- The methods go above a function that does not take a frame first, with the rest of the line for
its name. -/
theorem draw_entry_above_other_function :
    lines otherFunction = [otherFunction] ∧
    addDrawEntry otherFunction =
      joinLines (drawEntry ⟨"Dot(in targetFrame: CGRect = .zero) \x7b".toList,
        ".zero) \x7b".toList⟩ ++ [otherFunction]) ∧
    ∀ name rect, ¬ ("func draw".toList ++ name ++ "(frame targetFrame: ".toList <:+: otherFunction ∧
      "targetFrame: CGRect = ".toList ++ rect ++ ", resizing".toList <:+: otherFunction) := by
  have hlines : lines otherFunction = [otherFunction] := by decide
  have hread : drawFunction? otherFunction =
      some ⟨"Dot(in targetFrame: CGRect = .zero) \x7b".toList, ".zero) \x7b".toList⟩ := by decide
  refine ⟨hlines, addDrawEntry_of_line hlines hread, ?_⟩
  rintro name rect ⟨hname, -⟩
  -- the label that the name is to be followed by is not on the line at all
  have hnone : ¬ "(frame targetFrame: ".toList <:+: otherFunction :=
    breakOn?_eq_none_iff.mp (by decide)
  exact hnone ((List.suffix_append _ _).isInfix.trans hname)

end ViewClass

end LayerView
