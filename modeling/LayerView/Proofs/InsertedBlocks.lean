import LayerView.Proofs.FirstPlaces
import LayerView.Proofs.InstanceMethods
import LayerView.Proofs.Slices

/-!
# Blocks put into an implementation

The conversion of a pair puts up to four blocks into the recolored implementation.  Each of them is
put next to a place that is looked for anew, in a text that has the blocks before it, and these hold
values from the drawing and from the settings.  None of them moves a place.  An opening is a line
with its end, so it does not reach past the line feed that ends the first one, and what is put
behind that line feed cannot make an earlier opening.  The start of an initialiser has no line feed
and is not in the method for drawing, so it is found again behind that method.

Hence the conversion does nothing but put blocks in at these places, and taking the blocks out again
at their byte offsets, with the line feeds around them, gives the recolored implementation back.

Main statements:
- `IsOpening.isFirst_append`, `isFirst_blockBefore`: places are found again
- `exists_openingBlocks`, `exists_drawingBlocks`: where the blocks are put
- `takeOutAll?_openingBlocks`, `takeOutAll?_drawingBlocks`: taking them out
- `convertPair_inserts_blocks`: all of it for a converted pair
-/

namespace LayerView.Text

/-! ## Parts on either side of a character -/

/-- A part without a character lies before that character or behind it. -/
theorem append_cons_cases {c : Char} {lead w rest x y : Text} (hc : c ∉ w)
    (h : x ++ c :: y = lead ++ w ++ rest) :
    (∃ gap, x = lead ++ w ++ gap ∧ rest = gap ++ c :: y) ∨
      ∃ gap, lead = x ++ c :: gap ∧ y = gap ++ w ++ rest := by
  -- either all of `x` comes before the part ends, or the part starts within `x`
  rcases List.append_eq_append_iff.mp h with ⟨tail, hlead, hy⟩ | ⟨gap, hx, hrest⟩
  · cases tail with
    | nil => exact Or.inl ⟨[], by simpa using hlead.symm, by simpa using hy.symm⟩
    | cons d tail =>
      obtain ⟨rfl, rfl⟩ := List.cons.inj hy
      -- the character is not in the part, so it stands in what leads up to it
      rcases List.append_eq_append_iff.mp hlead with ⟨gap, -, rfl⟩ | ⟨gap, rfl, hgap⟩
      · exact absurd (by simp) hc
      · cases gap with
        | nil =>
          have hw : w = c :: tail := hgap.symm
          exact absurd (hw ▸ List.mem_cons_self) hc
        | cons e gap =>
          obtain ⟨rfl, rfl⟩ := List.cons.inj hgap
          exact Or.inr ⟨gap, rfl, rfl⟩
  · exact Or.inl ⟨gap, hx, hrest⟩

/-! ## Taking blocks out -/

/-- Take a block out of a text at a byte offset, if it stands there. -/
def takeOut? (t : Text) (place : Nat × Text) : Option Text :=
  if slice? t place.1 (place.1 + size place.2) = some place.2 then
    splice? t place.1 (place.1 + size place.2) []
  else none

/-- Take blocks out of a text, one after the other. -/
def takeOutAll? (places : List (Nat × Text)) (t : Text) : Option Text := places.foldlM takeOut? t

theorem takeOut?_append (before block after : Text) :
    takeOut? (before ++ block ++ after) (size before, block) = some (before ++ after) := by
  have hslice : slice? (before ++ block ++ after) (size before) (size before + size block) =
      some block := slice?_eq_some_iff.mpr ⟨before, after, rfl, rfl, rfl⟩
  rw [takeOut?, if_pos hslice, splice?_append, List.append_nil]

private theorem takeOutAll?_append (ps qs : List (Nat × Text)) (t : Text) :
    takeOutAll? (ps ++ qs) t = (takeOutAll? ps t).bind (takeOutAll? qs) :=
  List.foldlM_append

end LayerView.Text

namespace LayerView.Pair

open LayerView.Text

/-! ## Blocks next to a place -/

/-- A block that goes before a place, with its line feeds. -/
def blockBefore (block : Text) : Text := "\n".toList ++ block ++ "\n\n".toList

/-- A block that goes behind a place, with its line feeds. -/
def blockAfter (block : Text) : Text := "\n\n".toList ++ block ++ "\n".toList

section Insert

variable {P : Text → Prop} {fit : Pattern} {code before hit after : Text}

theorem insertBefore_of_isFirst (hfit : Describes P fit) (h : IsFirst P code before hit after)
    (block : Text) : insertBefore fit block code = before ++ blockBefore block ++ hit ++ after := by
  rw [insertBefore, hfit.breakAt?_eq_some_iff.mpr h]
  simp only [blockBefore, List.append_assoc]

private theorem insertAfter_of_isFirst (hfit : Describes P fit)
    (h : IsFirst P code before hit after) (block : Text) :
    insertAfter fit block code = before ++ hit ++ blockAfter block ++ after := by
  rw [insertAfter, hfit.breakAt?_eq_some_iff.mpr h]
  simp only [blockAfter, List.append_assoc]

theorem insertBefore_of_none (hfit : Describes P fit) (h : ∀ hit, P hit → ¬ hit <:+: code)
    (block : Text) : insertBefore fit block code = code := by
  rw [insertBefore, hfit.breakAt?_eq_none_iff.mpr h]

end Insert

/-! ## The opening -/

/-- Whatever follows the first opening, it is the first. -/
theorem IsOpening.isFirst_append {t before hit after : Text}
    (h : IsFirst IsOpening t before hit after) (x : Text) :
    IsFirst IsOpening (before ++ hit ++ x) before hit x := by
  refine ⟨rfl, h.holds, ?_⟩
  intro lead mid rest hcut hmid
  obtain ⟨line, -, hline⟩ := h.holds.eq_concat
  obtain ⟨part, hpart, hfeed⟩ := hmid.eq_concat
  have ht : t = before ++ line ++ '\n' :: after := by rw [h.eq_append, hline]; simp
  have hcut : before ++ line ++ '\n' :: x = lead ++ part ++ '\n' :: rest := by
    rw [hline, hfeed] at hcut
    simpa using hcut
  -- an opening that starts before the line feed of the first one ends there or earlier, so it was
  -- there before
  rcases append_cons_cases hpart hcut with ⟨gap, hgap, hrest⟩ | ⟨gap, rfl, -⟩
  · have hold : ∃ tail, t = lead ++ mid ++ tail := by
      rw [ht, hgap, hfeed]
      cases gap with
      | nil => exact ⟨after, by simp⟩
      | cons d gap =>
        obtain ⟨rfl, -⟩ := List.cons.inj hrest
        exact ⟨gap ++ '\n' :: after, by simp⟩
    obtain ⟨tail, htail⟩ := hold
    exact h.least lead mid tail htail hmid
  · rw [List.append_assoc, List.length_append]
    exact Nat.le_add_right _ _

/-- Where the class extension and the initialiser are put, and what comes of it: next to the first
opening, if there is one. -/
inductive OpeningBlocks (extension initializer plain : Text) : List (Nat × Text) → Text → Prop where
  | opened {before opening after : Text} (h : IsFirst IsOpening plain before opening after) :
    OpeningBlocks extension initializer plain
      [(size before, blockBefore extension), (size (before ++ opening), blockAfter initializer)]
      (before ++ blockBefore extension ++ opening ++ blockAfter initializer ++ after)
  | unopened (h : ∀ opening, IsOpening opening → ¬ opening <:+: plain) :
    OpeningBlocks extension initializer plain [] plain

/-- The first two blocks go next to one and the same opening. -/
theorem exists_openingBlocks (o : Options) (className : Text) (ds : List Declaration)
    (plain : Text) :
    ∃ places, OpeningBlocks (classExtension ds className) (initializer ds o.background) plain places
      (withInitializer o className ds plain) := by
  have hfit := describes_implementationOpening
  cases hbreak : breakAt? implementationOpening plain with
  -- without an opening neither block is put in
  | none =>
    rw [withInitializer_of_not_open o className ds hbreak]
    exact ⟨[], .unopened (hfit.breakAt?_eq_none_iff.mp hbreak)⟩
  | some parts =>
    obtain ⟨before, opening, after⟩ := parts
    have hfirst := hfit.isFirst_of_breakAt? hbreak
    -- the opening is found again in front of the initialiser
    have hagain := IsOpening.isFirst_append hfirst
      (blockAfter (initializer ds o.background) ++ after)
    have hcode : withInitializer o className ds plain =
        before ++ blockBefore (classExtension ds className) ++ opening ++
          blockAfter (initializer ds o.background) ++ after := by
      rw [withInitializer, insertAfter_of_isFirst hfit hfirst,
        List.append_assoc (before ++ opening), insertBefore_of_isFirst hfit hagain]
      simp only [List.append_assoc]
    rw [hcode]
    exact ⟨_, .opened hfirst⟩

/-- The extension comes out first, and then the initialiser stands where it was put. -/
theorem takeOutAll?_openingBlocks {extension initializer plain code : Text}
    {places : List (Nat × Text)} (h : OpeningBlocks extension initializer plain places code) :
    takeOutAll? places code = some plain := by
  cases h with
  | unopened => rfl
  | @opened before opening after h =>
    have hextension := takeOut?_append before (blockBefore extension)
      (opening ++ blockAfter initializer ++ after)
    have hinitializer := takeOut?_append (before ++ opening) (blockAfter initializer) after
    simp only [List.append_assoc] at hextension hinitializer ⊢
    simp only [takeOutAll?, List.foldlM_cons, List.foldlM_nil, hextension, hinitializer,
      Option.bind_eq_bind, Option.bind_some, h.eq_append, List.append_assoc]
    rfl

/-! ## The initialiser -/

/-- How an initialiser starts. -/
def initializerWord : Text := "- (instancetype)initWithFrame".toList

private theorem describes_initializerOpening : Describes (· = initializerWord) initializerOpening :=
  describes_skip? initializerWord

/-- The first place of a word stays the first, and only moves on, when a block without the word is
put before it. -/
theorem isFirst_blockBefore {w t before after block : Text} (hfeed : '\n' ∉ w) (hne : w ≠ [])
    (hblock : ¬ w <:+: block) (h : IsFirst (· = w) t before w after) :
    IsFirst (· = w) (before ++ blockBefore block ++ w ++ after) (before ++ blockBefore block) w
      after := by
  refine ⟨rfl, rfl, ?_⟩
  rintro lead mid rest hcut rfl
  have hcut : before ++ '\n' :: (block ++ '\n' :: ('\n' :: (mid ++ after))) =
      lead ++ mid ++ rest := by simpa [blockBefore] using hcut
  -- the word is not before the first line feed, nor in the block, nor between the last two
  rcases append_cons_cases hfeed hcut with ⟨gap, hbefore, -⟩ | ⟨gap, rfl, hlines⟩
  · have hbefore_ne : before ≠ [] := by simp [hbefore, hne]
    exact absurd ⟨lead, gap, hbefore.symm⟩ ((UpToFirst.found h).not_contained hbefore_ne)
  · rcases append_cons_cases hfeed hlines with ⟨tail, hlines, -⟩ | ⟨gap', rfl, hlast⟩
    · exact absurd ⟨gap, tail, hlines.symm⟩ hblock
    · rcases append_cons_cases (x := []) hfeed hlast with ⟨tail, hnil, -⟩ | ⟨gap'', rfl, -⟩
      · simp [hne] at hnil
      · simp [blockBefore]

/-- The method for drawing does not start an initialiser. -/
private theorem not_infix_drawRect {code : Text} {call : DrawCall}
    (h : drawCall? code = some call) : ¬ initializerWord <:+: drawRect call := by
  obtain ⟨hmethod, -, -, hresizing⟩ :=
    notMem_of_drawCall? (c := '-') (by decide) (by decide) (by decide) h
  have htop : "- (void)drawRect:(CGRect)rect \x7b\n    [super drawRect:rect];\n    [self ".toList =
      '-' :: ' ' :: '(' :: 'v' ::
        "oid)drawRect:(CGRect)rect \x7b\n    [super drawRect:rect];\n    [self ".toList := by simp
  have hword : initializerWord =
      '-' :: ' ' :: '(' :: 'i' :: "nstancetype)initWithFrame".toList := by
    unfold initializerWord
    simp
  unfold drawRect
  rw [htop, hword]
  simp only [List.cons_append, List.append_assoc]
  intro hcontained
  rcases List.infix_cons_iff.mp hcontained with hprefix | hcontained
  · -- at its start, the method goes on in another way
    simp [List.cons_prefix_cons] at hprefix
  · -- it has no other hyphen
    refine absurd (hcontained.subset List.mem_cons_self) ?_
    simp only [List.mem_cons, List.mem_append, not_or]
    exact ⟨by decide, by decide, by decide, by decide, hmethod, by decide, hresizing, by decide⟩

/-- Where the methods for drawing and measuring are put, and what comes of it: before the first
initialiser, if there is one and a draw call. -/
inductive DrawingBlocks (code : Text) : List (Nat × Text) → Text → Prop where
  | drawn {call : DrawCall} {before after : Text} (hcall : drawCall? code = some call)
      (h : IsFirst (· = initializerWord) code before initializerWord after) :
    DrawingBlocks code
      [(size before, blockBefore (drawRect call)), (size before, blockBefore (sizeThatFits call))]
      (before ++ blockBefore (drawRect call) ++ blockBefore (sizeThatFits call) ++
        initializerWord ++ after)
  | undrawn (h : drawCall? code = none ∨ ¬ initializerWord <:+: code) : DrawingBlocks code [] code

/-- The methods go before one and the same initialiser, drawing before measuring. -/
theorem exists_drawingBlocks (code : Text) :
    ∃ places, DrawingBlocks code places (withDrawing (drawCall? code) code) := by
  have hfit := describes_initializerOpening
  cases hcall : drawCall? code with
  | none => exact ⟨[], .undrawn (Or.inl hcall)⟩
  | some call =>
    cases hbreak : breakAt? initializerOpening code with
    | none =>
      have hnone := hfit.breakAt?_eq_none_iff.mp hbreak
      -- a draw call alone does not make a place for its methods
      rw [withDrawing, insertBefore_of_none hfit hnone, insertBefore_of_none hfit hnone]
      exact ⟨[], .undrawn (Or.inr (hnone _ rfl))⟩
    | some parts =>
      obtain ⟨before, word, after⟩ := parts
      have hfirst := hfit.isFirst_of_breakAt? hbreak
      obtain rfl : word = initializerWord := hfirst.holds
      -- the initialiser is found again behind the method for drawing
      have hagain := isFirst_blockBefore (by decide) (by decide) (not_infix_drawRect hcall) hfirst
      rw [withDrawing, insertBefore_of_isFirst hfit hfirst, insertBefore_of_isFirst hfit hagain]
      exact ⟨_, .drawn hcall hfirst⟩

/-- Both methods come out at the offset of the initialiser. -/
theorem takeOutAll?_drawingBlocks {code out : Text} {places : List (Nat × Text)}
    (h : DrawingBlocks code places out) : takeOutAll? places out = some code := by
  cases h with
  | undrawn => rfl
  | @drawn call before after _ h =>
    have hdraw := takeOut?_append before (blockBefore (drawRect call))
      (blockBefore (sizeThatFits call) ++ initializerWord ++ after)
    have hsize := takeOut?_append before (blockBefore (sizeThatFits call))
      (initializerWord ++ after)
    simp only [List.append_assoc] at hdraw hsize ⊢
    simp only [takeOutAll?, List.foldlM_cons, List.foldlM_nil, hdraw, hsize, Option.bind_eq_bind,
      Option.bind_some, h.eq_append, List.append_assoc]
    rfl

/-! ## A converted pair -/

/-- The initialiser block starts an initialiser. -/
private theorem initializerWord_infix_of_opened {ds : List Declaration}
    {extension background plain code : Text} {places : List (Nat × Text)}
    (h : OpeningBlocks extension (initializer ds background) plain places code)
    (hopens : ∃ opening, IsOpening opening ∧ opening <:+: plain) : initializerWord <:+: code := by
  cases h with
  | unopened hnone =>
    obtain ⟨opening, hopening, hinfix⟩ := hopens
    exact absurd hinfix (hnone opening hopening)
  | @opened before opening after h =>
    obtain ⟨body, hbody⟩ : ∃ body, initializer ds background = initializerWord ++ body :=
      initializer_eq_append ds background
    refine ⟨before ++ blockBefore extension ++ opening ++ "\n\n".toList,
      body ++ "\n".toList ++ after, ?_⟩
    rw [blockAfter, hbody]
    simp only [List.append_assoc]

/-- How the implementation of a converted pair comes from the recolored one.  The class extension
is put before its first opening and the initialiser behind it, which makes `code`; before the first
initialiser of `code` come the methods that a draw call in it gives.  Nothing else happens: taking
the blocks out again, the last one put in first, gives the recolored implementation back. -/
structure BlocksInserted (o : Options) (className : Text) (ds : List Declaration)
    (plain code out : Text) (openingPlaces drawingPlaces : List (Nat × Text)) : Prop where
  opening : OpeningBlocks (classExtension ds className) (initializer ds o.background) plain
    openingPlaces code
  drawing : DrawingBlocks code drawingPlaces out
  /-- A place for the methods is there whenever the other two blocks are. -/
  initialized : (∃ opening, IsOpening opening ∧ opening <:+: plain) → initializerWord <:+: code
  restored : takeOutAll? (drawingPlaces ++ openingPlaces) out = some plain

/-- A pair with a result has its blocks inserted, under the class name of its first opening. -/
theorem convertPair_inserts_blocks (o : Options) (p : SourcePair) (r : PairConversion)
    (h : (convertPair o p).value = some r) :
    ∃ front opening rest code openingPlaces drawingPlaces,
      IsFirst IsOpening p.implementation front opening rest ∧
      BlocksInserted o (classNameOf opening) r.declarations (recolored p.implementation) code
        r.pair.implementation openingPlaces drawingPlaces := by
  obtain ⟨front, opening, rest, hbreak, rfl⟩ := exists_opening_of_convertPair h
  have hfirst := describes_implementationOpening.isFirst_of_breakAt? hbreak
  obtain ⟨openingPlaces, hopening⟩ := exists_openingBlocks o (classNameOf opening)
    (declarations p.implementation) (recolored p.implementation)
  obtain ⟨drawingPlaces, hdrawing⟩ := exists_drawingBlocks
    (withInitializer o (classNameOf opening) (declarations p.implementation)
      (recolored p.implementation))
  refine ⟨front, opening, rest, _, openingPlaces, drawingPlaces, hfirst, hopening, hdrawing,
    initializerWord_infix_of_opened hopening, ?_⟩
  -- the blocks put in last are taken out first
  have hdrawn := takeOutAll?_drawingBlocks hdrawing
  have hopened := takeOutAll?_openingBlocks hopening
  show takeOutAll? _ (withDrawing _ _) = _
  rw [takeOutAll?_append, hdrawn, Option.bind_some, hopened]

/-- A pair with an initialiser in front of its opening, a hidden color and a draw call. -/
def declaredPair : SourcePair where
  header := "@interface Dots : NSObject\n@end\n".toList
  implementation :=
    "- (instancetype)initWithFrame;\n@implementation Dots\n//! _Dot\n[[UIColor redColor] ".toList ++
    "setFill];\n[Dots drawDotsWithFrame:CGRectMake(0, 0, 8, 4) resizing:Fit]\n@end\n".toList

/-- A background that reads like the places that are looked for. -/
def searchedBackground : Text :=
  "@implementation Pegs\n- (instancetype)initWithFrame".toList

/-- Neither the background nor the initialiser put in takes the place of the one in front. -/
theorem convertPair_inserts_blocks_declared :
    ∃ r, (convertPair { dialect := .objc, background? := some searchedBackground }
        declaredPair).value = some r ∧
      "\n- (void)drawRect:".toList <+: r.pair.implementation ∧
      ∃ front opening rest code openingPlaces drawingPlaces,
        IsFirst IsOpening declaredPair.implementation front opening rest ∧
        BlocksInserted { dialect := .objc, background? := some searchedBackground }
          (classNameOf opening) r.declarations (recolored declaredPair.implementation) code
          r.pair.implementation openingPlaces drawingPlaces := by
  have hrun : ∃ r, convertByStatements
      { dialect := .objc, background? := some searchedBackground } declaredPair = some r ∧
      "\n- (void)drawRect:".toList <+: r.pair.implementation := by
    decide +kernel
  obtain ⟨r, hr, hdraw⟩ := hrun
  rw [← value_convertPair] at hr
  exact ⟨r, hr, hdraw, convertPair_inserts_blocks _ _ r hr⟩

end LayerView.Pair
