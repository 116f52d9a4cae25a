import LayerView.Proofs.Findings
import LayerView.Proofs.Identifiers
import LayerView.Proofs.Lines

/-!
# Text that stays on one line

Labels are read from single lines, and names, values and assignments are made from labels and from
parts of lines.  So whatever a conversion writes into a line, or adds as a line, holds no line feed.
The one step that is not plain is the lowering of a label's first letter, which goes through the case
table and makes no line feed.

Main statements:
- `Layer.feed_notMem_identifier`, `Layer.feed_notMem_codeName`: names of a layer
- `Variable.feed_notMem_line`: the lines that declare a variable
- `Edit.Follows.feed_notMem`: the lines that a pass leaves
-/

namespace LayerView

open LayerView.Text

/-! ## Parts of a text -/

namespace Text

/-- Trimming adds no character. -/
theorem mem_of_mem_trim {c : Char} {t : Text} (h : c ∈ trim t) : c ∈ t := by
  have hend : c ∈ trimStart t := by
    have hrev : c ∈ (trimStart t).reverse.dropWhile isBlank := by simpa [trim, trimEnd] using h
    simpa using (List.dropWhile_sublist isBlank).subset hrev
  exact (List.dropWhile_sublist isBlank).subset hend

private theorem mem_of_mem_replaceFrom {needle : Text} {c : Char} {skip : Nat} {t : Text}
    (h : c ∈ replaceFrom needle [] skip t) : c ∈ t := by
  induction t generalizing skip with
  | nil => simp [replaceFrom] at h
  | cons d t ih =>
    cases skip with
    | succ skip => exact List.mem_cons_of_mem d (ih h)
    -- at a place of the needle the character goes with it, elsewhere it stays
    | zero =>
      simp only [replaceFrom] at h
      split at h
      · exact List.mem_cons_of_mem d (ih h)
      · rcases List.mem_cons.mp h with rfl | h
        · exact List.mem_cons_self
        · exact List.mem_cons_of_mem d (ih h)

/-- Deleting a needle adds no character. -/
private theorem mem_of_mem_replaceAll_nil {needle : Text} {c : Char} {t : Text}
    (h : c ∈ replaceAll needle [] t) : c ∈ t := by
  unfold replaceAll at h
  split at h
  · exact h
  · exact mem_of_mem_replaceFrom h

end Text

/-! ## Labels and names -/

/-- A label is on one line. -/
theorem feed_notMem_of_labelBefore? {mark source label : Text} {offset : Nat}
    (h : Caption.labelBefore? mark source offset = some label) : '\n' ∉ label := by
  simp only [Caption.labelBefore?, Option.bind_eq_bind, Option.bind_eq_some_iff] at h
  obtain ⟨⟨head, rest⟩, -, line, hline, hlabel⟩ := h
  have hmem : line ∈ lines head := by simpa using List.mem_of_find?_eq_some hline
  simp only [Caption.label?, Option.ite_none_left_eq_some, Option.some.injEq] at hlabel
  obtain ⟨-, rfl⟩ := hlabel
  exact fun hm => feed_notMem_of_mem_lines hmem (mem_of_mem_replaceAll_nil (mem_of_mem_trim hm))

namespace Layer

/-- The names that a view declares for a layer are on one line, as long as their ending is. -/
theorem feed_notMem_identifier (l : Layer) {ending : Text} (h : '\n' ∉ ending) :
    '\n' ∉ l.identifier ending := l.notMem_identifier_of_isBlank (by decide) h

/-- The name of a layer in the drawing code is on one line if its label is. -/
theorem feed_notMem_codeName {l : Layer} (h : '\n' ∉ l.label) : '\n' ∉ l.codeName := by
  unfold codeName Naming.codeIdentifier
  cases hl : l.label with
  | nil => simp [Naming.lowerFirst]
  | cons c t =>
    rw [hl, List.mem_cons, not_or] at h
    -- lowering the first letter makes no line feed, and the rest is kept
    exact List.not_mem_append (notMem_lowerChar (by decide) (by decide) h.1) h.2

end Layer

private theorem feed_notMem_ending (u : ColorUse) : '\n' ∉ u.ending := by
  cases u <;> decide

/-- Every name of a variable is on one line. -/
theorem Variable.feed_notMem_name (v : Variable) : '\n' ∉ v.name := by
  cases v with
  | color v => exact v.layer.feed_notMem_identifier (feed_notMem_ending v.use)
  | text v => exact v.layer.feed_notMem_identifier (by decide)
  | font v => exact v.layer.feed_notMem_identifier (by decide)
  | frame v => exact v.layer.feed_notMem_identifier (by decide)

/-- What reads a property is on one line. -/
private theorem Finding.feed_notMem_reference (f : Finding) : '\n' ∉ f.reference := by
  have hname := f.toVariable.feed_notMem_name
  cases f with
  | color v => exact List.not_mem_append (by decide) hname
  | text v => exact hname
  | font v => exact hname

/-! ## Findings of a pass -/

/-- A literal that a pass found on a line is on one line. -/
theorem feed_notMem_literal {α : Type} {finding : α → Finding} {ok : Text → Prop} {source : Text}
    {es : List (Edit α)}
    (h : List.Forall₂ (fun l e => e.Follows (some ∘ finding) ok l.line) (locatedLines source) es)
    {v : α} (hv : v ∈ Edit.findings es) : '\n' ∉ (finding v).literal := by
  obtain ⟨e, he, hfound⟩ := List.mem_filterMap.mp hv
  obtain ⟨l, hl, hfollows⟩ := exists_line_of_mem h he
  obtain ⟨before, after, hline, -⟩ := hfollows.replaces (finding v) (by rw [hfound]; rfl)
  -- the literal is a part of a line of the source
  intro hm
  apply feed_notMem_of_mem_locatedLines hl
  rw [hline]
  exact List.mem_append_left _ (List.mem_append_right _ hm)

namespace Pass

/-- The layer of a literal that a pass found has its label on one line. -/
theorem LiteralKind.Yields.feed_notMem_label {α β : Type} {k : LiteralKind β α}
    {finding : α → Finding} (h : k.Yields finding) {mark source : Text} {v : α}
    (hv : v ∈ Edit.findings (k.edits mark source)) :
    '\n' ∉ (finding v).toVariable.layer.label := by
  obtain ⟨l, -, c, hat⟩ := mem_findings_edits_iff.mp hv
  obtain ⟨told, label, -, hlabel, rfl⟩ := at?_eq_some_iff.mp hat
  rw [h.layer_eq]
  exact feed_notMem_of_labelBefore? hlabel

/-- The layer of a text that is found on a line has its label on one line. -/
private theorem feed_notMem_label_of_textEditAt {mark source : Text} {w : DrawWatch} {l : Located}
    {v : TextVariable} (h : (textEditAt mark source w l).1.found? = some v) :
    '\n' ∉ v.layer.label := by
  unfold textEditAt at h
  split at h
  case h_1 c hc =>
    split at h
    case h_1 label hlabel =>
      obtain rfl := Option.some.inj h
      exact feed_notMem_of_labelBefore? hlabel
    case h_2 => simp at h
  case h_2 => simp [drawEdit] at h

/-- So has the layer of every text that the pass finds. -/
theorem feed_notMem_label_of_mem_textsFrom {mark source : Text} {w : DrawWatch}
    {ls : List Located} {v : TextVariable}
    (hv : v ∈ Edit.findings (textsFrom mark source w ls)) : '\n' ∉ v.layer.label := by
  induction ls generalizing w with
  | nil => simp [textsFrom, Edit.findings] at hv
  | cons l ls ih =>
    obtain ⟨e, he, hfound⟩ := List.mem_filterMap.mp hv
    rcases List.mem_cons.mp he with rfl | he
    · exact feed_notMem_label_of_textEditAt hfound
    · exact ih (List.mem_filterMap.mpr ⟨e, he, hfound⟩)

end Pass

/-! ## Declarations -/

namespace PointSize

/-- The digits of a number are digits. -/
theorem feed_notMem_digitsOf (n : Nat) : '\n' ∉ digitsOf n := by
  intro hm
  have hdigit := Nat.isDigit_of_mem_toDigits (by decide) (by decide) hm
  exact absurd hdigit (by decide)

private theorem feed_notMem_integerText (n : Int) : '\n' ∉ integerText n := by
  unfold integerText
  split <;> simp [feed_notMem_digitsOf]

private theorem feed_notMem_positional (d : Decimal.Digits) : '\n' ∉ positional d := by
  have hdigits := feed_notMem_digitsOf d.digits
  have htake : '\n' ∉ (digitsOf d.digits).take d.point.toNat := fun hm =>
    hdigits (List.mem_of_mem_take hm)
  have hdrop : '\n' ∉ (digitsOf d.digits).drop d.point.toNat := fun hm =>
    hdigits (List.mem_of_mem_drop hm)
  unfold positional
  dsimp only
  -- the point is before, inside or behind the digits
  split
  · simp [hdigits, List.mem_replicate]
  · split <;> simp [hdigits, htake, hdrop, List.mem_replicate]

private theorem feed_notMem_scientific (d : Decimal.Digits) : '\n' ∉ scientific d := by
  have hdigits := feed_notMem_digitsOf d.digits
  have htake : '\n' ∉ (digitsOf d.digits).take 1 := fun hm => hdigits (List.mem_of_mem_take hm)
  have hdrop : '\n' ∉ (digitsOf d.digits).drop 1 := fun hm => hdigits (List.mem_of_mem_drop hm)
  have hexp := feed_notMem_integerText (d.point - 1)
  unfold scientific
  dsimp only
  -- one digit before the point, the others behind it, and the exponent
  split <;> simp_all

/-- A size is written on one line. -/
theorem feed_notMem_toText (s : PointSize) : '\n' ∉ s.toText := by
  have hsign : ∀ b, '\n' ∉ sign b := by decide
  cases s with
  | finite negative value =>
    have hmagnitude : '\n' ∉ magnitude value := by
      unfold magnitude
      split
      · decide
      · split
        · exact feed_notMem_positional _
        · exact feed_notMem_scientific _
    exact List.not_mem_append (hsign negative) hmagnitude
  | infinite negative => exact List.not_mem_append (hsign negative) (by decide)
  | undefined => decide

end PointSize

/-- A finding on one line gives a value on one line. -/
theorem Finding.feed_notMem_value {f : Finding} (h : '\n' ∉ f.literal) :
    '\n' ∉ f.toVariable.value := by
  cases f with
  | color v => exact h
  | text v => exact h
  | font v =>
    show '\n' ∉ v.value
    unfold FontVariable.value
    split
    case h_1 size _ =>
      -- the system's font of the same size is written behind the expression
      have hexpr : '\n' ∉ v.expression.filter (· != '!') := fun hm => h (List.mem_filter.mp hm).1
      exact List.not_mem_append (List.not_mem_append (List.not_mem_append hexpr (by decide))
        size.feed_notMem_toText) (by decide)
    case h_2 => exact h

private theorem Visibility.feed_notMem_keyword (w : Visibility) : '\n' ∉ w.keyword := by
  cases w <;> decide

/-- A declaration is a line if its parts are. -/
theorem Declaration.feed_notMem_line {d : Declaration} (hname : '\n' ∉ d.name)
    (htype : '\n' ∉ d.type) (hvalue : '\n' ∉ d.value) : '\n' ∉ d.line := by
  have hstart : '\n' ∉ "    ".toList ++ d.visibility.keyword ++ " ".toList ++ d.name :=
    List.not_mem_append (List.not_mem_append (List.not_mem_append (by decide)
      d.visibility.feed_notMem_keyword) (by decide)) hname
  -- the parts of the line in their order
  exact List.not_mem_append (List.not_mem_append (List.not_mem_append (List.not_mem_append hstart
    (by decide)) htype) (by decide)) hvalue

private theorem Variable.feed_notMem_type (v : Variable) : '\n' ∉ v.type := by
  cases v with
  | color => exact (by decide : '\n' ∉ "UIColor".toList)
  | text => exact (by decide : '\n' ∉ "String".toList)
  | font => exact (by decide : '\n' ∉ "UIFont".toList)
  | frame => exact (by decide : '\n' ∉ "CGRect".toList)

/-- The lines that declare a variable are lines. -/
theorem Variable.feed_notMem_line {v : Variable} (h : '\n' ∉ v.value) {d : Declaration}
    (hd : d ∈ v.declarations) : '\n' ∉ d.line := by
  rcases List.mem_cons.mp hd with rfl | hd
  · exact Declaration.feed_notMem_line v.feed_notMem_name v.feed_notMem_type h
  · cases v with
    | text t =>
      -- the companions have fixed types and values
      rcases List.mem_cons.mp hd with rfl | hd
      · exact Declaration.feed_notMem_line (t.layer.feed_notMem_identifier (by decide))
          (by decide : '\n' ∉ "NSAttributedString?".toList) (by decide : '\n' ∉ "nil".toList)
      · obtain rfl := List.mem_singleton.mp hd
        exact Declaration.feed_notMem_line (t.layer.feed_notMem_identifier (by decide))
          (by decide : '\n' ∉ "CGRect".toList) (by decide : '\n' ∉ ".zero".toList)
    | color => simp [companions] at hd
    | font => simp [companions] at hd
    | frame => simp [companions] at hd

/-! ## Lines that are added -/

/-- The assignment of a frame is a line if the name and the rectangle are. -/
theorem feed_notMem_frameAssignment {name rect : Text} (hname : '\n' ∉ name)
    (hrect : '\n' ∉ rect) : '\n' ∉ DrawWatch.frameAssignment name rect :=
  List.not_mem_append (List.not_mem_append (List.not_mem_append (List.not_mem_append (by decide)
    hname) (by decide)) hrect) (by decide)

/-- The assignment of the bounds of a filled layer is a line. -/
theorem feed_notMem_boundsAssignment {f : FrameVariable} (h : '\n' ∉ f.layer.label) :
    '\n' ∉ Pass.boundsAssignment f := by
  apply feed_notMem_frameAssignment
  · exact f.layer.feed_notMem_identifier (by decide)
  · exact List.not_mem_append (Layer.feed_notMem_codeName h) (by decide)

/-- A rectangle is on the line that it was found on. -/
private theorem feed_notMem_rectLiteral? {line rect : Text} (hline : '\n' ∉ line)
    (h : rectLiteral? line = some rect) : '\n' ∉ rect := by
  simp only [rectLiteral?, Option.bind_eq_bind, Option.bind_eq_some_iff] at h
  obtain ⟨⟨before, rest⟩, hrest, ⟨inner, tail⟩, hinner, hrect⟩ := h
  obtain rfl := Option.some.inj hrect
  -- the inside of the rectangle is a part of the line, and the rest of it is fixed
  have hline' : line = before ++ rectOpening ++ (inner ++ "))".toList ++ tail) := by
    rw [eq_append_of_breakOn? hrest]
    exact congrArg _ (eq_append_of_breakOn? hinner)
  have hinner' : '\n' ∉ inner := by
    intro hm
    apply hline
    rw [hline']
    exact List.mem_append_right _ (List.mem_append_left _ (List.mem_append_left _ hm))
  exact List.not_mem_append (List.not_mem_append (by decide) hinner') (by decide)

/-- The lines that go above a draw call are lines. -/
theorem feed_notMem_overrideBlock {v : TextVariable} {call t : Text}
    (hlabel : '\n' ∉ v.layer.label) (hcall : '\n' ∉ call)
    (ht : t ∈ DrawWatch.overrideBlock v call) : '\n' ∉ t := by
  have hcode := Layer.feed_notMem_codeName hlabel
  have hattributed : '\n' ∉ v.attributedName := v.layer.feed_notMem_identifier (by decide)
  unfold DrawWatch.overrideBlock at ht
  -- a frame is assigned only if the call has a rectangle; the other four lines are always there
  rcases List.mem_append.mp ht with ht | ht
  · split at ht
    case h_1 rect hrect =>
      obtain rfl := List.mem_singleton.mp ht
      exact feed_notMem_frameAssignment (v.layer.feed_notMem_identifier (by decide))
        (feed_notMem_rectLiteral? hcall hrect)
    case h_2 => simp at ht
  · simp only [List.mem_cons, List.not_mem_nil, or_false] at ht
    rcases ht with rfl | rfl | rfl | rfl
    · exact List.not_mem_append (List.not_mem_append (by decide) hcode) (by decide)
    · exact List.not_mem_append (List.not_mem_append (by decide) hattributed) (by decide)
    · exact List.not_mem_append (List.not_mem_append (by decide) hcode) (by decide)
    · decide

/-- The lines that an edit leaves are lines if the line was one and all that is added are. -/
theorem Edit.Follows.feed_notMem {α : Type} {finding? : α → Option Finding} {ok : Text → Prop}
    {old : Text} {e : Edit α} (h : e.Follows finding? ok old) (hold : '\n' ∉ old)
    (hok : ∀ t, ok t → '\n' ∉ t) : ∀ t ∈ e.lines, '\n' ∉ t := by
  intro t ht
  have hadded : t ∈ e.above ++ e.below → '\n' ∉ t := fun hm => hok t (h.adds t hm)
  rcases List.mem_append.mp ht with ht | ht
  · exact hadded (List.mem_append_left _ ht)
  rcases List.mem_cons.mp ht with rfl | ht
  · cases hfound : e.found?.bind finding? with
    | none => rwa [h.keeps hfound]
    | some f =>
      -- the line around the literal stays, and a reference is on one line
      obtain ⟨before, after, rfl, hline⟩ := h.replaces f hfound
      simp only [List.mem_append, not_or] at hold
      rw [hline]
      exact List.not_mem_append (List.not_mem_append hold.1.1 f.feed_notMem_reference) hold.2
  · exact hadded (List.mem_append_right _ ht)

end LayerView
