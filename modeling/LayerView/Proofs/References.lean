import LayerView.Proofs.Declaring
import LayerView.Proofs.Findings

/-!
# References and their declarations

A conversion writes a reference where a literal stood, and declares a property elsewhere.  The two
are computed apart, and names may collide.  Still every reference is to one declaration, the first one
that asked for its name; and when no name was asked for twice, that is the declaration made for the
literal, so writing declared values back in place of references gives the drawing's lines back.

Main statements:
- `exists_declaration`: the one declaration behind a name
- `passResolves_of_follows`: the references that one pass writes
- `convert_references_resolve`: the references of all passes of a conversion
-/

namespace LayerView

open LayerView.Text LayerView.ViewClass

/-- A reference that a pass wrote on the line `old`, which is `new` afterwards, and what is behind it:
one declaration of the view, the first with its name among all that were asked for.  If no name was
asked for twice it has the literal as its value, or the value of a font with this expression. -/
def Resolves (view : Conversion) (all : List Declaration) (f : Finding) (old new : Text) : Prop :=
  ∃ before after d,
    old = before ++ f.literal ++ after ∧ new = before ++ f.reference ++ after ∧
    view.declarations.filter (·.name = f.toVariable.name) = [d] ∧
    all.find? (·.name = f.toVariable.name) = some d ∧
    (view.duplicates = [] →
      match f with
      | .font v => d.value = v.value
      | _ => d.value = f.literal ∧ before ++ d.value ++ after = old)

/-- What a pass made of its lines: a line without a finding is kept, and a line with one reads a
property that is declared. -/
def PassResolves {α : Type} (view : Conversion) (all : List Declaration) (finding : α → Finding)
    (ls : List Located) (es : List (Edit α)) : Prop :=
  List.Forall₂ (fun l e =>
    match e.found? with
    | none => e.line = l.line
    | some v => Resolves view all (finding v) l.line e.line) ls es

/-! ## One reference -/

/-- Every declaration that is asked for has one of its name that is granted, the first of them. -/
theorem exists_granted (vs : List Variable) {d : Declaration}
    (hd : d ∈ vs.flatMap Variable.declarations) :
    ∃ e, (grantAll .empty vs).declarations.filter (·.name = d.name) = [e] ∧
      (vs.flatMap Variable.declarations).find? (·.name = d.name) = some e := by
  have hsome : ((vs.flatMap Variable.declarations).find? (·.name = d.name)).isSome := by
    rw [List.find?_isSome]
    exact ⟨d, hd, by simp⟩
  obtain ⟨e, he⟩ := Option.isSome_iff_exists.mp hsome
  refine ⟨e, ?_, he⟩
  -- of the declarations with a name only the first occurrence is granted
  rw [grantAll, (settled_grant _).declarations_eq, filter_firstOccurrences, he, Option.toList_some]

/-- Every variable that is asked for has one declaration with its name, the first of that name. -/
theorem exists_declaration (vs : List Variable) {v : Variable} (hv : v ∈ vs) :
    ∃ d, (grantAll .empty vs).declarations.filter (·.name = v.name) = [d] ∧
      (vs.flatMap Variable.declarations).find? (·.name = v.name) = some d :=
  exists_granted vs (d := v.declaration) (List.mem_flatMap.mpr ⟨v, hv, List.mem_cons_self⟩)

/-- Without repeated names the declaration behind a variable's name is its own. -/
private theorem eq_declaration_of_duplicates_eq_nil {vs : List Variable} {v : Variable}
    (hv : v ∈ vs) (hnil : (grantAll .empty vs).registry.duplicates = []) {d : Declaration}
    (hd : (vs.flatMap Variable.declarations).find? (·.name = v.name) = some d) :
    d = v.declaration := by
  rw [grantAll, (settled_grant _).duplicates_eq] at hnil
  have hmem : v.declaration ∈ vs.flatMap Variable.declarations :=
    List.mem_flatMap.mpr ⟨v, hv, List.mem_cons_self⟩
  -- found under its own name, the declaration of `v` is the first with that name
  have hown := find?_name_of_repeatedNames_eq_nil hnil hmem
  exact Option.some.inj (hd.symm.trans hown)

/-- A replaced literal of a variable that is asked for resolves. -/
theorem resolves_of_replaces {view : Conversion} {vs : List Variable} {f : Finding}
    {old new : Text} (hdecls : view.declarations = (grantAll .empty vs).declarations)
    (hdups : view.duplicates = (grantAll .empty vs).registry.duplicates)
    (hf : f.toVariable ∈ vs) (hrep : f.Replaces old new) :
    Resolves view (vs.flatMap Variable.declarations) f old new := by
  obtain ⟨before, after, hold, hnew⟩ := hrep
  obtain ⟨d, hfilter, hfind⟩ := exists_declaration vs hf
  refine ⟨before, after, d, hold, hnew, by rw [hdecls, hfilter], hfind, ?_⟩
  intro hnil
  rw [hdups] at hnil
  -- with no name asked for twice, the first declaration of this name is the finding's own
  have hown : d = f.toVariable.declaration := eq_declaration_of_duplicates_eq_nil hf hnil hfind
  cases f with
  | color v =>
    have hvalue : d.value = (Finding.color v).literal := by rw [hown]; rfl
    exact ⟨hvalue, by rw [hvalue, hold]⟩
  | text v =>
    have hvalue : d.value = (Finding.text v).literal := by rw [hown]; rfl
    exact ⟨hvalue, by rw [hvalue, hold]⟩
  | font v =>
    show d.value = v.value
    rw [hown]
    rfl

/-! ## A whole pass -/

/-- A pass that obeys the law of edits, and whose findings are all asked for, resolves. -/
theorem passResolves_of_follows {α : Type} {view : Conversion} {vs : List Variable}
    {finding : α → Finding} {ok : Text → Prop} {ls : List Located} {es : List (Edit α)}
    (hdecls : view.declarations = (grantAll .empty vs).declarations)
    (hdups : view.duplicates = (grantAll .empty vs).registry.duplicates)
    (hvs : ∀ v ∈ Edit.findings es, (finding v).toVariable ∈ vs)
    (h : List.Forall₂ (fun l e => e.Follows (some ∘ finding) ok l.line) ls es) :
    PassResolves view (vs.flatMap Variable.declarations) finding ls es := by
  induction h with
  | nil => exact List.Forall₂.nil
  | @cons l e ls es hle _ ih =>
    refine List.Forall₂.cons ?_ (ih fun v hv => hvs v ?_)
    · -- the law of edits tells the line apart by whether something was found on it
      cases hfound : e.found? with
      | none => exact hle.keeps (by rw [hfound]; rfl)
      | some v =>
        have hmem : v ∈ Edit.findings (e :: es) :=
          List.mem_filterMap.mpr ⟨e, List.mem_cons_self, hfound⟩
        exact resolves_of_replaces hdecls hdups (hvs v hmem)
          (hle.replaces (finding v) (by rw [hfound]; rfl))
    · obtain ⟨e', he', hv'⟩ := List.mem_filterMap.mp hv
      exact List.mem_filterMap.mpr ⟨e', List.mem_cons_of_mem e he', hv'⟩

/-- All references of the view made from a source.  The view's source is what the last pass left, with
declarations and methods added; and each pass before it wrote references that resolve. -/
structure Conversion.Resolved (passes : Conversion.Passes) (source : Text) (view : Conversion) :
    Prop where
  source_eq : view.source = addDrawEntry (declare passes.source view.declarations)
  colors : PassResolves view (passes.allVariables.flatMap Variable.declarations) .color
    (locatedLines source) passes.colors
  texts : PassResolves view (passes.allVariables.flatMap Variable.declarations) .text
    (locatedLines (Edit.source passes.frames)) passes.texts
  fonts : PassResolves view (passes.allVariables.flatMap Variable.declarations) .font
    (locatedLines (Edit.source passes.texts)) passes.fonts

/-- A view that declares the variables of all passes resolves. -/
theorem resolved_of_declares {view : Conversion} {source : Text} {passes : Conversion.Passes}
    (hpasses : Conversion.Passes.run source = passes)
    (hsource : view.source = addDrawEntry (declare passes.source view.declarations))
    (hdecls : view.declarations = (grantAll .empty passes.allVariables).declarations)
    (hdups : view.duplicates = (grantAll .empty passes.allVariables).registry.duplicates) :
    view.Resolved passes source := by
  -- nothing is asked of the lines that the passes add
  have hobeys : passes.Obeys (fun _ => True) source :=
    Conversion.Passes.obeys_run hpasses (fun _ _ => trivial) fun _ _ => trivial
  refine ⟨hsource, ?_, ?_, ?_⟩
  · apply passResolves_of_follows hdecls hdups ?_ hobeys.colors
    intro v hv
    simp [Conversion.Passes.allVariables, Finding.toVariable, hv]
  · apply passResolves_of_follows hdecls hdups ?_ hobeys.texts
    intro v hv
    simp [Conversion.Passes.allVariables, Finding.toVariable, hv]
  · apply passResolves_of_follows hdecls hdups ?_ hobeys.fonts
    intro v hv
    simp [Conversion.Passes.allVariables, Finding.toVariable, hv]

/-- Every reference that the conversion of a Swift drawing writes is to one declaration of the view:
the first that asked for its name, in the order of colors, frames, texts and fonts. -/
theorem convert_references_resolve (o : Options) (source : Text) (ho : o.dialect = .swift) :
    ∃ view, (convert o source).value = some view ∧
      view.Resolved (Conversion.Passes.run (Conversion.viewSource o source))
        (Conversion.viewSource o source) := by
  refine ⟨(Conversion.run o source).value, by simp only [convert, ho], ?_⟩
  apply resolved_of_declares rfl
  · simp only [Conversion.run]
  · simp only [Conversion.run]
  · simp only [Conversion.run]

/-- A drawing with a color and a text. -/
def labelDrawing : Text :=
  "/// Dot\nUIColor.white.setFill()\n/// Label\nNSMutableAttributedString(string: \"hi\")".toList

/-- The names of that drawing do not collide, so each of its references reads its own literal. -/
theorem convert_references_resolve_label :
    ((convert { dialect := .swift } labelDrawing).value.map
        fun view => (view.declarations.map Declaration.name, view.duplicates)) =
      some (["dotFillColor".toList, "dotFrame".toList, "labelText".toList,
        "labelAttributedText".toList, "labelFrame".toList], []) ∧
    ∃ view, (convert { dialect := .swift } labelDrawing).value = some view ∧
      view.Resolved
        (Conversion.Passes.run (Conversion.viewSource { dialect := .swift } labelDrawing))
        (Conversion.viewSource { dialect := .swift } labelDrawing) :=
  ⟨by decide +kernel, convert_references_resolve _ _ rfl⟩

end LayerView
