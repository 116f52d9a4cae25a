import LayerView.Proofs.Collisions
import LayerView.Proofs.Identifiers
import LayerView.Text.Pattern

/-!
# Assigned frames

A conversion adds lines that assign to frame properties, below the fill of a path and above the draw
call of a text.  Whatever such a line assigns to is declared once, as a rectangle, by the first layer
that asked for the name.  The property is a variable only if the label of that layer does not start
with an underscore: the frames of hidden layers are constants, and are assigned nevertheless.

Main statements:
- `assignedName?_frameAssignment`: the name is read back from an assignment
- `assignedName?_of_mem_overrideBlock`: what is above the draw call of a text assigns only to its frame
- `convert_assigned_frames`: how all that is assigned is declared
-/

namespace LayerView

open LayerView.Text LayerView.ViewClass

/-! ## Reading assignments -/

/-- The indentation of statements in a drawing method. -/
def indentation : Text := "        ".toList

/-- How the right-hand side of an assignment of a frame starts. -/
def conversionCall : Text := " = convertRectToViewSpace(".toList

/-- The name that a line assigns a converted rectangle to. -/
def assignedName? (line : Text) : Option Text := do
  let statement ← skip? indentation line
  let name := statement.takeWhile (· != ' ')
  let _ ← skip? conversionCall (statement.drop name.length)
  return name

private theorem takeWhile_append_blank {n : Text} (hn : ' ' ∉ n) (t : Text) :
    (n ++ ' ' :: t).takeWhile (· != ' ') = n := by
  have hpos : ∀ c ∈ n, (c != ' ') = true := by
    intro c hc
    exact bne_iff_ne.mpr fun e => hn (e ▸ hc)
  rw [List.takeWhile_append_of_pos hpos]
  simp

/-- A name without blanks is read back from an assignment to it. -/
theorem assignedName?_frameAssignment {n : Text} (hn : ' ' ∉ n) (rect : Text) :
    assignedName? (DrawWatch.frameAssignment n rect) = some n := by
  have hline : DrawWatch.frameAssignment n rect =
      indentation ++ (n ++ (conversionCall ++ (rect ++ ", context: context)".toList))) := by
    unfold DrawWatch.frameAssignment indentation conversionCall
    simp only [List.append_assoc]
  -- the first blank of the statement is that of the call
  have hname : (n ++ (conversionCall ++ (rect ++ ", context: context)".toList))).takeWhile
      (· != ' ') = n := takeWhile_append_blank hn _
  simp only [assignedName?, hline, skip?_append, Option.bind_eq_bind, Option.bind_some, hname,
    List.drop_left]
  rfl

/-- A line that is indented further assigns nothing. -/
private theorem assignedName?_of_indented {line : Text}
    (h : indentation ++ "    ".toList <+: line) : assignedName? line = none := by
  obtain ⟨t, rfl⟩ := h
  -- behind the indentation there is a blank, so the name would be empty and no call follows
  have hname : ("    ".toList ++ t).takeWhile (· != ' ') = [] := rfl
  have hcall : skip? conversionCall ("    ".toList ++ t) = none := rfl
  simp only [assignedName?, List.append_assoc, skip?_append, Option.bind_eq_bind, Option.bind_some,
    hname, List.length_nil, List.drop_zero, hcall, Option.bind_none]

/-- The assignment of the bounds of a filled layer is one to its frame. -/
private theorem assignedName?_boundsAssignment (f : FrameVariable) :
    assignedName? (Pass.boundsAssignment f) = some f.name :=
  assignedName?_frameAssignment (f.layer.notMem_identifier_of_isBlank (by decide) (by decide)) _

/-- Of the lines above the draw call of a text, only one may assign, and only to its frame. -/
theorem assignedName?_of_mem_overrideBlock {v : TextVariable} {call line n : Text}
    (hline : line ∈ DrawWatch.overrideBlock v call) (hn : assignedName? line = some n) :
    n = v.frameName := by
  unfold DrawWatch.overrideBlock at hline
  -- the assignment of the frame comes first, if the call has a rectangle
  rcases List.mem_append.mp hline with hline | hline
  · split at hline
    case h_1 rect _ =>
      obtain rfl := List.mem_singleton.mp hline
      have hblank : ' ' ∉ v.frameName :=
        v.layer.notMem_identifier_of_isBlank (by decide) (by decide)
      rw [assignedName?_frameAssignment hblank] at hn
      exact (Option.some.inj hn).symm
    case h_2 => simp at hline
  · -- the other lines are a block inside the method
    have hindented : indentation ++ "    ".toList <+: line := by
      simp only [List.mem_cons, List.not_mem_nil, or_false] at hline
      rcases hline with rfl | rfl | rfl | rfl
      · rw [List.append_assoc _ v.layer.codeName]
        exact List.IsPrefix.trans (by decide) (List.prefix_append _ _)
      · rw [List.append_assoc _ v.attributedName]
        exact List.IsPrefix.trans (by decide) (List.prefix_append _ _)
      · rw [List.append_assoc _ v.layer.codeName]
        exact List.IsPrefix.trans (by decide) (List.prefix_append _ _)
      · decide
    rw [assignedName?_of_indented hindented] at hn
    simp at hn

/-! ## Lines that the passes add -/

/-- The lines that a pass puts above and below those of its source. -/
def Edit.addedLines {α : Type} (es : List (Edit α)) : List Text :=
  es.flatMap fun e => e.above ++ e.below

/-- What is known of the lines that the edits add holds of all that a pass adds. -/
theorem Edit.ok_of_mem_addedLines {α β : Type} {finding? : α → Option Finding} {ok : Text → Prop}
    {old : β → Text} {ls : List β} {es : List (Edit α)}
    (h : List.Forall₂ (fun l e => e.Follows finding? ok (old l)) ls es) {t : Text}
    (ht : t ∈ Edit.addedLines es) : ok t := by
  obtain ⟨e, he, hte⟩ := List.mem_flatMap.mp ht
  obtain ⟨l, -, hle⟩ := exists_line_of_mem h he
  exact hle.adds t hte

namespace Conversion.Passes

/-- The lines that the passes of a conversion add. -/
def addedLines (p : Passes) : List Text :=
  Edit.addedLines p.colors ++ Edit.addedLines p.frames ++ Edit.addedLines p.texts ++
    Edit.addedLines p.fonts

theorem Obeys.ok_of_mem_addedLines {ok : Text → Prop} {source : Text} {p : Passes}
    (h : p.Obeys ok source) {t : Text} (ht : t ∈ p.addedLines) : ok t := by
  simp only [addedLines, List.mem_append] at ht
  rcases ht with ((ht | ht) | ht) | ht
  · exact Edit.ok_of_mem_addedLines h.colors ht
  · exact Edit.ok_of_mem_addedLines h.frames ht
  · exact Edit.ok_of_mem_addedLines h.texts ht
  · exact Edit.ok_of_mem_addedLines h.fonts ht

/-- Whatever an added line assigns to was asked for as a frame. -/
theorem exists_frame_of_assignedName? {source : Text} {p : Passes} (hp : Passes.run source = p)
    {line n : Text} (hline : line ∈ p.addedLines) (hn : assignedName? line = some n) :
    ∃ d ∈ p.allVariables.flatMap Variable.declarations, d.name = n ∧ PlaysRole d .frame := by
  -- two kinds of lines are added, and each assigns to a frame that is asked for
  have hobeys : p.Obeys (fun line => ∀ n, assignedName? line = some n →
      ∃ d ∈ p.allVariables.flatMap Variable.declarations, d.name = n ∧ PlaysRole d .frame)
      source := by
    apply obeys_run hp
    · intro f hf n hn
      rw [assignedName?_boundsAssignment] at hn
      have hmem : Variable.frame f ∈ p.allVariables := by simp [allVariables, hf]
      exact ⟨_, List.mem_flatMap.mpr ⟨_, hmem, List.mem_cons_self⟩, Option.some.inj hn,
        rfl, rfl, rfl, fun _ => rfl⟩
    · -- the companions of a text are its attributed text and its frame
      rintro t ⟨v, call, hv, -, -, ht⟩ n hn
      have hmem : Variable.text v ∈ p.allVariables := by simp [allVariables, hv]
      have hframe := assignedName?_of_mem_overrideBlock ht hn
      exact ⟨_, List.mem_flatMap.mpr ⟨_, hmem, List.mem_cons_of_mem _ (List.mem_cons_of_mem _
        List.mem_cons_self)⟩, hframe.symm, rfl, rfl, rfl, fun _ => rfl⟩
  exact hobeys.ok_of_mem_addedLines hline n hn

end Conversion.Passes

/-! ## How assigned frames are declared -/

/-- How the declaration of a property of a layer starts. -/
def introduction (label : Text) : Text :=
  if label.head? = some '_' then "    let ".toList else "    public var ".toList

/-- It is the keyword for the visibility that the label asks for. -/
private theorem introduction_eq (label : Text) :
    introduction label = "    ".toList ++ (Visibility.ofLabel label).keyword ++ " ".toList := by
  cases label with
  | nil => decide
  | cons c t =>
    -- the underscore at the start is the one thing that both look at
    by_cases hc : c = '_'
    · subst hc
      rfl
    · have hvisible : Visibility.ofLabel (c :: t) = .visible := by
        unfold Visibility.ofLabel
        split
        case h_1 heq => exact absurd (List.cons.inj heq).1 hc
        case h_2 => rfl
      have hhead : ¬ (c :: t).head? = some '_' := by simpa using hc
      rw [hvisible, introduction, if_neg hhead]
      decide

/-- How a view declares a frame: once, by the first that asked for the name, as a constant if the
label starts with an underscore and as a variable otherwise. -/
structure DeclaresFrame (view : Conversion) (all : List Declaration) (n : Text)
    (d : Declaration) : Prop where
  only : view.declarations.filter (·.name = n) = [d]
  first : all.find? (·.name = n) = some d
  name_eq : n = Naming.baseIdentifier d.label ++ "Frame".toList
  line_eq : d.line = introduction d.label ++ n ++ ": CGRect = .zero".toList

/-- The line that declares a frame. -/
theorem PlaysRole.line_eq {d : Declaration} (h : PlaysRole d .frame) :
    d.line = introduction d.label ++ d.name ++ ": CGRect = .zero".toList := by
  have hending : ": ".toList ++ "CGRect".toList ++ " = ".toList ++ ".zero".toList =
      ": CGRect = .zero".toList := by decide
  unfold Declaration.line
  rw [introduction_eq, h.visibility_eq, h.type_eq, h.value_eq rfl, ← hending]
  simp only [List.append_assoc]
  rfl

/-- A frame that is asked for is declared as one: its name does not clash with that of a property in
another role. -/
theorem exists_declaresFrame {view : Conversion} {vs : List Variable}
    (hview : view.declarations = (grantAll .empty vs).declarations) {d : Declaration}
    (hd : d ∈ vs.flatMap Variable.declarations) (hframe : PlaysRole d .frame) :
    ∃ e, DeclaresFrame view (vs.flatMap Variable.declarations) d.name e := by
  obtain ⟨e, honly, hfirst⟩ := exists_granted vs hd
  have hname : e.name = d.name := by simpa using List.find?_some hfirst
  obtain ⟨r, hr⟩ := exists_role (List.mem_of_find?_eq_some hfirst)
  -- only a string and an attributed text can clash, and a frame is neither
  have hrole : PlaysRole e .frame := by
    have hnoclash : ∀ t : Text, d.type = t → t = "CGRect".toList := fun t ht =>
      ht.symm.trans hframe.type_eq
    rcases hframe.eq_or_clash hr hname.symm with ⟨rfl, -⟩ | hclash | hclash
    · exact hr
    · exact absurd (hnoclash _ hclash.string) (by decide)
    · exact absurd (hnoclash _ hclash.attributed) (by decide)
  refine ⟨e, ?_, hfirst, ?_, ?_⟩
  · rw [hview, honly]
  · rw [← hname]
    exact hrole.name_eq
  · rw [← hname]
    exact hrole.line_eq

/-- Every property that an added line of a converted drawing assigns to is declared once, as a
rectangle.  The declaration is that of the first layer that asked for the name, and it makes a variable
unless the label of that layer starts with an underscore. -/
theorem convert_assigned_frames (o : Options) (source : Text) (ho : o.dialect = .swift) :
    ∃ view passes, (convert o source).value = some view ∧
      passes = Conversion.Passes.run (Conversion.viewSource o source) ∧
      ∀ line ∈ passes.addedLines, ∀ n, assignedName? line = some n →
        ∃ d, DeclaresFrame view (passes.allVariables.flatMap Variable.declarations) n d := by
  refine ⟨(Conversion.run o source).value, _, by simp only [convert, ho], rfl, ?_⟩
  intro line hline n hn
  -- what is assigned was asked for, and what was asked for is declared
  obtain ⟨d, hd, rfl, hframe⟩ := Conversion.Passes.exists_frame_of_assignedName? rfl hline hn
  apply exists_declaresFrame _ hd hframe
  simp only [Conversion.run]

/-- A drawing that fills a layer and draws a text of a layer whose label gives the same stem. -/
def framesDrawing : Text :=
  "/// Dot\nUIColor.white.setFill()\n dot.fill()\n".toList ++
  "/// _dot\nNSMutableAttributedString(string: \"hi\")\n_dot.draw(in: CGRect(x: 0, y: 0))".toList

/-- There the one frame is assigned twice, and the filled layer declares it as a variable. -/
theorem convert_assigned_frames_dot :
    ((Conversion.Passes.run (Conversion.viewSource { dialect := .swift } framesDrawing)
        ).addedLines.filterMap assignedName?) = ["dotFrame".toList, "dotFrame".toList] ∧
    ((convert { dialect := .swift } framesDrawing).value.map fun view =>
        (view.declarations.filter (·.name = "dotFrame".toList)).map Declaration.line) =
      some ["    public var dotFrame: CGRect = .zero".toList] ∧
    ∃ view passes, (convert { dialect := .swift } framesDrawing).value = some view ∧
      passes = Conversion.Passes.run (Conversion.viewSource { dialect := .swift } framesDrawing) ∧
      ∀ line ∈ passes.addedLines, ∀ n, assignedName? line = some n →
        ∃ d, DeclaresFrame view (passes.allVariables.flatMap Variable.declarations) n d :=
  and_assoc.mp ⟨by decide +kernel, convert_assigned_frames _ _ rfl⟩

/-- A drawing that fills a hidden layer. -/
def hiddenDrawing : Text :=
  "class A: NSObject \x7b\n    /// _Dot\n    UIColor.white.setFill()\n    _Dot.fill()\n\x7d".toList

/-- The frame of a hidden layer is assigned, although it is declared as a constant. -/
theorem hidden_frame_assigned :
    ((Conversion.Passes.run (Conversion.viewSource { dialect := .swift } hiddenDrawing)
        ).addedLines.filterMap assignedName?) = ["dotFrame".toList] ∧
    ((convert { dialect := .swift } hiddenDrawing).value.map fun view =>
        (view.declarations.filter (·.name = "dotFrame".toList)).map Declaration.line) =
      some ["    let dotFrame: CGRect = .zero".toList] := by
  decide +kernel

end LayerView
