import LayerView.Proofs.References

/-!
# Names that collide

The name of a property is the stem of its layer's label with an ending that tells what the property is
for.  Two properties of one name were asked for by layers of one stem for one purpose, since no ending
is the end of another, with a single exception: `Text` ends `AttributedText`.  So the string of a layer
`LabelAttributed` has the name of the attributed text of a layer `Label`, and where these two meet, the
property that is declared has not the type that the other one needs.

Main statements:
- `Role.ending_suffix_iff`: which endings end others
- `PlaysRole.eq_or_clash`: what two declarations of one name have in common
- `convert_dropped_types`: the types of declarations that a conversion drops
-/

namespace LayerView

open LayerView.Text LayerView.ViewClass

/-! ## Roles -/

/-- What a property is for. -/
inductive Role where
  | strokeColor
  | fillColor
  | textColor
  | text
  | attributedText
  | font
  | frame
deriving DecidableEq, Repr

/-- How the names of properties in a role end. -/
def Role.ending : Role → Text
  | .strokeColor => "StrokeColor".toList
  | .fillColor => "FillColor".toList
  | .textColor => "TextColor".toList
  | .text => "Text".toList
  | .attributedText => "AttributedText".toList
  | .font => "Font".toList
  | .frame => "Frame".toList

/-- The type of the properties in a role. -/
def Role.type : Role → Text
  | .strokeColor | .fillColor | .textColor => "UIColor".toList
  | .text => "String".toList
  | .attributedText => "NSAttributedString?".toList
  | .font => "UIFont".toList
  | .frame => "CGRect".toList

/-- A declaration of a property in a role: name, type and visibility follow from label and role. -/
structure PlaysRole (d : Declaration) (r : Role) : Prop where
  name_eq : d.name = Naming.baseIdentifier d.label ++ r.ending
  type_eq : d.type = r.type
  visibility_eq : d.visibility = .ofLabel d.label
  value_eq : r = .frame → d.value = ".zero".toList

/-- The declaration of a variable plays a role. -/
private theorem exists_role_declaration (v : Variable) : ∃ r, PlaysRole v.declaration r := by
  cases v with
  | color c =>
    obtain ⟨layer, color, use⟩ := c
    cases use with
    | stroke => exact ⟨.strokeColor, rfl, rfl, rfl, nofun⟩
    | fill => exact ⟨.fillColor, rfl, rfl, rfl, nofun⟩
    | text => exact ⟨.textColor, rfl, rfl, rfl, nofun⟩
  | text t => exact ⟨.text, rfl, rfl, rfl, nofun⟩
  | font f => exact ⟨.font, rfl, rfl, rfl, nofun⟩
  | frame f => exact ⟨.frame, rfl, rfl, rfl, fun _ => rfl⟩

/-- So do the declarations that come with it. -/
private theorem exists_role_companion {v : Variable} {d : Declaration} (hd : d ∈ v.companions) :
    ∃ r, PlaysRole d r := by
  cases v with
  | text t =>
    -- only a text has companions: its attributed text and its frame
    rcases List.mem_pair.mp hd with rfl | rfl
    · exact ⟨.attributedText, rfl, rfl, rfl, nofun⟩
    · exact ⟨.frame, rfl, rfl, rfl, fun _ => rfl⟩
  | color c => exact absurd hd List.not_mem_nil
  | font f => exact absurd hd List.not_mem_nil
  | frame f => exact absurd hd List.not_mem_nil

/-- Every declaration that variables ask for plays a role. -/
theorem exists_role {vs : List Variable} {d : Declaration}
    (hd : d ∈ vs.flatMap Variable.declarations) : ∃ r, PlaysRole d r := by
  obtain ⟨v, -, hv⟩ := List.mem_flatMap.mp hd
  rcases List.mem_cons.mp hv with rfl | hv
  · exact exists_role_declaration v
  · exact exists_role_companion hv

/-! ## Two declarations of one name -/

/-- Of the endings, one is the end of another only if it is `Text`. -/
theorem Role.ending_suffix_iff (r s : Role) :
    r.ending <:+ s.ending ↔ r = s ∨ (r = .text ∧ s = .attributedText) := by
  cases r <;> cases s <;> decide

/-- The string `d` has the name of the attributed text `e`, which is of a layer with a shorter stem. -/
structure Clash (d e : Declaration) : Prop where
  string : d.type = "String".toList
  attributed : e.type = "NSAttributedString?".toList
  stem_eq : Naming.baseIdentifier d.label = Naming.baseIdentifier e.label ++ "Attributed".toList

/-- Where one ending is the end of the other, the roles are the same or the names clash. -/
theorem PlaysRole.eq_or_clash_of_suffix {d e : Declaration} {r s : Role} (hd : PlaysRole d r)
    (he : PlaysRole e s) (h : d.name = e.name) (hsuffix : r.ending <:+ s.ending) :
    (r = s ∧ Naming.baseIdentifier d.label = Naming.baseIdentifier e.label) ∨ Clash d e := by
  rw [hd.name_eq, he.name_eq] at h
  rcases (Role.ending_suffix_iff r s).mp hsuffix with rfl | ⟨rfl, rfl⟩
  · exact Or.inl ⟨rfl, List.append_cancel_right h⟩
  · -- the rest of the longer ending belongs to the stem of the string
    have hending : Role.attributedText.ending = "Attributed".toList ++ Role.text.ending := by decide
    rw [hending, ← List.append_assoc] at h
    exact Or.inr ⟨hd.type_eq, he.type_eq, List.append_cancel_right h⟩

/-- Two declarations of one name play the same role for layers of the same stem, or they clash. -/
theorem PlaysRole.eq_or_clash {d e : Declaration} {r s : Role} (hd : PlaysRole d r)
    (he : PlaysRole e s) (h : d.name = e.name) :
    (r = s ∧ Naming.baseIdentifier d.label = Naming.baseIdentifier e.label) ∨
      Clash d e ∨ Clash e d := by
  -- both endings end the same name, so one of them ends the other
  have hr : r.ending <:+ d.name := ⟨_, hd.name_eq.symm⟩
  have hs : s.ending <:+ d.name := ⟨_, (h.trans he.name_eq).symm⟩
  rcases List.suffix_or_suffix_of_suffix hr hs with hrs | hsr
  · rcases hd.eq_or_clash_of_suffix he h hrs with hsame | hclash
    · exact Or.inl hsame
    · exact Or.inr (Or.inl hclash)
  · rcases he.eq_or_clash_of_suffix hd h.symm hsr with ⟨hrole, hstem⟩ | hclash
    · exact Or.inl ⟨hrole.symm, hstem.symm⟩
    · exact Or.inr (Or.inr hclash)

/-! ## Dropped declarations -/

/-- The declarations whose name an earlier declaration of the list has, in order. -/
def repeatedDeclarations (ds : List Declaration) : List Declaration :=
  (ds.zipIdx.filter fun p => !isFirst ds p).map Prod.fst

/-- Their names are the names that are repeated. -/
private theorem map_name_repeatedDeclarations (ds : List Declaration) :
    (repeatedDeclarations ds).map Declaration.name = repeatedNames ds := by
  simp only [repeatedDeclarations, repeatedNames, List.map_map]
  rfl

private theorem mem_of_mem_repeatedDeclarations {ds : List Declaration} {d : Declaration}
    (h : d ∈ repeatedDeclarations ds) : d ∈ ds := by
  obtain ⟨p, hp, rfl⟩ := List.mem_map.mp h
  exact List.fst_mem_of_mem_zipIdx (List.mem_filter.mp hp).1

/-- The declaration `d` was dropped for `e`: this has its name, and its type too unless the string of
one layer met the attributed text of another. -/
structure DroppedFor (d e : Declaration) : Prop where
  name_eq : e.name = d.name
  type_eq_or_clash :
    (e.type = d.type ∧ Naming.baseIdentifier e.label = Naming.baseIdentifier d.label) ∨
      Clash d e ∨ Clash e d

/-- The first declaration of a name is the one for which the others are dropped. -/
private theorem droppedFor_of_find? {vs : List Variable} {d e : Declaration}
    (hd : d ∈ vs.flatMap Variable.declarations)
    (he : (vs.flatMap Variable.declarations).find? (·.name = d.name) = some e) :
    DroppedFor d e := by
  have hname : e.name = d.name := by simpa using List.find?_some he
  obtain ⟨r, hr⟩ := exists_role hd
  obtain ⟨s, hs⟩ := exists_role (List.mem_of_find?_eq_some he)
  refine ⟨hname, ?_⟩
  -- one role means one type
  rcases hr.eq_or_clash hs hname.symm with ⟨rfl, hstem⟩ | hclash
  · exact Or.inl ⟨by rw [hr.type_eq, hs.type_eq], hstem.symm⟩
  · exact Or.inr hclash

/-- The duplicates of a converted drawing are the names of the declarations that were dropped.  For each
of them one declaration of that name is made; it has the same type, unless one of the two is the string
of a layer and the other the attributed text of a layer whose stem lacks `Attributed` at its end. -/
theorem convert_dropped_types (o : Options) (source : Text) (ho : o.dialect = .swift) :
    ∃ view all, (convert o source).value = some view ∧
      all = (Conversion.Passes.run (Conversion.viewSource o source)).allVariables.flatMap
        Variable.declarations ∧
      view.duplicates = (repeatedDeclarations all).map Declaration.name ∧
      ∀ d ∈ repeatedDeclarations all,
        ∃ e, view.declarations.filter (·.name = d.name) = [e] ∧ DroppedFor d e := by
  refine ⟨(Conversion.run o source).value, _, by simp only [convert, ho], rfl, ?_, ?_⟩
  · rw [map_name_repeatedDeclarations, ← (settled_grant _).duplicates_eq]
    simp only [Conversion.run, grantAll]
  · -- of each name one declaration is granted, the first that was asked for
    intro d hd
    have hmem := mem_of_mem_repeatedDeclarations hd
    obtain ⟨e, hfilter, hfind⟩ := exists_granted _ hmem
    refine ⟨e, ?_, droppedFor_of_find? hmem hfind⟩
    simpa only [Conversion.run] using hfilter

/-- A drawing with the texts of two layers, of which one is called as the attributed text of the other. -/
def attributedDrawing : Text :=
  "/// Label\nNSMutableAttributedString(string: \"hi\")\n".toList ++
  "/// LabelAttributed\nNSMutableAttributedString(string: \"ho\")".toList

/-- In that drawing a string is dropped, and the declaration of its name is that of an attributed
text. -/
theorem attributed_text_replaces_string :
    ((convert { dialect := .swift } attributedDrawing).value.map fun view =>
        (view.duplicates, (view.declarations.filter (·.name = "labelAttributedText".toList)).map
          Declaration.type)) =
      some (["labelAttributedText".toList], ["NSAttributedString?".toList]) ∧
    ((repeatedDeclarations
        ((Conversion.Passes.run (Conversion.viewSource { dialect := .swift } attributedDrawing)
          ).allVariables.flatMap Variable.declarations)).map fun d => (d.name, d.type)) =
      [("labelAttributedText".toList, "String".toList)] := by
  decide +kernel

/-- The same with a third layer, whose label gives the stem of the first. -/
def labelsDrawing : Text :=
  attributedDrawing ++ "\n/// _label\nNSMutableAttributedString(string: \"hm\")".toList

/-- There all properties of the third layer are dropped, each for one of its own type. -/
theorem convert_dropped_types_labels :
    ((convert { dialect := .swift } labelsDrawing).value.map Conversion.duplicates) =
      some ["labelAttributedText".toList, "labelText".toList, "labelAttributedText".toList,
        "labelFrame".toList] ∧
    ∃ view all, (convert { dialect := .swift } labelsDrawing).value = some view ∧
      all = (Conversion.Passes.run (Conversion.viewSource { dialect := .swift } labelsDrawing)
        ).allVariables.flatMap Variable.declarations ∧
      view.duplicates = (repeatedDeclarations all).map Declaration.name ∧
      ∀ d ∈ repeatedDeclarations all,
        ∃ e, view.declarations.filter (·.name = d.name) = [e] ∧ DroppedFor d e :=
  ⟨by decide +kernel, convert_dropped_types _ _ rfl⟩

end LayerView
