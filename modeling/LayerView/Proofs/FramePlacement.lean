import LayerView.Pass.Frames
import LayerView.Proofs.Lines
import LayerView.Proofs.Search

/-!
# Where frames are assigned

The bounds of a path are stored below a line that fills it.  Of several frames whose paths a line
fills, the first of the list is assigned.  It is to be assigned once, below the first line that it is
the first match for; but the pass looks at each line by itself and keeps no record of what it has
assigned, so a path that is filled twice has its bounds stored twice.

An outcome is told by the frame that is assigned below each line, if any.  There is one such list for
the pass and one for assigning once, and the texts that they lead to are the same only if the lists
are: every assignment makes the text longer.

Main statements:
- `frameOf?_eq_some_iff`: the frame of a line
- `oncePerFrame_onceAssigned`, `OncePerFrame.unique`: assigning once
- `eq_of_joinLines_eq`: the text tells the assignments
- `frame_assignments_placed`: what the pass assigns, and when it does so once
- `frame_assigned_twice`: a frame that is assigned twice
-/

namespace LayerView.Pass

open LayerView.Text

variable {fs : List FrameVariable} {ls : List Text}

/-! ## The frame of a line -/

/-- A line fills the path of this frame, and the path of no frame before it in the list. -/
structure FirstFilled (fs : List FrameVariable) (line : Text) (f : FrameVariable) : Prop where
  fills : pathFill f <:+: line
  first : ∃ before after, fs = before ++ f :: after ∧ ∀ g ∈ before, ¬ pathFill g <:+: line

/-- The frame of a line, by a search. -/
def frameOf? (fs : List FrameVariable) (line : Text) : Option FrameVariable :=
  fs.find? fun f => contains (pathFill f) line

/-- The search takes the first frame of the list whose path the line fills. -/
theorem frameOf?_eq_some_iff {line : Text} {f : FrameVariable} :
    frameOf? fs line = some f ↔ FirstFilled fs line f := by
  simp only [frameOf?, List.find?_eq_some_iff_append, Bool.not_eq_true', ← Bool.not_eq_true,
    contains_iff]
  exact ⟨fun h => ⟨h.1, h.2⟩, fun h => ⟨h.fills, h.first⟩⟩

private theorem lines_frameEditAt (fs : List FrameVariable) (line : Text) :
    (frameEditAt fs line).lines = line :: ((frameOf? fs line).map boundsAssignment).toList := by
  unfold frameEditAt frameOf?
  split
  case h_1 f h =>
    rw [h]
    rfl
  case h_2 h =>
    rw [h]
    rfl

/-! ## Outcomes -/

/-- Lines with the assignments of frames below them, one at most below each line. -/
def withAssignments : List Text → List (Option FrameVariable) → List Text
  | line :: ls, f? :: assigned =>
    line :: ((f?.map boundsAssignment).toList ++ withAssignments ls assigned)
  | ls, [] => ls
  | [], _ => []

private theorem withAssignments_map (ls : List Text) (g : Text → Option FrameVariable) :
    withAssignments ls (ls.map g) =
      ls.flatMap fun line => line :: ((g line).map boundsAssignment).toList := by
  induction ls with
  | nil => rfl
  | cons line ls ih =>
    rw [List.map_cons, withAssignments, ih, List.flatMap_cons, List.cons_append]

/-- Below each line its frame is assigned. -/
structure EachLine (fs : List FrameVariable) (ls : List Text)
    (assigned : List (Option FrameVariable)) : Prop where
  length_eq : assigned.length = ls.length
  assigned_iff : ∀ (k : Nat) (line : Text), ls[k]? = some line →
    ∀ f, assigned[k]? = some (some f) ↔ FirstFilled fs line f

/-- Below each line its frame is assigned if it is not that of a line above. -/
structure OncePerFrame (fs : List FrameVariable) (ls : List Text)
    (assigned : List (Option FrameVariable)) : Prop where
  length_eq : assigned.length = ls.length
  assigned_iff : ∀ (k : Nat) (line : Text), ls[k]? = some line →
    ∀ f, assigned[k]? = some (some f) ↔ FirstFilled fs line f ∧
      ∀ (j : Nat) (earlier : Text), j < k → ls[j]? = some earlier → ¬ FirstFilled fs earlier f

private theorem eachLine_map (fs : List FrameVariable) (ls : List Text) :
    EachLine fs ls (ls.map (frameOf? fs)) where
  length_eq := List.length_map _
  assigned_iff k line hline f := by
    rw [List.getElem?_map, hline, Option.map_some, Option.some.injEq, frameOf?_eq_some_iff]

/-- The frames below lines when each is assigned below the first line of its own. -/
def onceAssigned (fs : List FrameVariable) (ls : List Text) : List (Option FrameVariable) :=
  ls.zipIdx.map fun (line, k) =>
    (frameOf? fs line).filter fun f => (ls.take k).all fun earlier => frameOf? fs earlier != some f

/-- Looking up the lines above tells whether a frame was assigned before. -/
theorem oncePerFrame_onceAssigned (fs : List FrameVariable) (ls : List Text) :
    OncePerFrame fs ls (onceAssigned fs ls) where
  length_eq := by rw [onceAssigned, List.length_map, List.length_zipIdx]
  assigned_iff k line hline f := by
    -- the lines above are those of a smaller number
    have hearlier : ((ls.take k).all fun earlier => frameOf? fs earlier != some f) = true ↔
        ∀ (j : Nat) (earlier : Text), j < k → ls[j]? = some earlier →
          ¬ FirstFilled fs earlier f := by
      simp only [List.all_eq_true, bne_iff_ne, ne_eq, frameOf?_eq_some_iff]
      constructor
      · intro h j earlier hj hget
        exact h earlier (List.mem_iff_getElem?.mpr ⟨j, by rw [List.getElem?_take, if_pos hj, hget]⟩)
      · intro h earlier hmem
        obtain ⟨j, hget⟩ := List.mem_iff_getElem?.mp hmem
        rw [List.getElem?_take, Option.ite_none_right_eq_some] at hget
        exact h j earlier hget.1 hget.2
    simp only [onceAssigned, List.getElem?_map, List.getElem?_zipIdx, hline, Option.map_some,
      Nat.zero_add, Option.some.injEq, Option.filter_eq_some_iff, frameOf?_eq_some_iff, hearlier]

/-- An assignment stands below a line. -/
theorem exists_line_of_assigned {assigned : List (Option FrameVariable)} {k : Nat}
    {f? : Option FrameVariable} (hlength : assigned.length = ls.length)
    (h : assigned[k]? = some f?) : ∃ line, ls[k]? = some line := by
  obtain ⟨hk, -⟩ := List.getElem?_eq_some_iff.mp h
  exact ⟨_, List.getElem?_eq_getElem (hlength ▸ hk)⟩

/-- No frame is assigned twice when it is assigned once. -/
theorem OncePerFrame.unique {assigned : List (Option FrameVariable)} {j k : Nat}
    {f : FrameVariable} (h : OncePerFrame fs ls assigned) (hj : assigned[j]? = some (some f))
    (hk : assigned[k]? = some (some f)) : j = k := by
  obtain ⟨line, hline⟩ := exists_line_of_assigned h.length_eq hj
  obtain ⟨later, hlater⟩ := exists_line_of_assigned h.length_eq hk
  obtain ⟨hfilled, hnone⟩ := (h.assigned_iff j line hline f).mp hj
  obtain ⟨hfilled', hnone'⟩ := (h.assigned_iff k later hlater f).mp hk
  -- of two different lines one is above the other
  rcases Nat.lt_trichotomy j k with hlt | heq | hlt
  · exact absurd hfilled (hnone' j line hlt hline)
  · exact heq
  · exact absurd hfilled' (hnone k later hlt hlater)

private theorem eq_of_forall_assigned_iff {once each : List (Option FrameVariable)}
    (hlength : once.length = each.length)
    (h : ∀ (k : Nat) (f : FrameVariable), once[k]? = some (some f) ↔ each[k]? = some (some f)) :
    once = each := by
  apply List.ext_getElem hlength
  intro k honce heach
  apply Option.ext
  intro f
  have hk := h k f
  rwa [List.getElem?_eq_getElem honce, List.getElem?_eq_getElem heach, Option.some.injEq,
    Option.some.injEq] at hk

/-! ## The text of an outcome -/

/-- The length of lines, each with its line feed. -/
def extent : List Text → Nat
  | [] => 0
  | line :: ls => line.length + 1 + extent ls

private theorem extent_append (ks ls : List Text) : extent (ks ++ ls) = extent ks + extent ls := by
  induction ks with
  | nil => exact (Nat.zero_add _).symm
  | cons k ks ih =>
    rw [List.cons_append, extent, extent, ih]
    omega

theorem length_joinLines (line : Text) (ls : List Text) :
    (joinLines (line :: ls)).length + 1 = extent (line :: ls) := by
  induction ls generalizing line with
  | nil => simp [joinLines, extent]
  | cons next ls ih =>
    rw [joinLines_cons_cons, extent, ← ih next]
    simp only [List.length_append, List.length_cons]
    omega

/-- Leaving assignments out makes the lines shorter. -/
theorem extent_withAssignments {once each : List (Option FrameVariable)}
    (h : List.Forall₂ (fun o e => o = none ∨ o = e) once each) (hlength : once.length = ls.length) :
    extent (withAssignments ls once) ≤ extent (withAssignments ls each) ∧
      (extent (withAssignments ls once) = extent (withAssignments ls each) → once = each) := by
  induction h generalizing ls with
  | nil => exact ⟨Nat.le_refl _, fun _ => rfl⟩
  | @cons o e once each ho _ ih =>
    cases ls with
    | nil => simp at hlength
    | cons line ls =>
      obtain ⟨hle, heq⟩ := ih (Nat.succ.inj hlength)
      simp only [withAssignments, extent, extent_append]
      rcases ho with rfl | rfl
      · cases e with
        | none =>
          refine ⟨by omega, fun hsame => ?_⟩
          rw [heq (by omega)]
        | some f =>
          -- the assignment is there on one side only
          simp only [Option.map_some, Option.map_none, Option.toList, extent] at hle ⊢
          exact ⟨by omega, fun hsame => by omega⟩
      · -- the same below this line on both sides, so it is the rest that tells
        refine ⟨by omega, fun hsame => ?_⟩
        rw [heq (by omega)]

/-- Outcomes of which one leaves out assignments of the other are the same if their texts are. -/
theorem eq_of_joinLines_eq {once each : List (Option FrameVariable)}
    (h : List.Forall₂ (fun o e => o = none ∨ o = e) once each) (hlength : once.length = ls.length)
    (htext : joinLines (withAssignments ls once) = joinLines (withAssignments ls each)) :
    once = each := by
  cases h with
  | nil => rfl
  | @cons o e once each ho hrest =>
    cases ls with
    | nil => simp at hlength
    | cons line ls =>
      -- as texts of one length their lines extend as far
      apply (extent_withAssignments (.cons ho hrest) hlength).2
      simp only [withAssignments] at htext ⊢
      rw [← length_joinLines, ← length_joinLines, htext]

/-! ## The pass -/

/-- The pass assigns below each line the frame that the search finds for it. -/
theorem source_frames (fs : List FrameVariable) (source : Text) :
    Edit.source (frames fs source) =
      joinLines (withAssignments (lines source) ((lines source).map (frameOf? fs))) := by
  simp only [Edit.source, frames, List.flatMap_map, lines_frameEditAt, withAssignments_map]

/-- Assigning once leaves out some of the assignments below each line. -/
theorem OncePerFrame.forall₂ {once each : List (Option FrameVariable)}
    (h : OncePerFrame fs ls once) (heach : EachLine fs ls each) :
    List.Forall₂ (fun o e => o = none ∨ o = e) once each := by
  rw [List.forall₂_iff_get]
  refine ⟨h.length_eq.trans heach.length_eq.symm, ?_⟩
  intro k honce hk
  cases ho : once.get ⟨k, honce⟩ with
  | none => exact Or.inl rfl
  | some f =>
    right
    have hget : once[k]? = some (some f) := by
      rw [List.getElem?_eq_getElem honce]
      exact congrArg some ho
    obtain ⟨line, hline⟩ := exists_line_of_assigned h.length_eq hget
    -- what is assigned once is the frame of its line, which is assigned below it anyway
    have hfilled := ((h.assigned_iff k line hline f).mp hget).1
    have hassigned := (heach.assigned_iff k line hline f).mpr hfilled
    rw [List.getElem?_eq_getElem hk] at hassigned
    exact (Option.some.inj hassigned).symm

/-- A frame is that of one line at most. -/
def NoneTwice (fs : List FrameVariable) (ls : List Text) : Prop :=
  ∀ (f : FrameVariable) (j k : Nat) (line later : Text), ls[j]? = some line →
    ls[k]? = some later → FirstFilled fs line f → FirstFilled fs later f → j = k

/-- If no frame is that of two lines, each is assigned once. -/
theorem EachLine.oncePerFrame {assigned : List (Option FrameVariable)}
    (h : EachLine fs ls assigned) (hnone : NoneTwice fs ls) : OncePerFrame fs ls assigned where
  length_eq := h.length_eq
  assigned_iff k line hline f := by
    rw [h.assigned_iff k line hline f]
    refine ⟨fun hfilled => ⟨hfilled, ?_⟩, And.left⟩
    intro j earlier hjk hearlier hfilled'
    exact absurd (hnone f j k earlier line hearlier hline hfilled' hfilled) (Nat.ne_of_lt hjk)

/-- The lines of a source stay as they are and in their order, and below each line its frame is
assigned: the first frame of the list whose path the line fills.  This assigns each frame below the
first of its lines only, as it is to be, exactly when no frame is that of two lines. -/
theorem frame_assignments_placed (fs : List FrameVariable) (source : Text) :
    ∃ assigned once, EachLine fs (lines source) assigned ∧ OncePerFrame fs (lines source) once ∧
      Edit.source (frames fs source) = joinLines (withAssignments (lines source) assigned) ∧
      (Edit.source (frames fs source) = joinLines (withAssignments (lines source) once) ↔
        NoneTwice fs (lines source)) := by
  have heach := eachLine_map fs (lines source)
  have honce := oncePerFrame_onceAssigned fs (lines source)
  refine ⟨_, _, heach, honce, source_frames fs source, ?_⟩
  rw [source_frames]
  constructor
  · -- the text tells the assignments, so the two outcomes are one, which repeats no frame
    intro htext f j k line later hline hlater hfilled hfilled'
    have hsame := eq_of_joinLines_eq (honce.forall₂ heach) honce.length_eq htext.symm
    rw [← hsame] at heach
    exact honce.unique ((heach.assigned_iff j line hline f).mpr hfilled)
      ((heach.assigned_iff k later hlater f).mpr hfilled')
  · intro hnone
    have hboth := heach.oncePerFrame hnone
    -- both say of each line whether its frame is assigned below it
    have hsame : onceAssigned fs (lines source) = (lines source).map (frameOf? fs) := by
      apply eq_of_forall_assigned_iff (honce.length_eq.trans heach.length_eq.symm)
      intro k f
      constructor
      · intro h
        obtain ⟨line, hline⟩ := exists_line_of_assigned honce.length_eq h
        exact (hboth.assigned_iff k line hline f).mpr ((honce.assigned_iff k line hline f).mp h)
      · intro h
        obtain ⟨line, hline⟩ := exists_line_of_assigned heach.length_eq h
        exact (honce.assigned_iff k line hline f).mpr ((hboth.assigned_iff k line hline f).mp h)
    rw [hsame]

/-- A drawing that fills a path, outlines it, and fills it again. -/
def refilledPath : Text := " dot.fill()\n dot.stroke()\n dot.fill()".toList

/-- The frame of the path is assigned below both lines that fill it, where once is meant. -/
theorem frame_assigned_twice :
    frameOf? [⟨⟨"Dot".toList⟩⟩] " dot.fill()".toList = some ⟨⟨"Dot".toList⟩⟩ ∧
    Edit.source (frames [⟨⟨"Dot".toList⟩⟩] refilledPath) =
      (" dot.fill()\n        dotFrame = convertRectToViewSpace(dot.bounds, context: context)\n" ++
        " dot.stroke()\n dot.fill()\n" ++
        "        dotFrame = convertRectToViewSpace(dot.bounds, context: context)").toList ∧
    joinLines (withAssignments (lines refilledPath)
        (onceAssigned [⟨⟨"Dot".toList⟩⟩] (lines refilledPath))) =
      (" dot.fill()\n        dotFrame = convertRectToViewSpace(dot.bounds, context: context)\n" ++
        " dot.stroke()\n dot.fill()").toList := by
  decide +kernel

end LayerView.Pass
