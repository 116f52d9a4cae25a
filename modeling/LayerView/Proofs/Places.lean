import LayerView.Pair.Conversion
import LayerView.Proofs.Recoloring
import Mathlib.Data.List.TakeWhile

/-!
# Places in an implementation

Blocks are put next to the first place at which a pattern fits.  What follows a later fit is not
touched by that, so blocks that were put in before stay whole.  From this it follows that the
initialiser of a view stands in the converted implementation, whenever the recolored one still opens.

Main statements:
- `suffix_insertBefore`: what starts with a fit survives the insertion of a block
- `sublist_withDrawing`: nothing is taken from the code
- `implementationOpening_eq_some_iff`: how an implementation opens
- `initializer_infix`: the initialiser in the converted implementation
-/

namespace LayerView.Pair

open LayerView.Text

/-! ## The first fit -/

/-- A text that has a fit inside is cut there or before. -/
theorem exists_breakAt?_append {fit : Pattern} {y : Text} (hy : (fit y).isSome) (x : Text) :
    ∃ before mid hit after, breakAt? fit (x ++ y) = some (before, hit, after) ∧
      x = before ++ mid ∧ mid ++ y = hit ++ after := by
  obtain ⟨n, hn⟩ := Option.isSome_iff_exists.mp hy
  induction x with
  | nil =>
    -- the pattern fits at the start of `y`, also if that is the end of the text
    cases y with
    | nil => exact ⟨[], [], [], [], by simp [breakAt?, hn], rfl, rfl⟩
    | cons c t =>
      exact ⟨[], [], (c :: t).take n, (c :: t).drop n, by simp [breakAt?, hn], rfl, by simp⟩
  | cons c x ih =>
    cases hfit : fit (c :: (x ++ y)) with
    | some k =>
      -- an earlier fit, so the cut is right here
      refine ⟨[], c :: x, (c :: (x ++ y)).take k, (c :: (x ++ y)).drop k, ?_, rfl, ?_⟩
      · simp [breakAt?, hfit]
      · rw [List.take_append_drop, List.cons_append]
    | none =>
      -- no fit here, so the first one is further on
      obtain ⟨before, mid, hit, after, hbreak, hx, hrest⟩ := ih
      refine ⟨c :: before, mid, hit, after, ?_, by rw [hx, List.cons_append], hrest⟩
      simp [breakAt?, hfit, hbreak]

/-- What starts with a fit is left whole by a block that goes before the first fit. -/
theorem suffix_insertBefore {fit : Pattern} {y : Text} (hy : (fit y).isSome) (block x : Text) :
    y <:+ insertBefore fit block (x ++ y) := by
  obtain ⟨before, mid, hit, after, hbreak, -, hrest⟩ := exists_breakAt?_append hy x
  simp only [insertBefore, hbreak]
  refine ⟨before ++ "\n".toList ++ block ++ "\n\n".toList ++ mid, ?_⟩
  rw [List.append_assoc, hrest, ← List.append_assoc]

theorem suffix_insertBefore_of_suffix {fit : Pattern} {y code : Text} (hy : (fit y).isSome)
    (block : Text) (h : y <:+ code) : y <:+ insertBefore fit block code := by
  obtain ⟨x, rfl⟩ := h
  exact suffix_insertBefore hy block x

theorem sublist_insertBefore (fit : Pattern) (block code : Text) :
    List.Sublist code (insertBefore fit block code) := by
  unfold insertBefore
  split
  case h_1 before hit after hbreak =>
    have hcode : code = before ++ hit ++ after := eq_append_of_breakAt? hbreak
    rw [hcode]
    apply List.Sublist.append_right
    apply List.Sublist.append_right
    simp only [List.append_assoc]
    exact List.sublist_append_left before _
  case h_2 => exact List.Sublist.refl code

private theorem sublist_insertAfter (fit : Pattern) (block code : Text) :
    List.Sublist code (insertAfter fit block code) := by
  unfold insertAfter
  split
  case h_1 before hit after hbreak =>
    have hcode : code = before ++ hit ++ after := eq_append_of_breakAt? hbreak
    rw [hcode]
    apply List.Sublist.append_right
    simp only [List.append_assoc (before ++ hit)]
    exact List.sublist_append_left (before ++ hit) _
  case h_2 => exact List.Sublist.refl code

/-- The blocks of a conversion are put into the code, and nothing is taken from it. -/
theorem sublist_withDrawing (o : Options) (className : Text) (ds : List Declaration) (code : Text)
    (call? : Option DrawCall) :
    List.Sublist code (withDrawing call? (withInitializer o className ds code)) := by
  have hinitializer : List.Sublist code (withInitializer o className ds code) :=
    (sublist_insertAfter _ _ code).trans (sublist_insertBefore _ _ _)
  cases call? with
  | none => exact hinitializer
  | some call =>
    exact hinitializer.trans ((sublist_insertBefore _ _ _).trans (sublist_insertBefore _ _ _))

/-! ## Openings -/

theorem isWordChar_feed : isWordChar '\n' = false := by decide

private theorem isWordChar_return : isWordChar '\r' = false := by decide

/-- The end of a line, with or without a carriage return. -/
def IsLineEnd (ending : Text) : Prop := ending = "\n".toList ∨ ending = "\r\n".toList

/-- A line ends with a line feed or with a carriage return and a line feed. -/
theorem lineEnd?_eq_some_iff {t : Text} {n : Nat} :
    lineEnd? t = some n ↔ ∃ ending rest, IsLineEnd ending ∧ t = ending ++ rest ∧
      n = ending.length := by
  constructor
  · intro h
    unfold lineEnd? at h
    split at h
    case h_1 rest => exact ⟨"\n".toList, rest, Or.inl rfl, rfl, (Option.some.inj h).symm⟩
    case h_2 rest => exact ⟨"\r\n".toList, rest, Or.inr rfl, rfl, (Option.some.inj h).symm⟩
    case h_3 => simp at h
  · rintro ⟨ending, rest, rfl | rfl, rfl, rfl⟩
    · rfl
    · rfl

private theorem IsLineEnd.takeWhile_append {name ending : Text} (h : IsLineEnd ending)
    (hname : ∀ c ∈ name, isWordChar c = true) (rest : Text) :
    (name ++ (ending ++ rest)).takeWhile isWordChar = name := by
  rw [List.takeWhile_append_of_pos hname]
  rcases h with rfl | rfl
  · simp [isWordChar_feed]
  · simp [isWordChar_return]

/-- An implementation opens with its keyword, a class name and the end of the line. -/
theorem implementationOpening_eq_some_iff {t : Text} {n : Nat} :
    implementationOpening t = some n ↔
      ∃ name ending rest, name ≠ [] ∧ (∀ c ∈ name, isWordChar c = true) ∧ IsLineEnd ending ∧
        t = implementationKeyword ++ name ++ ending ++ rest ∧
        n = (implementationKeyword ++ name ++ ending).length := by
  constructor
  · intro h
    simp only [implementationOpening, skip?, run?, Option.bind_eq_bind, Option.bind_eq_some_iff,
      Option.ite_none_right_eq_some, Option.ite_none_left_eq_some, Option.some.injEq] at h
    obtain ⟨u, ⟨hpre, hu⟩, ⟨name, v⟩, ⟨hne, hrun⟩, k, hend, hn⟩ := h
    obtain ⟨hname, hv⟩ := Prod.mk.inj hrun
    obtain ⟨ending, rest, hending, hrest, rfl⟩ := lineEnd?_eq_some_iff.mp hend
    refine ⟨name, ending, rest, ?_, ?_, hending, ?_, ?_⟩
    · rintro rfl
      simp [hname] at hne
    · intro c hc
      rw [← hname] at hc
      exact List.mem_takeWhile_imp hc
    · -- the keyword, the run of word characters, and what follows the run
      have ht : implementationKeyword ++ u = t := by
        rw [← hu]
        exact List.prefix_iff_eq_append.mp (List.isPrefixOf_iff_prefix.mp hpre)
      rw [List.append_assoc, ← hrest, List.append_assoc, ← hname, ← hv,
        List.takeWhile_append_dropWhile, ht]
    · rw [← Option.some.inj hn, List.length_append, List.length_append]
  · rintro ⟨name, ending, rest, hne, hname, hending, rfl, rfl⟩
    have hassoc : implementationKeyword ++ name ++ ending ++ rest =
        implementationKeyword ++ (name ++ (ending ++ rest)) := by simp only [List.append_assoc]
    have htake := hending.takeWhile_append hname rest
    -- the run ends where the line does
    have hdrop : (name ++ (ending ++ rest)).dropWhile isWordChar = ending ++ rest := by
      have h := List.takeWhile_append_dropWhile (p := isWordChar) (l := name ++ (ending ++ rest))
      rw [htake] at h
      exact List.append_cancel_left h
    have hrun : run? isWordChar (name ++ (ending ++ rest)) = some (name, ending ++ rest) := by
      simp [run?, htake, hdrop, hne]
    have hend : lineEnd? (ending ++ rest) = some ending.length :=
      lineEnd?_eq_some_iff.mpr ⟨ending, rest, hending, rfl, rfl⟩
    rw [hassoc, implementationOpening, skip?_append]
    simp only [hrun, hend, Option.pure_def, Option.bind_eq_bind, Option.bind_some,
      List.length_append]

/-- An opening stays one whatever follows it. -/
theorem implementationOpening_append {t : Text} {n : Nat} (h : implementationOpening t = some n)
    (x : Text) : (implementationOpening (t.take n ++ x)).isSome := by
  obtain ⟨name, ending, rest, hne, hname, hending, rfl, rfl⟩ :=
    implementationOpening_eq_some_iff.mp h
  have hopening : implementationOpening (implementationKeyword ++ name ++ ending ++ x) =
      some (implementationKeyword ++ name ++ ending).length :=
    implementationOpening_eq_some_iff.mpr ⟨name, ending, x, hne, hname, hending, rfl, rfl⟩
  rw [List.take_left, hopening, Option.isSome_some]

private theorem isSome_initializerOpening (x : Text) :
    (initializerOpening ("- (instancetype)initWithFrame".toList ++ x)).isSome := by
  simp only [initializerOpening, skip?_append, Option.map_some, Option.isSome_some]

/-- The initialiser that is put in starts like any other. -/
theorem initializer_eq_append (ds : List Declaration) (background : Text) :
    ∃ rest, initializer ds background = "- (instancetype)initWithFrame".toList ++ rest := by
  have hline : "- (instancetype)initWithFrame:(CGRect)frame \x7b\n".toList =
      "- (instancetype)initWithFrame".toList ++ ":(CGRect)frame \x7b\n".toList := by decide
  unfold initializer
  rw [hline]
  simp only [List.append_assoc]
  exact ⟨_, rfl⟩

/-! ## The initialiser -/

/-- The initialiser goes after the opening, and all other blocks go before one of the two. -/
theorem initializer_infix (o : Options) (className : Text) (ds : List Declaration) (code : Text)
    (call? : Option DrawCall) (h : (breakAt? implementationOpening code).isSome) :
    initializer ds o.background <:+: withDrawing call? (withInitializer o className ds code) := by
  obtain ⟨⟨before, hit, after⟩, hbreak⟩ := Option.isSome_iff_exists.mp h
  obtain ⟨n, hn, hhit⟩ := exists_fit_of_breakAt? hbreak rfl
  let rest := initializer ds o.background ++ "\n".toList ++ after
  -- the class extension goes before the opening, which the initialiser follows
  have hinit : insertAfter implementationOpening (initializer ds o.background) code =
      before ++ (hit ++ ("\n\n".toList ++ rest)) := by
    simp only [insertAfter, hbreak, rest, List.append_assoc]
  have hopening : (implementationOpening (hit ++ ("\n\n".toList ++ rest))).isSome := by
    have hlocal := implementationOpening_append hn ("\n\n".toList ++ rest)
    rwa [← hhit] at hlocal
  have hsuffix : rest <:+ withInitializer o className ds code := by
    rw [withInitializer, hinit]
    refine List.IsSuffix.trans ?_ (suffix_insertBefore hopening _ before)
    exact ⟨hit ++ "\n\n".toList, by simp only [List.append_assoc]⟩
  -- the methods go before the first initialiser
  have hfits : (initializerOpening rest).isSome := by
    obtain ⟨body, hbody⟩ := initializer_eq_append ds o.background
    simp only [rest, hbody, List.append_assoc]
    exact isSome_initializerOpening _
  -- what starts with an initialiser is left whole by blocks that go before one
  have hall : rest <:+ withDrawing call? (withInitializer o className ds code) := by
    cases call? with
    | none => exact hsuffix
    | some call =>
      exact suffix_insertBefore_of_suffix hfits _ (suffix_insertBefore_of_suffix hfits _ hsuffix)
  have hprefix : initializer ds o.background <+: rest := ⟨"\n".toList ++ after, by
    simp only [rest, List.append_assoc]⟩
  exact hprefix.isInfix.trans hall.isInfix

end LayerView.Pair
