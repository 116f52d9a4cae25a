import LayerView.Pair.Conversion
import LayerView.Proofs.Identifiers
import LayerView.Proofs.Places
import Mathlib.Data.Char
import Mathlib.Data.List.Induction
import Mathlib.Data.List.Lex

/-!
# Color properties of a pair

The colors of an implementation are declared by name.  Several of them may have the same name, because
a layer is painted twice or because two labels give one name; then the color that comes first in the
code counts, be it a fill or a stroke.  The initialiser sets the declared colors in the same order.

Main statements:
- `find?_insertByName`: a declaration counts only if its name is not there yet
- `firstByName_declarationsOf`: the declarations of matches that are in the order of their places
- `setsColors_initializer`: the statements and the lines of the initialiser
- `convertPair_properties`: the properties of a converted pair
-/

namespace LayerView.Pair

open LayerView.Text

/-! ## Declarations by name -/

/-- Declarations in the order of their names, no two of the same name. -/
def ByName (ds : List Declaration) : Prop := ds.Pairwise fun a b => a.name < b.name

private theorem mem_of_mem_insertByName {d e : Declaration} {ds : List Declaration}
    (h : e ∈ insertByName d ds) : e = d ∨ e ∈ ds := by
  induction ds with
  | nil => exact Or.inl (List.mem_singleton.mp h)
  | cons f ds ih =>
    -- `d` goes in front of `f`, is dropped because `f` has its name, or goes further down
    unfold insertByName at h
    split at h
    · exact List.mem_cons.mp h
    · split at h
      · exact Or.inr h
      · rcases List.mem_cons.mp h with rfl | h
        · exact Or.inr List.mem_cons_self
        · exact (ih h).imp_right (List.mem_cons_of_mem f)

/-- Insertion keeps declarations in the order of their names. -/
theorem ByName.insertByName {ds : List Declaration} (h : ByName ds) (d : Declaration) :
    ByName (insertByName d ds) := by
  induction ds with
  | nil => exact List.pairwise_singleton _ d
  | cons e ds ih =>
    obtain ⟨he, hds⟩ := List.pairwise_cons.mp h
    unfold Pair.insertByName
    split
    case isTrue hlt =>
      -- whatever comes after `e` comes after `d` too
      refine List.pairwise_cons.mpr ⟨?_, h⟩
      intro f hf
      rcases List.mem_cons.mp hf with rfl | hf
      · exact hlt
      · exact List.lt_trans hlt (he f hf)
    case isFalse hlt =>
      split
      · exact h
      case isFalse hne =>
        -- `d` goes below `e`, and what is below `e` already comes after it
        have hgt : e.name < d.name := lt_of_le_of_ne (not_lt.mp hlt) (Ne.symm hne)
        refine List.pairwise_cons.mpr ⟨?_, ih hds⟩
        intro f hf
        rcases mem_of_mem_insertByName hf with rfl | hf
        · exact hgt
        · exact he f hf

/-- Looked up by name, a declaration that is inserted might as well have been put at the end. -/
theorem find?_insertByName {ds : List Declaration} (h : ByName ds) (d : Declaration) (n : Text) :
    (insertByName d ds).find? (·.name = n) = (ds ++ [d]).find? (·.name = n) := by
  induction ds with
  | nil => rfl
  | cons e ds ih =>
    obtain ⟨he, hds⟩ := List.pairwise_cons.mp h
    unfold insertByName
    split
    case isTrue hlt =>
      by_cases hn : d.name = n
      · -- all of the names that are there come after that of `d`
        have hnone : (e :: ds).find? (·.name = n) = none := by
          rw [List.find?_eq_none]
          intro f hf
          have hdf : d.name < f.name := by
            rcases List.mem_cons.mp hf with rfl | hf
            · exact hlt
            · exact List.lt_trans hlt (he f hf)
          have hne : ¬ f.name = n := fun e => List.lt_irrefl _ (hn.trans e.symm ▸ hdf)
          simpa using hne
        rw [List.find?_append, hnone]
        simp [hn]
      · rw [List.find?_append]
        simp [hn]
    case isFalse =>
      split
      case isTrue heq =>
        -- the name is taken, so `d` is not looked at wherever it stands
        rw [List.find?_append]
        by_cases hn : d.name = n
        · have hen : e.name = n := heq.symm.trans hn
          simp [hen]
        · simp [hn]
      case isFalse =>
        rw [List.cons_append, List.find?_cons, List.find?_cons, ih hds]

/-- In a list by name there is one declaration of a name at most. -/
theorem ByName.filter_eq {ds : List Declaration} (h : ByName ds) (n : Text) :
    ds.filter (·.name = n) = (ds.find? (·.name = n)).toList := by
  induction ds with
  | nil => rfl
  | cons e ds ih =>
    obtain ⟨he, hds⟩ := List.pairwise_cons.mp h
    by_cases hn : e.name = n
    · have hrest : ds.filter (·.name = n) = [] := by
        rw [List.filter_eq_nil_iff]
        intro f hf
        have hne : ¬ f.name = n := fun e' => List.lt_irrefl _ (hn.trans e'.symm ▸ he f hf)
        simpa using hne
      simp [hn, hrest]
    · simp [hn, ih hds]

/-! ## The first color of a name -/

private theorem declarationsOf_concat (ms : List PaintMatch) (m : PaintMatch) :
    declarationsOf (ms ++ [m]) = insertByName m.declaration (declarationsOf ms) := by
  simp [declarationsOf]

theorem byName_declarationsOf (ms : List PaintMatch) : ByName (declarationsOf ms) := by
  induction ms using List.reverseRecOn with
  | nil => exact List.Pairwise.nil
  | append_singleton ms m ih =>
    rw [declarationsOf_concat]
    exact ih.insertByName m.declaration

/-- The declaration of a name is that of the first match with it. -/
theorem find?_declarationsOf (ms : List PaintMatch) (n : Text) :
    (declarationsOf ms).find? (·.name = n) =
      (ms.find? (·.name = n)).map PaintMatch.declaration := by
  induction ms using List.reverseRecOn with
  | nil => rfl
  | append_singleton ms m ih =>
    rw [declarationsOf_concat, find?_insertByName (byName_declarationsOf ms), List.find?_append,
      List.find?_append, ih]
    -- an earlier match of the name wins; without one the new match is looked at
    cases ms.find? (·.name = n) with
    | some _ => rfl
    | none => by_cases hn : m.name = n <;> simp [PaintMatch.declaration, hn]

/-- The declarations `ds` are by name and have, for each name of the matches `ms`, the match of that
name which comes first in the code. -/
structure FirstByName (ms : List PaintMatch) (ds : List Declaration) : Prop where
  byName : ByName ds
  names : ∀ n, n ∈ ds.map Declaration.name ↔ n ∈ ms.map PaintMatch.name
  first : ∀ d ∈ ds, ∃ m ∈ ms, d = m.declaration ∧
    ∀ m' ∈ ms, m'.name = m.name → m' ≠ m → m.start < m'.start

/-- Of matches in the order of their places, the one that is found first is the first of its name. -/
private theorem start_lt_of_find? {ms : List PaintMatch}
    (hms : ms.Pairwise fun a b => a.start < b.start) {m m' : PaintMatch} {n : Text}
    (h : ms.find? (·.name = n) = some m) (hm' : m' ∈ ms) (hn : m'.name = n) (hne : m' ≠ m) :
    m.start < m'.start := by
  -- none of the matches before the one that is found has the name
  obtain ⟨-, before, after, rfl, hbefore⟩ := List.find?_eq_some_iff_append.mp h
  rcases List.mem_append.mp hm' with hm' | hm'
  · exact absurd hn (by simpa using hbefore m' hm')
  · rcases List.mem_cons.mp hm' with rfl | hm'
    · exact absurd rfl hne
    · have hrest := (List.pairwise_append.mp hms).2.1
      exact (List.pairwise_cons.mp hrest).1 m' hm'

/-- Matches in the order of their places declare the first of each name. -/
theorem firstByName_declarationsOf {ms : List PaintMatch}
    (hms : ms.Pairwise fun a b => a.start < b.start) : FirstByName ms (declarationsOf ms) where
  byName := byName_declarationsOf ms
  names n := by
    have hfind := congrArg Option.isSome (find?_declarationsOf ms n)
    rw [Option.isSome_map, Bool.eq_iff_iff, List.find?_isSome, List.find?_isSome] at hfind
    simpa using hfind
  first d hd := by
    -- `d` is found under its own name, and so is the match that it was made from
    have hfilter := (byName_declarationsOf ms).filter_eq d.name
    have hmem : d ∈ (declarationsOf ms).filter (·.name = d.name) :=
      List.mem_filter.mpr ⟨hd, by simp⟩
    rw [hfilter, find?_declarationsOf, Option.mem_toList, Option.map_eq_some_iff] at hmem
    obtain ⟨m, hm, rfl⟩ := hmem
    refine ⟨m, List.mem_of_find?_eq_some hm, rfl, ?_⟩
    intro m' hm' hn hne
    exact start_lt_of_find? hms hm hm' hn hne

/-! ## Characters of colors and names -/

private theorem exists_eq_takeWhile_append {p : Char → Bool} {t : Text} {c : Char}
    (h : (t.drop (t.takeWhile p).length).head? = some c) :
    ∃ rest, t = t.takeWhile p ++ c :: rest := by
  obtain ⟨rest, hrest⟩ := List.head?_eq_some_iff.mp h
  refine ⟨rest, ?_⟩
  rw [← hrest]
  exact (List.prefix_iff_eq_append.mp (List.takeWhile_prefix p)).symm

/-- A color expression has no semicolon, and no closing bracket but the last one. -/
theorem exists_inner_of_colorExpression {t : Text} {n : Nat} (h : colorExpression t = some n) :
    ∃ inner, (∀ c ∈ inner, c ≠ ';' ∧ c ≠ ']') ∧
      t.take n = "[UIColor ".toList ++ inner ++ "]".toList := by
  unfold colorExpression at h
  split at h
  case isFalse => simp at h
  case isTrue hpre =>
    obtain ⟨u, rfl⟩ := List.isPrefixOf_iff_prefix.mp hpre
    have hdrop : ("[UIColor ".toList ++ u).drop 9 = u := rfl
    simp only [hdrop, Option.ite_none_right_eq_some, Bool.and_eq_true, beq_iff_eq,
      Option.some.injEq] at h
    obtain ⟨⟨-, hhead⟩, rfl⟩ := h
    -- what the run of other characters leaves starts with the closing bracket
    obtain ⟨rest, hu⟩ := exists_eq_takeWhile_append hhead
    refine ⟨u.takeWhile fun c => c != ';' && c != ']', ?_, ?_⟩
    · intro c hc
      simpa using List.mem_takeWhile_imp hc
    · generalize (u.takeWhile fun c => c != ';' && c != ']') = inner at hu ⊢
      have hassoc : "[UIColor ".toList ++ u = "[UIColor ".toList ++ inner ++ "]".toList ++ rest := by
        rw [hu, List.append_assoc, List.append_assoc]
        rfl
      have hlen : 9 + inner.length + 1 = ("[UIColor ".toList ++ inner ++ "]".toList).length := by
        rw [List.length_append, List.length_append]
        rfl
      rw [hassoc, hlen, List.take_left]

private theorem semicolon_notMem_color {call before color after : Text}
    (h : breakAt? colorExpression call = some (before, color, after)) : ';' ∉ color := by
  obtain ⟨n, hn, hcolor⟩ := exists_fit_of_breakAt? h rfl
  obtain ⟨inner, hinner, htake⟩ := exists_inner_of_colorExpression hn
  rw [hcolor, htake]
  intro hm
  simp only [List.mem_append] at hm
  rcases hm with (hm | hm) | hm
  · exact absurd hm (by decide)
  · exact (hinner ';' hm).1 rfl
  · exact absurd hm (by decide)

/-- What is set in the initialiser: a name of letters, numerals and underscores, and a color. -/
structure Settable (d : Declaration) : Prop where
  semicolon_notMem_value : ';' ∉ d.value
  semicolon_notMem_name : ';' ∉ d.name
  feed_notMem_name : '\n' ∉ d.name

/-- The name of a match is in camel case and its color is part of one statement, so both can be set.
-/
private theorem settable_declaration {p : Paint} {code s : Text} {offset : Nat} {m : PaintMatch}
    (h : paintMatch? p code offset s = some m) : Settable m.declaration := by
  have hname : m.declaration.name = Naming.camelCase (propertyLabel m.label p) :=
    (isMatch_of_paintMatch? h).name_eq
  refine ⟨?_, ?_, ?_⟩
  · simp only [paintMatch?, Option.bind_eq_bind, Option.bind_eq_some_iff] at h
    obtain ⟨_, -, ⟨before, color, after⟩, hcolor, label, -, hm⟩ := h
    obtain rfl := Option.some.inj hm
    exact semicolon_notMem_color hcolor
  · rw [hname]
    exact Naming.notMem_camelCase (by decide) (by decide) (by decide) _
  · rw [hname]
    exact Naming.notMem_camelCase (by decide) (by decide) (by decide) _

/-- The color matches of a code are its fills and strokes, in the order of their places. -/
theorem mem_colorMatches {code : Text} {m : PaintMatch} :
    m ∈ colorMatches code ↔ m ∈ paintMatches .fill code ++ paintMatches .stroke code :=
  List.mem_mergeSort

/-- The color matches of a code come in the order of their places. -/
theorem firstByName_colorMatches (code : Text) :
    FirstByName (colorMatches code) (declarationsOf (colorMatches code)) := by
  apply firstByName_declarationsOf
  rw [colorMatches_eq_filterMap]
  exact pairwise_start_statementMatches code

theorem settable_of_mem_paintMatches {p : Paint} {code : Text} {m : PaintMatch}
    (hm : m ∈ paintMatches p code) : Settable m.declaration := by
  obtain ⟨_, -, hs⟩ := List.mem_filterMap.mp hm
  exact settable_declaration hs

theorem settable_of_mem {code : Text} {d : Declaration}
    (hd : d ∈ declarationsOf (colorMatches code)) : Settable d := by
  obtain ⟨m, hm, rfl, -⟩ := (firstByName_colorMatches code).first d hd
  rcases List.mem_append.mp (mem_colorMatches.mp hm) with hfill | hstroke
  · exact settable_of_mem_paintMatches hfill
  · exact settable_of_mem_paintMatches hstroke

/-! ## The initialiser -/

/-- The line of the initialiser that sets the color of a property. -/
def setting (d : Declaration) : Text :=
  "        _".toList ++ d.name ++ " = ".toList ++ d.value ++ ";".toList

/-- The line of the initialiser that sets the background. -/
def backgroundSetting (background : Text) : Text :=
  "        self.backgroundColor = ".toList ++ background ++ ";".toList

/-- The lines of the initialiser above its settings. -/
def initializerTop : List Text :=
  ["- (instancetype)initWithFrame:(CGRect)frame \x7b".toList,
   "    self = [super initWithFrame:frame];".toList,
   "    if (self) \x7b".toList]

/-- The lines of the initialiser below its settings. -/
def initializerBottom : List Text :=
  ["    \x7d".toList, "".toList, "    return self;".toList, "\x7d".toList]

/-- The settings of an initialiser: behind that of the background there is one statement for each
declaration, in order, and then the return; and each setting is on lines of its own. -/
structure SetsColors (ds : List Declaration) (background block : Text) : Prop where
  statements : ∃ rest,
    block = joinLines initializerTop ++ "\n".toList ++ backgroundSetting background ++ rest ∧
    piecesAt ';' rest = ds.map (fun d => '\n' :: setting d) ++
      ["\n    \x7d\n\n    return self;".toList, "\n\x7d".toList]
  lines_eq : lines block = initializerTop ++ lines (backgroundSetting background) ++
    ds.flatMap (fun d => lines (setting d)) ++ initializerBottom
  oneLine : ∀ d ∈ ds, '\n' ∉ d.value → lines (setting d) = [setting d]

private theorem assignments_eq (ds : List Declaration) (background : Text) :
    assignments ds background =
      backgroundSetting background ++ '\n' :: ds.flatMap (fun d => setting d ++ ['\n']) := by
  have hend : ∀ t : Text, t ++ ";\n".toList = t ++ ";".toList ++ ['\n'] := by
    intro t
    have hsemicolon : ";\n".toList = ";".toList ++ ['\n'] := by decide
    rw [hsemicolon, List.append_assoc]
  have hsettings : (ds.flatMap fun d => "        _".toList ++ d.name ++ " = ".toList ++ d.value ++
      ";\n".toList) = ds.flatMap fun d => setting d ++ ['\n'] :=
    List.flatMap_congr fun d _ => hend _
  unfold assignments backgroundSetting
  rw [hend, hsettings, List.append_assoc _ ['\n'], List.singleton_append]

/-- The initialiser is the lines above its settings, the settings and the lines below. -/
theorem initializer_eq (ds : List Declaration) (background : Text) :
    initializer ds background =
      joinLines initializerTop ++ "\n".toList ++ backgroundSetting background ++
        ('\n' :: (ds.flatMap (fun d => setting d ++ ['\n']) ++ joinLines initializerBottom)) := by
  have htop : joinLines initializerTop ++ "\n".toList =
      "- (instancetype)initWithFrame:(CGRect)frame \x7b\n".toList ++
      "    self = [super initWithFrame:frame];\n".toList ++
      "    if (self) \x7b\n".toList := by decide
  have hbottom : joinLines initializerBottom = "    \x7d\n\n    return self;\n\x7d".toList := by
    decide
  -- the lines that never change are compared as literals, and what is left is how to bracket
  unfold initializer
  rw [htop, hbottom, assignments_eq]
  simp only [List.append_assoc, List.cons_append]

private theorem exists_body_setting {d : Declaration} (hd : Settable d) :
    ∃ body, ';' ∉ body ∧ setting d = body ++ [';'] := by
  refine ⟨"        _".toList ++ d.name ++ " = ".toList ++ d.value, ?_, rfl⟩
  simp only [List.mem_append, not_or]
  exact ⟨⟨⟨by decide, hd.semicolon_notMem_name⟩, by decide⟩, hd.semicolon_notMem_value⟩

private theorem piecesAt_settings {ds : List Declaration} (hds : ∀ d ∈ ds, Settable d) :
    piecesAt ';' ('\n' :: (ds.flatMap (fun d => setting d ++ ['\n']) ++
        joinLines initializerBottom)) =
      ds.map (fun d => '\n' :: setting d) ++
        ["\n    \x7d\n\n    return self;".toList, "\n\x7d".toList] := by
  induction ds with
  | nil => decide
  | cons d ds ih =>
    -- the one semicolon of a setting is its last character
    obtain ⟨body, hbody, hset⟩ := exists_body_setting (hds d List.mem_cons_self)
    -- the line feed above belongs to the piece
    have hfeed : ';' ∉ '\n' :: body := by simp [hbody]
    have hcut : '\n' :: ((d :: ds).flatMap (fun d => setting d ++ ['\n']) ++
        joinLines initializerBottom) = '\n' :: body ++ ';' ::
          '\n' :: (ds.flatMap (fun d => setting d ++ ['\n']) ++ joinLines initializerBottom) := by
      simp [hset]
    rw [hcut, piecesAt_append_cons hfeed, ih fun e he => hds e (List.mem_cons_of_mem d he),
      List.map_cons, hset]
    simp

private theorem lines_settings (ds : List Declaration) (t : Text) :
    lines (ds.flatMap (fun d => setting d ++ ['\n']) ++ t) =
      ds.flatMap (fun d => lines (setting d)) ++ lines t := by
  induction ds with
  | nil => rfl
  | cons d ds ih =>
    have hsplit : (d :: ds).flatMap (fun d => setting d ++ ['\n']) ++ t =
        setting d ++ '\n' :: (ds.flatMap (fun d => setting d ++ ['\n']) ++ t) := by simp
    -- the line feed behind a setting ends its last line and starts none
    have hline : lines (setting d ++ ['\n']) = lines (setting d) :=
      lines_concat_feed _ (by decide) (by decide)
    rw [hsplit, lines_append_feed, hline, ih, List.flatMap_cons, List.append_assoc]

/-- An initialiser of settable declarations sets all of them. -/
theorem setsColors_initializer {ds : List Declaration} (hds : ∀ d ∈ ds, Settable d)
    (background : Text) : SetsColors ds background (initializer ds background) where
  statements := ⟨_, initializer_eq ds background, piecesAt_settings hds⟩
  lines_eq := by
    have htop : lines (joinLines initializerTop ++ ['\n']) = initializerTop := by decide
    have hbottom : lines (joinLines initializerBottom) = initializerBottom := by decide
    have hbackground : lines (backgroundSetting background ++ ['\n']) =
        lines (backgroundSetting background) := lines_concat_feed _ (by decide) (by decide)
    have hsplit : initializer ds background = joinLines initializerTop ++ '\n' ::
        (backgroundSetting background ++ '\n' ::
          (ds.flatMap (fun d => setting d ++ ['\n']) ++ joinLines initializerBottom)) := by
      rw [initializer_eq]
      simp only [List.append_assoc]
      rfl
    -- cut at the line feed above the background and at the one below it
    rw [hsplit, lines_append_feed, lines_append_feed (backgroundSetting background),
      lines_settings, htop, hbottom, hbackground]
    simp only [List.append_assoc]
  oneLine d hd hvalue := by
    apply lines_of_feed_notMem
    · unfold setting
      simp only [List.mem_append, not_or]
      exact ⟨⟨⟨⟨by decide, (hds d hd).feed_notMem_name⟩, by decide⟩, hvalue⟩, by decide⟩
    · obtain ⟨body, -, hset⟩ := exists_body_setting (hds d hd)
      simp [hset]

/-! ## A converted pair -/

/-- The color properties of a pair: what is declared, read and set. -/
structure Properties (o : Options) (p : SourcePair) (r : PairConversion) : Prop where
  /-- Of all fills and strokes, the first of each name is declared. -/
  declared : FirstByName
    (paintMatches .fill (instanceMethods p.implementation) ++
      paintMatches .stroke (instanceMethods p.implementation)) r.declarations
  /-- Every fill and stroke is replaced by a property that is declared once. -/
  read : ∃ gap pairs,
    (∀ m, m ∈ pairs.map Prod.fst ↔
      m ∈ paintMatches .fill (instanceMethods p.implementation) ++
        paintMatches .stroke (instanceMethods p.implementation)) ∧
    instanceMethods p.implementation = weave PaintMatch.color gap pairs ∧
    List.Sublist (weave PaintMatch.reference gap pairs) r.pair.implementation ∧
    ∀ m ∈ pairs.map Prod.fst, m.reference = "self.".toList ++ m.name ∧
      ∃ d, r.declarations.filter (·.name = m.name) = [d]
  /-- The initialiser sets all of them, in their order. -/
  set : SetsColors r.declarations o.background (initializer r.declarations o.background)
  /-- A recolored implementation that opens is given the initialiser. -/
  placed : (breakAt? implementationOpening (recolored p.implementation)).isSome →
    initializer r.declarations o.background <:+: r.pair.implementation

/-- What a code is woven from: its matches, the colors before and the references after. -/
theorem exists_weave (code : Text) : ∃ gap pairs, pairs.map Prod.fst = colorMatches code ∧
    code = weave PaintMatch.color gap pairs ∧
    replaceColors (colorMatches code) code = weave PaintMatch.reference gap pairs := by
  obtain ⟨gap, pairs, hpairs, hflat, hloc⟩ := exists_gaps code 0 (piecesAt ';' code)
  have hcode : code = weave PaintMatch.color gap pairs := by rw [← hflat, flatten_piecesAt]
  have hmatches : pairs.map Prod.fst = colorMatches code := by
    rw [hpairs, colorMatches_eq_filterMap]
    rfl
  refine ⟨gap, pairs, hmatches, hcode, ?_⟩
  have hreplace := replaceColors_weave [] gap pairs hloc
  rwa [List.nil_append, List.nil_append, ← hcode, hmatches] at hreplace

theorem exists_declaration_of_mem {ms : List PaintMatch} {m : PaintMatch} (hm : m ∈ ms) :
    ∃ d, (declarationsOf ms).filter (·.name = m.name) = [d] := by
  have hsome : (ms.find? (·.name = m.name)).isSome := by
    rw [List.find?_isSome]
    exact ⟨m, hm, by simp⟩
  -- it may be declared for an earlier match than `m`
  obtain ⟨first, hfirst⟩ := Option.isSome_iff_exists.mp hsome
  refine ⟨first.declaration, ?_⟩
  rw [(byName_declarationsOf ms).filter_eq, find?_declarationsOf, hfirst]
  rfl

theorem exists_run_of_convertPair {o : Options} {p : SourcePair} {r : PairConversion}
    (h : (convertPair o p).value = some r) : ∃ className, r = (run o className p).value := by
  unfold convertPair at h
  split at h
  · simp at h
  · split at h
    · exact ⟨_, (Option.some.inj h).symm⟩
    · simp at h

/-- The declarations of a converted pair are by name, one for each name of a fill or a stroke, each
from the first of them in the code; every fill and stroke reads one of them, and the initialiser sets
each of them once. -/
theorem convertPair_properties (o : Options) (p : SourcePair) (r : PairConversion)
    (h : (convertPair o p).value = some r) : Properties o p r := by
  obtain ⟨className, rfl⟩ := exists_run_of_convertPair h
  refine ⟨?_, ?_, ?_, ?_⟩
  · -- the matches in order have the same members as fills and strokes together
    have hfirst := firstByName_colorMatches (instanceMethods p.implementation)
    refine ⟨hfirst.byName, fun n => ?_, fun d hd => ?_⟩
    · rw [run, declarations, hfirst.names]
      simp only [List.mem_map, mem_colorMatches]
    · obtain ⟨m, hm, hdm, hlater⟩ := hfirst.first d hd
      exact ⟨m, mem_colorMatches.mp hm, hdm, fun m' hm' => hlater m' (mem_colorMatches.mpr hm')⟩
  · obtain ⟨gap, pairs, hpairs, hcode, hrecolored⟩ :=
      exists_weave (instanceMethods p.implementation)
    refine ⟨gap, pairs, fun m => ?_, hcode, ?_, fun m hm => ⟨rfl, ?_⟩⟩
    · rw [hpairs, mem_colorMatches]
    · -- the recolored code is only added to
      rw [← hrecolored]
      exact sublist_withDrawing o className _ _ _
    · exact exists_declaration_of_mem (hpairs ▸ hm)
  · exact setsColors_initializer (fun d hd => settable_of_mem hd) o.background
  · intro hopens
    exact initializer_infix o className _ _ _ hopens

/-- A pair that strokes a layer, and fills two layers whose labels give one name. -/
def dotPair : SourcePair where
  header := "@interface Dots : NSObject\n@end\n".toList
  implementation :=
    "@implementation Dots\n//! Dot\n[[UIColor redColor] setStroke];\n".toList ++
    "[[UIColor blueColor] setFill];\n//! _dot\n[[UIColor greenColor] setFill];\n@end\n".toList

/-- That pair declares a fill and a stroke, by name; the fill is the first one of its name. -/
theorem convertPair_properties_dot :
    ∃ r, (convertPair { dialect := .objc } dotPair).value = some r ∧
      (r.declarations.map fun d => (d.name, d.value, d.visibility)) =
        [("dotFillColor".toList, "[UIColor blueColor]".toList, .visible),
          ("dotStrokeColor".toList, "[UIColor redColor]".toList, .visible)] ∧
      Properties { dialect := .objc } dotPair r := by
  obtain ⟨r, hr⟩ := Option.isSome_iff_exists.mp
    (by decide +kernel : (convertPair { dialect := .objc } dotPair).value.isSome = true)
  refine ⟨r, hr, ?_, convertPair_properties _ _ r hr⟩
  have hdeclarations : r.declarations = declarations dotPair.implementation := by
    obtain ⟨className, rfl⟩ := exists_run_of_convertPair hr
    rfl
  -- the sort of the matches does not reduce, the list of them by statements does
  rw [hdeclarations, declarations, colorMatches_eq_filterMap]
  decide +kernel

end LayerView.Pair
