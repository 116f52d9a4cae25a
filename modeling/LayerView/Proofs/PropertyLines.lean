import LayerView.Proofs.ColorProperties
import LayerView.Proofs.FirstPlaces
import LayerView.Proofs.LineStarts

/-!
# Property declarations of a pair

A color that became a property has to be declared in one of the two files: in the header if the
property is visible, in the class extension of the implementation if it is hidden.  The three
changes that this takes look for their places on their own, and one that finds none is left out in
silence:

- the header needs a line that ends after `: ` and the base type; with a protocol list behind the
  base type there is none, and the visible properties are declared nowhere;
- the implementation has to open after it was recolored; a color that spans several lines can take
  the opening with it.

Colors on one line never do that, so hidden properties of such colors are always declared.

Main statements:
- `lines_ended`: lines that are all ended, in front of a text
- `infix_insertBefore_initializer`: what has no hyphen survives the insertion of the methods
- `isSome_breakAt?_recolored`: with colors on one line each an implementation stays open
- `convertPair_writes_properties`: the lines of the properties in both files
-/

namespace LayerView.Text

/-- Lines with a line feed at the end of each. -/
def ended (ls : List Text) : Text := ls.flatMap (· ++ ['\n'])

theorem ended_append (ls ks : List Text) : ended (ls ++ ks) = ended ls ++ ended ks :=
  List.flatMap_append

/-- A line that comes back as it is when a text is cut. -/
structure IsLine (l : Text) : Prop where
  feed_notMem : '\n' ∉ l
  unended : l.getLast? ≠ some '\r'

/-- Lines that are ended come back as they are, whatever follows them. -/
theorem lines_ended {ls : List Text} (h : ∀ l ∈ ls, IsLine l) (t : Text) :
    lines (ended ls ++ t) = ls ++ lines t := by
  induction ls with
  | nil => rfl
  | cons l ls ih =>
    have hl : IsLine l := h l List.mem_cons_self
    have hcut : ended (l :: ls) ++ t = l ++ '\n' :: (ended ls ++ t) := by simp [ended]
    -- a line has no carriage return at its end that could be cut off
    have hfirst : dropFinal '\r' l = l := by simp [dropFinal, hl.unended]
    rw [hcut, lines_append_feed, lines_concat_line hl.feed_notMem, hfirst,
      ih fun k hk => h k (List.mem_cons_of_mem l hk), List.cons_append, List.nil_append,
      List.cons_append]

theorem lines_feed_cons (t : Text) : lines ('\n' :: t) = [] :: lines t := by
  apply lines_append_feed []

/-- Ended lines that a line feed comes before are consecutive lines of the text around them. -/
theorem exists_lines_of_infix {ls : List Text} {t : Text} (hls : ∀ l ∈ ls, IsLine l)
    (h : '\n' :: ended ls <:+: t) : ∃ top bottom, lines t = top ++ ls ++ bottom := by
  obtain ⟨u, v, rfl⟩ := h
  refine ⟨lines (u ++ ['\n']), lines v, ?_⟩
  have hcut : u ++ '\n' :: ended ls ++ v = u ++ '\n' :: (ended ls ++ v) := by simp
  rw [hcut, lines_append_feed, lines_ended hls, List.append_assoc]

end LayerView.Text

namespace LayerView.Pair

open LayerView.Text

/-! ## Blocks of properties -/

/-- The line that declares the property of a color. -/
def propertyLine (d : Declaration) : Text :=
  "@property (nonatomic) UIColor *".toList ++ d.name ++ ";".toList

/-- The lines that declare the properties of a visibility. -/
def propertyLines (ds : List Declaration) (v : Visibility) : List Text :=
  (ds.filter (·.visibility = v)).map propertyLine

/-- The lines of a class extension. -/
def extensionLines (ds : List Declaration) (className : Text) : List Text :=
  ["@interface ".toList ++ className ++ "()".toList] ++ propertyLines ds .hidden ++
    ["".toList, "@end".toList]

theorem properties_eq (ds : List Declaration) (v : Visibility) :
    properties ds v = ended (propertyLines ds v) := by
  have hend : ";\n".toList = ";".toList ++ ['\n'] := by decide
  unfold properties propertyLines ended propertyLine
  rw [List.flatMap_map]
  simp only [hend, List.append_assoc]

theorem classExtension_eq (ds : List Declaration) (className : Text) :
    classExtension ds className = ended (extensionLines ds className) := by
  have hbottom : ended ["".toList, "@end".toList] = "\n@end\n".toList := by decide
  have htop : ended ["@interface ".toList ++ className ++ "()".toList] =
      "@interface ".toList ++ className ++ "()\n".toList := by
    have hend : "()\n".toList = "()".toList ++ ['\n'] := by decide
    rw [hend]
    simp [ended]
  unfold classExtension extensionLines
  rw [ended_append, ended_append, htop, hbottom, properties_eq]

/-- A character that no name and no fixed part of a class extension has. -/
structure IsForeign (c : Char) : Prop where
  low : c.toNat ≤ 0x40
  ne_zero : c ≠ '\x00'
  not_alphanumeric : isAlphanumeric c = false
  not_word : isWordChar c = false
  notMem_fixed : c ∉ "@interface ()@property (nonatomic) UIColor *;@end".toList

theorem isForeign_feed : IsForeign '\n' := by constructor <;> decide

theorem isForeign_return : IsForeign '\r' := by constructor <;> decide

private theorem isForeign_hyphen : IsForeign '-' := by constructor <;> decide

/-- Names are in camel case, so they have no foreign character. -/
theorem IsForeign.notMem_name {c : Char} (hc : IsForeign c) {code : Text} {m : PaintMatch}
    (hm : m ∈ colorMatches code) : c ∉ m.name := by
  rw [colorMatches_eq_filterMap] at hm
  obtain ⟨⟨offset, s⟩, -, hs⟩ := List.mem_filterMap.mp hm
  -- the name is made of the label of the match
  obtain ⟨p, hmatch⟩ := isMatch_of_statementMatch? hs
  rw [hmatch.name_eq]
  exact Naming.notMem_camelCase hc.low hc.ne_zero hc.not_alphanumeric _

theorem IsForeign.notMem_declared_name {c : Char} (hc : IsForeign c) {code : Text}
    {d : Declaration} (hd : d ∈ declarationsOf (colorMatches code)) : c ∉ d.name := by
  obtain ⟨m, hm, rfl, -⟩ := (firstByName_colorMatches code).first d hd
  exact hc.notMem_name hm

private theorem IsForeign.notMem_classNameOf {c : Char} (hc : IsForeign c) (opening : Text) :
    c ∉ classNameOf opening := by
  intro hm
  have hword := List.mem_takeWhile_imp hm
  simp [hc.not_word] at hword

/-- The fixed parts one by one. -/
theorem IsForeign.notMem_parts {c : Char} (hc : IsForeign c) :
    c ∉ "@interface ".toList ∧ c ∉ "()".toList ∧ c ∉ "@property (nonatomic) UIColor *".toList ∧
      c ∉ ";".toList ∧ c ∉ "@end".toList := by
  have hparts : "@interface ()@property (nonatomic) UIColor *;@end".toList =
      "@interface ".toList ++ ("()".toList ++ ("@property (nonatomic) UIColor *".toList ++
        (";".toList ++ "@end".toList))) := by decide
  have hfixed := hc.notMem_fixed
  rw [hparts] at hfixed
  simp only [List.mem_append, not_or] at hfixed
  exact hfixed

theorem IsForeign.notMem_of_mem_propertyLines {c : Char} (hc : IsForeign c) {code : Text}
    {v : Visibility} {l : Text} (hl : l ∈ propertyLines (declarationsOf (colorMatches code)) v) :
    c ∉ l := by
  obtain ⟨d, hd, rfl⟩ := List.mem_map.mp hl
  obtain ⟨-, -, hproperty, hsemicolon, -⟩ := hc.notMem_parts
  unfold propertyLine
  simp only [List.mem_append, not_or]
  exact ⟨⟨hproperty, hc.notMem_declared_name (List.mem_of_mem_filter hd)⟩, hsemicolon⟩

theorem IsForeign.notMem_of_mem_extensionLines {c : Char} (hc : IsForeign c)
    {code opening l : Text}
    (hl : l ∈ extensionLines (declarationsOf (colorMatches code)) (classNameOf opening)) :
    c ∉ l := by
  obtain ⟨hinterface, hbrackets, -, -, hend⟩ := hc.notMem_parts
  unfold extensionLines at hl
  simp only [List.mem_append, List.mem_cons, List.not_mem_nil, or_false] at hl
  rcases hl with (rfl | hl) | rfl | rfl
  · -- the line that opens the extension has the class name
    simp only [List.mem_append, not_or]
    exact ⟨⟨hinterface, hc.notMem_classNameOf opening⟩, hbrackets⟩
  · exact hc.notMem_of_mem_propertyLines hl
  · exact List.not_mem_nil
  · exact hend

theorem isLine_of_notMem {l : Text} (hfeed : '\n' ∉ l) (hreturn : '\r' ∉ l) : IsLine l where
  feed_notMem := hfeed
  unended h := hreturn (List.mem_of_getLast? h)

theorem isLine_of_mem_propertyLines {code : Text} {v : Visibility} {l : Text}
    (hl : l ∈ propertyLines (declarationsOf (colorMatches code)) v) : IsLine l :=
  isLine_of_notMem (isForeign_feed.notMem_of_mem_propertyLines hl)
    (isForeign_return.notMem_of_mem_propertyLines hl)

theorem isLine_of_mem_extensionLines {code opening l : Text}
    (hl : l ∈ extensionLines (declarationsOf (colorMatches code)) (classNameOf opening)) :
    IsLine l :=
  isLine_of_notMem (isForeign_feed.notMem_of_mem_extensionLines hl)
    (isForeign_return.notMem_of_mem_extensionLines hl)

/-- No line of a class extension has a hyphen, so no initialiser starts in one. -/
private theorem hyphen_notMem_extension (code opening : Text) :
    '-' ∉ '\n' :: ended (extensionLines (declarationsOf (colorMatches code))
      (classNameOf opening)) := by
  have hended : '-' ∉ ended (extensionLines (declarationsOf (colorMatches code))
      (classNameOf opening)) := by
    intro hm
    obtain ⟨l, hl, hml⟩ := List.mem_flatMap.mp hm
    have hline := isForeign_hyphen.notMem_of_mem_extensionLines hl
    simp [hline] at hml
  simp [hended]

/-! ## The header -/

/-- A header whose class extends the base type, before the properties are put in. -/
def plainHeader (o : Options) (header : Text) : Text :=
  instanceMethods (replaceAll "NSObject".toList o.baseType header)

/-- What extends the base type ends its line with it. -/
theorem eq_append_of_extensionOf {baseType t before hit after : Text}
    (h : breakAt? (extensionOf baseType) t = some (before, hit, after)) :
    ∃ ending, IsLineEnd ending ∧ hit = ": ".toList ++ baseType ++ ending := by
  have hnil : extensionOf baseType [] = none := rfl
  obtain ⟨n, hn, hhit⟩ := exists_fit_of_breakAt? h hnil
  simp only [extensionOf, skip?, Option.bind_eq_bind, Option.bind_eq_some_iff,
    Option.ite_none_right_eq_some, Option.some.injEq] at hn
  obtain ⟨u, ⟨hpre, hu⟩, k, hend, hk⟩ := hn
  obtain ⟨ending, rest, hending, hrest, rfl⟩ := lineEnd?_eq_some_iff.mp hend
  refine ⟨ending, hending, ?_⟩
  -- the pattern is the word and the end of the line behind it
  have hword := List.prefix_iff_eq_append.mp (List.isPrefixOf_iff_prefix.mp hpre)
  have hlen : n = (": ".toList ++ baseType ++ ending).length :=
    (Option.some.inj hk).symm.trans List.length_append.symm
  rw [hhit, ← hword, hu, hrest, ← List.append_assoc, hlen, List.take_left]

theorem IsLineEnd.eq_concat {ending : Text} (h : IsLineEnd ending) :
    ∃ t, '\n' ∉ t ∧ ending = t ++ ['\n'] := by
  rcases h with rfl | rfl
  · exact ⟨[], List.not_mem_nil, rfl⟩
  · exact ⟨['\r'], by decide, rfl⟩

/-- The properties are lines of the header, below the one on which the class extends the base type.
-/
theorem lines_convertHeader {o : Options} {ds : List Declaration} {header before hit after : Text}
    (hds : ∀ l ∈ propertyLines ds .visible, IsLine l)
    (h : breakAt? (extensionOf o.baseType) (plainHeader o header) = some (before, hit, after)) :
    lines (convertHeader o ds header) =
      lines (before ++ hit) ++ [[], []] ++ propertyLines ds .visible ++ [] :: lines after := by
  obtain ⟨ending, hending, rfl⟩ := eq_append_of_extensionOf h
  obtain ⟨e, -, rfl⟩ := hending.eq_concat
  have htext : convertHeader o ds header = before ++ ": ".toList ++ o.baseType ++ e ++
      '\n' :: '\n' :: '\n' :: (ended (propertyLines ds .visible) ++ '\n' :: after) := by
    have hinsert : convertHeader o ds header =
        insertAfter (extensionOf o.baseType) (properties ds .visible) (plainHeader o header) := rfl
    rw [hinsert, insertAfter, h, properties_eq]
    simp
  have hfront : before ++ (": ".toList ++ o.baseType ++ (e ++ ['\n'])) =
      before ++ ": ".toList ++ o.baseType ++ e ++ ['\n'] := by simp
  -- two empty lines above the properties and one below, from the line feeds around the block
  rw [htext, lines_append_feed, lines_feed_cons, lines_feed_cons, lines_ended hds, lines_feed_cons,
    hfront]
  simp

/-! ## The implementation -/

theorem eq_of_breakAt?_initializerOpening {code before hit after : Text}
    (h : breakAt? initializerOpening code = some (before, hit, after)) :
    hit = "- (instancetype)initWithFrame".toList :=
  ((describes_skip? "- (instancetype)initWithFrame".toList).isFirst_of_breakAt? h).holds

/-- Methods go before a hyphen, so what has none is not torn apart. -/
theorem infix_insertBefore_initializer {y code : Text} (hy : '-' ∉ y) (hne : y ≠ []) (block : Text)
    (h : y <:+: code) : y <:+: insertBefore initializerOpening block code := by
  unfold insertBefore
  split
  case h_1 before hit after hbreak =>
    have hcode : code = before ++ hit ++ after := eq_append_of_breakAt? hbreak
    obtain ⟨word, hword⟩ : ∃ word, hit = '-' :: word :=
      ⟨_, eq_of_breakAt?_initializerOpening hbreak⟩
    rw [hcode, hword, List.append_assoc, List.cons_append, infix_append_cons_iff hy hne] at h
    rcases h with h | h
    · -- it lies before the methods
      apply h.trans
      simp only [List.append_assoc]
      exact (List.prefix_append before _).isInfix
    · -- it lies behind the hyphen
      apply h.trans
      rw [hword]
      exact ⟨before ++ "\n".toList ++ block ++ "\n\n".toList ++ ['-'], [], by simp⟩
  case h_2 => exact h

private theorem infix_withDrawing {y code : Text} (hy : '-' ∉ y) (hne : y ≠ [])
    (call? : Option DrawCall) (h : y <:+: code) : y <:+: withDrawing call? code := by
  cases call? with
  | none => exact h
  | some call =>
    apply infix_insertBefore_initializer hy hne
    exact infix_insertBefore_initializer hy hne _ h

/-- An implementation that opens is given its class extension, behind a line feed. -/
theorem extension_infix (o : Options) (className : Text) (ds : List Declaration) {code : Text}
    (h : (breakAt? implementationOpening code).isSome) :
    '\n' :: classExtension ds className <:+: withInitializer o className ds code := by
  obtain ⟨⟨before, hit, after⟩, hbreak⟩ := Option.isSome_iff_exists.mp h
  obtain ⟨n, hn, hhit⟩ := exists_fit_of_breakAt? hbreak rfl
  let rest := "\n\n".toList ++ initializer ds o.background ++ "\n".toList ++ after
  have hinit : insertAfter implementationOpening (initializer ds o.background) code =
      before ++ (hit ++ rest) := by
    simp only [insertAfter, hbreak, rest, List.append_assoc]
  have hopening : (implementationOpening (hit ++ rest)).isSome := by
    have hlocal := implementationOpening_append hn rest
    rwa [← hhit] at hlocal
  -- the class extension goes before the first opening, which may be further up
  obtain ⟨before', -, hit', after', hbreak', -, -⟩ := exists_breakAt?_append hopening before
  rw [withInitializer, hinit, insertBefore, hbreak']
  exact ⟨before', "\n\n".toList ++ hit' ++ after', by simp⟩

theorem withInitializer_of_not_open (o : Options) (className : Text) (ds : List Declaration)
    {code : Text} (h : breakAt? implementationOpening code = none) :
    withInitializer o className ds code = code := by
  have hafter : insertAfter implementationOpening (initializer ds o.background) code = code := by
    rw [insertAfter, h]
  rw [withInitializer, hafter, insertBefore, h]

/-! ## Openings of a recolored implementation -/

/-- The line that opens an implementation, with its end. -/
def IsOpening (opening : Text) : Prop :=
  ∃ name ending, name ≠ [] ∧ (∀ c ∈ name, isWordChar c = true) ∧ IsLineEnd ending ∧
    opening = implementationKeyword ++ name ++ ending

theorem IsOpening.notMem {opening : Text} (h : IsOpening opening) {c : Char}
    (hkeyword : c ∉ implementationKeyword) (hword : isWordChar c = false)
    (hending : c ∉ "\r\n".toList) : c ∉ opening := by
  obtain ⟨name, ending, -, hname, hend, rfl⟩ := h
  simp only [List.mem_append, not_or]
  refine ⟨⟨hkeyword, fun hm => ?_⟩, fun hm => hending ?_⟩
  · simp [hname c hm] at hword
  · rcases hend with rfl | rfl
    · exact List.mem_cons_of_mem _ hm
    · exact hm

/-- An opening has one line feed, which ends it. -/
theorem IsOpening.eq_concat {opening : Text} (h : IsOpening opening) :
    ∃ line, '\n' ∉ line ∧ opening = line ++ ['\n'] := by
  obtain ⟨name, ending, -, hname, hend, rfl⟩ := h
  obtain ⟨e, he, rfl⟩ := hend.eq_concat
  have hname : '\n' ∉ name := by
    intro hm
    have hword := hname _ hm
    rw [isWordChar_feed] at hword
    exact Bool.false_ne_true hword
  refine ⟨implementationKeyword ++ name ++ e, ?_, (List.append_assoc _ _ _).symm⟩
  simp only [List.mem_append, not_or]
  exact ⟨⟨by decide, hname⟩, he⟩

theorem IsOpening.feed_mem {opening : Text} (h : IsOpening opening) : '\n' ∈ opening := by
  obtain ⟨line, -, rfl⟩ := h.eq_concat
  exact List.mem_concat_self

/-- The pattern for openings fits at every opening, and only there. -/
theorem describes_implementationOpening : Describes IsOpening implementationOpening := by
  intro t n
  rw [implementationOpening_eq_some_iff]
  constructor
  · rintro ⟨name, ending, rest, hne, hname, hend, rfl, rfl⟩
    exact ⟨_, rest, ⟨name, ending, hne, hname, hend, rfl⟩, rfl, rfl⟩
  · rintro ⟨_, rest, ⟨name, ending, hne, hname, hend, rfl⟩, rfl, rfl⟩
    exact ⟨name, ending, rest, hne, hname, hend, rfl, rfl⟩

/-- A code opens if there is an opening somewhere in it. -/
theorem isSome_breakAt?_iff {code : Text} :
    (breakAt? implementationOpening code).isSome ↔
      ∃ opening, IsOpening opening ∧ opening <:+: code := by
  rw [← not_iff_not, Option.not_isSome_iff_eq_none,
    describes_implementationOpening.breakAt?_eq_none_iff]
  simp only [not_exists, not_and]

/-- What has no plus sign is left alone when class methods become instance methods. -/
private theorem prefix_instanceMethodsFrom {w t : Text} (hw : '+' ∉ w) (start : Bool)
    (h : w <+: t) : w <+: instanceMethodsFrom start t := by
  induction w generalizing start t with
  | nil => exact List.nil_prefix
  | cons c w ih =>
    obtain ⟨rest, rfl⟩ := h
    have hc : c ≠ '+' := fun e => hw (by simp [e])
    have hkept : (if start && "+ (".toList.isPrefixOf (c :: (w ++ rest)) then '-' else c) = c := by
      simp [Ne.symm hc]
    rw [List.cons_append, instanceMethodsFrom, hkept]
    apply List.cons_prefix_cons.mpr
    exact ⟨rfl, ih (fun hm => hw (List.mem_cons_of_mem c hm)) _ (List.prefix_append w rest)⟩

private theorem infix_instanceMethodsFrom {w t : Text} (hw : '+' ∉ w) (start : Bool)
    (h : w <:+: t) : w <:+: instanceMethodsFrom start t := by
  induction t generalizing start with
  | nil => exact h
  | cons c t ih =>
    -- at the front, or further on, where another line may have started
    rcases List.infix_cons_iff.mp h with h | h
    · exact (prefix_instanceMethodsFrom hw start h).isInfix
    · exact List.infix_cons (ih _ h)

/-- The text of a color: brackets around something that has no closing bracket. -/
private theorem exists_inner_of_mem_colorMatches {code : Text} {m : PaintMatch}
    (hm : m ∈ colorMatches code) :
    ∃ inner, (∀ c ∈ inner, c ≠ ';' ∧ c ≠ ']') ∧
      m.color = "[UIColor ".toList ++ inner ++ "]".toList := by
  have hpaint : ∃ p offset s, paintMatch? p code offset s = some m := by
    rcases List.mem_append.mp (mem_colorMatches.mp hm) with h | h
    · obtain ⟨⟨offset, s⟩, -, hs⟩ := List.mem_filterMap.mp h
      exact ⟨.fill, offset, s, hs⟩
    · obtain ⟨⟨offset, s⟩, -, hs⟩ := List.mem_filterMap.mp h
      exact ⟨.stroke, offset, s, hs⟩
  obtain ⟨p, offset, s, hs⟩ := hpaint
  simp only [paintMatch?, Option.bind_eq_bind, Option.bind_eq_some_iff] at hs
  obtain ⟨_, -, ⟨before, color, after⟩, hcolor, label, -, hmatch⟩ := hs
  obtain rfl := Option.some.inj hmatch
  obtain ⟨n, hn, hfit⟩ := exists_fit_of_breakAt? hcolor rfl
  obtain ⟨inner, hinner, htake⟩ := exists_inner_of_colorExpression hn
  exact ⟨inner, hinner, hfit.trans htake⟩

/-- An opening has no brackets, and a color on one line has no opening inside; so none is lost. -/
private theorem infix_weave_reference {opening gap : Text} {pairs : List (PaintMatch × Text)}
    (hopening : IsOpening opening)
    (hcolors : ∀ m ∈ pairs.map Prod.fst, ∃ inner, '\n' ∉ inner ∧ m.color = '[' :: inner ++ [']'])
    (h : opening <:+: weave PaintMatch.color gap pairs) :
    opening <:+: weave PaintMatch.reference gap pairs := by
  have hopen : '[' ∉ opening := hopening.notMem (by decide) (by decide) (by decide)
  have hclose : ']' ∉ opening := hopening.notMem (by decide) (by decide) (by decide)
  have hne : opening ≠ [] := List.ne_nil_of_mem hopening.feed_mem
  induction pairs generalizing gap with
  | nil => exact h
  | cons pair pairs ih =>
    obtain ⟨m, next⟩ := pair
    obtain ⟨inner, hinner, hcolor⟩ := hcolors m List.mem_cons_self
    have hcut : weave PaintMatch.color gap ((m, next) :: pairs) =
        gap ++ '[' :: (inner ++ ']' :: weave PaintMatch.color next pairs) := by
      simp [weave, hcolor]
    -- in the gap, between the brackets of the color, or behind them
    rw [hcut, infix_append_cons_iff hopen hne, infix_append_cons_iff hclose hne] at h
    simp only [weave]
    rcases h with h | h | h
    · rw [List.append_assoc]
      exact h.trans (List.prefix_append gap _).isInfix
    · -- an opening has a line feed, and the color has none
      exact absurd (h.subset hopening.feed_mem) hinner
    · have hrest := ih (fun m' hm' => hcolors m' (List.mem_cons_of_mem m hm')) h
      exact hrest.trans (List.suffix_append (gap ++ m.reference) _).isInfix

/-- An implementation stays open if each of its colors is on one line. -/
theorem isSome_breakAt?_recolored {implementation : Text}
    (hopens : (breakAt? implementationOpening implementation).isSome)
    (hcolors : ∀ m ∈ colorMatches (instanceMethods implementation), '\n' ∉ m.color) :
    (breakAt? implementationOpening (recolored implementation)).isSome := by
  obtain ⟨opening, hopening, hinfix⟩ := isSome_breakAt?_iff.mp hopens
  have hplus : '+' ∉ opening := hopening.notMem (by decide) (by decide) (by decide)
  have hmethods : opening <:+: instanceMethods implementation :=
    infix_instanceMethodsFrom hplus true hinfix
  obtain ⟨gap, pairs, hpairs, hcode, hrecolored⟩ := exists_weave (instanceMethods implementation)
  rw [isSome_breakAt?_iff]
  refine ⟨opening, hopening, ?_⟩
  -- the word for a color is part of what is between the brackets
  have hbrackets : ∀ m ∈ pairs.map Prod.fst,
      ∃ inner, '\n' ∉ inner ∧ m.color = '[' :: inner ++ [']'] := by
    intro m hm
    rw [hpairs] at hm
    obtain ⟨inner, -, hcolor⟩ := exists_inner_of_mem_colorMatches hm
    refine ⟨"UIColor ".toList ++ inner, fun hfeed => hcolors m hm ?_, hcolor⟩
    rw [hcolor]
    exact List.mem_append_left _ (List.mem_cons_of_mem '[' hfeed)
  rw [hcode] at hmethods
  show opening <:+: replaceColors (colorMatches (instanceMethods implementation)) _
  rw [hrecolored]
  exact infix_weave_reference hopening hbrackets hmethods

/-! ## A converted pair -/

/-- Where the properties of a converted pair are declared. -/
structure PropertiesWritten (o : Options) (p : SourcePair) (r : PairConversion) : Prop where
  /-- Every property that is read has one declaration. -/
  declared : ∀ m ∈ colorMatches (instanceMethods p.implementation),
    ∃ d, r.declarations.filter (·.name = m.name) = [d]
  /-- Visible ones are lines of the header, below the first that ends with the base type. -/
  visible : ∀ before hit after,
    breakAt? (extensionOf o.baseType) (plainHeader o p.header) = some (before, hit, after) →
    lines r.pair.header = lines (before ++ hit) ++ [[], []] ++
      propertyLines r.declarations .visible ++ [] :: lines after
  /-- Without such a line the header is as if there were none. -/
  visible_lost : breakAt? (extensionOf o.baseType) (plainHeader o p.header) = none →
    r.pair.header = plainHeader o p.header
  /-- Hidden ones are lines of the class extension, if the recolored implementation opens. -/
  hidden : (breakAt? implementationOpening (recolored p.implementation)).isSome →
    ∃ before opening after top bottom,
      breakAt? implementationOpening p.implementation = some (before, opening, after) ∧
      lines r.pair.implementation =
        top ++ extensionLines r.declarations (classNameOf opening) ++ bottom
  /-- Otherwise it is given no class extension and no initialiser. -/
  hidden_lost : breakAt? implementationOpening (recolored p.implementation) = none →
    r.pair.implementation =
      withDrawing (drawCall? (recolored p.implementation)) (recolored p.implementation)
  /-- It opens if each color is on one line. -/
  opens : (∀ m ∈ colorMatches (instanceMethods p.implementation), '\n' ∉ m.color) →
    (breakAt? implementationOpening (recolored p.implementation)).isSome

/-- A pair with a result has an opening, whose class name is used. -/
theorem exists_opening_of_convertPair {o : Options} {p : SourcePair} {r : PairConversion}
    (h : (convertPair o p).value = some r) :
    ∃ before opening after, breakAt? implementationOpening p.implementation =
      some (before, opening, after) ∧ r = (run o (classNameOf opening) p).value := by
  unfold convertPair at h
  split at h
  · simp at h
  · split at h
    case h_1 before opening after hbreak =>
      exact ⟨before, opening, after, hbreak, (Option.some.inj h).symm⟩
    case h_2 => simp at h

/-- The properties of a converted pair are declared, each on a line of its own, in the header or in
the class extension, wherever there is a place for them; and colors on one line each leave the
place in the implementation as it is. -/
theorem convertPair_writes_properties (o : Options) (p : SourcePair) (r : PairConversion)
    (h : (convertPair o p).value = some r) : PropertiesWritten o p r := by
  obtain ⟨before, opening, after, hbreak, rfl⟩ := exists_opening_of_convertPair h
  have hopens : (breakAt? implementationOpening p.implementation).isSome := by
    rw [hbreak, Option.isSome_some]
  refine ⟨fun m hm => exists_declaration_of_mem hm, ?_, ?_, ?_, ?_, ?_⟩
  · intro before hit after hplace
    exact lines_convertHeader (fun l hl => isLine_of_mem_propertyLines hl) hplace
  · intro hnone
    show insertAfter (extensionOf o.baseType) _ (plainHeader o p.header) = plainHeader o p.header
    rw [insertAfter, hnone]
  · intro hplace
    -- the methods are put in last, and leave the extension whole
    have hinfix : '\n' :: ended (extensionLines (declarations p.implementation)
        (classNameOf opening)) <:+: (run o (classNameOf opening) p).value.pair.implementation := by
      apply infix_withDrawing (hyphen_notMem_extension _ _) (List.cons_ne_nil _ _)
      rw [← classExtension_eq]
      exact extension_infix o _ _ hplace
    obtain ⟨top, bottom, hlines⟩ :=
      exists_lines_of_infix (fun l hl => isLine_of_mem_extensionLines hl) hinfix
    exact ⟨before, opening, after, top, bottom, hbreak, hlines⟩
  · intro hnone
    show withDrawing (drawCall? (withInitializer o _ _ _)) (withInitializer o _ _ _) = _
    rw [withInitializer_of_not_open o _ _ hnone]
  · intro hcolors
    exact isSome_breakAt?_recolored hopens hcolors

/-! ## Two pairs -/

/-- The conversion of a pair with the color matches taken statement by statement; unlike a sorted
list of them these can be computed. -/
def convertByStatements (o : Options) (p : SourcePair) : Option PairConversion :=
  match o.dialect, breakAt? implementationOpening p.implementation with
  | .objc, some (_, opening, _) =>
    let methods := instanceMethods p.implementation
    let ms := (statements methods).filterMap (statementMatch? methods)
    let ds := declarationsOf ms
    let code := withInitializer o (classNameOf opening) ds (replaceColors ms methods)
    some
      { pair :=
          { header := convertHeader o ds p.header
            implementation := withDrawing (drawCall? code) code }
        declarations := ds }
  | _, _ => none

/-- Both ways to take the matches give one result. -/
theorem value_convertPair (o : Options) (p : SourcePair) :
    (convertPair o p).value = convertByStatements o p := by
  unfold convertPair convertByStatements
  cases o.dialect with
  | swift => rfl
  | objc =>
    -- sorted by place the matches are those of the statements in order
    simp only [run, recolored, declarations, colorMatches_eq_filterMap]
    cases breakAt? implementationOpening p.implementation <;> rfl

/-- A pair with a visible fill and a hidden one. -/
def labelledPair : SourcePair where
  header := "@interface Dots : NSObject\n@end\n".toList
  implementation :=
    "@implementation Dots\n//! Dot\n[[UIColor redColor] setFill];\n".toList ++
    "//! _Peg\n[[UIColor blueColor] setFill];\n@end\n".toList

/-- The one is declared in the header of the view, the other in the class extension. -/
theorem convertPair_writes_properties_labelled :
    ∃ r, (convertPair { dialect := .objc } labelledPair).value = some r ∧
      (r.declarations.map fun d => (d.name, d.visibility)) =
        [("dotFillColor".toList, .visible), ("pegFillColor".toList, .hidden)] ∧
      PropertiesWritten { dialect := .objc } labelledPair r := by
  have hrun : ∃ r, convertByStatements { dialect := .objc } labelledPair = some r ∧
      (r.declarations.map fun d => (d.name, d.visibility)) =
        [("dotFillColor".toList, .visible), ("pegFillColor".toList, .hidden)] := by
    decide +kernel
  obtain ⟨r, hr, hdeclarations⟩ := hrun
  rw [← value_convertPair] at hr
  exact ⟨r, hr, hdeclarations, convertPair_writes_properties _ _ r hr⟩

/-- The same pair with a class that conforms to a protocol. -/
def conformingPair : SourcePair :=
  { labelledPair with header := "@interface Dots : NSObject <NSCopying>\n@end\n".toList }

/-- Its implementation reads a visible property, and its header declares none. -/
theorem visible_property_of_conforming_class_lost :
    ∃ r, (convertPair { dialect := .objc } conformingPair).value = some r ∧
      (∃ d ∈ r.declarations, d.visibility = .visible ∧
        "[self.".toList ++ d.name ++ " setFill];".toList ∈ lines r.pair.implementation ∧
        propertyLine d ∉ lines r.pair.header) ∧
      lines r.pair.header = ["@interface Dots : UIView <NSCopying>".toList, "@end".toList] := by
  rw [value_convertPair]
  decide +kernel

end LayerView.Pair
