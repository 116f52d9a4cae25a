import LayerView.Proofs.PropertyLines

/-!
# No class methods in a view

The class methods of a pair become instance methods before anything else is done to its two files.
After that a color is replaced, which may have spanned several lines, its text is copied into the
initialiser, and blocks are put in at up to five places.  None of this brings back a line that
starts as a class method does, unless the chosen background does so itself.

The invariant is `¬ StartsLine classMethod`.  A replacement keeps it because what is put in has
characters that a class method does not start with, and an insertion keeps it because every block
stands between line feeds.

Main statements:
- `lines_instanceMethods`: class methods become instance methods line by line
- `not_startsLine_recolored`: recoloring keeps the invariant
- `not_startsLine_insertAfter`, `not_startsLine_insertBefore`: and so do the two insertions
- `convertPair_no_class_methods`: no line of a converted pair starts a class method
-/

namespace LayerView.Pair

open LayerView.Text

/-- How the line of a class method starts. -/
def classMethod : Text := "+ (".toList

theorem feed_notMem_classMethod : '\n' ∉ classMethod := by decide

theorem classMethod_ne_nil : classMethod ≠ [] := List.cons_ne_nil _ _

/-- Only a text that starts with a plus sign starts as a class method does. -/
theorem not_prefix_cons {c : Char} (hc : c ≠ '+') (t : Text) : ¬ classMethod <+: c :: t := by
  intro h
  exact hc (List.cons_prefix_cons.mp h).1.symm

/-! ## Methods, line by line -/

/-- A line with an instance method in place of a class method. -/
def instanceMethod (l : Text) : Text := if classMethod.isPrefixOf l then '-' :: l.tail else l

theorem instanceMethod_eq_cons {l : Text} (h : classMethod <+: l) :
    instanceMethod l = '-' :: l.tail := by
  unfold instanceMethod
  rw [if_pos (List.isPrefixOf_iff_prefix.mpr h)]

theorem instanceMethod_eq_self {l : Text} (h : ¬ classMethod <+: l) :
    instanceMethod l = l := by
  unfold instanceMethod
  rw [if_neg fun hp => h (List.isPrefixOf_iff_prefix.mp hp)]

theorem not_prefix_instanceMethod (l : Text) : ¬ classMethod <+: instanceMethod l := by
  by_cases h : classMethod <+: l
  · rw [instanceMethod_eq_cons h]
    exact not_prefix_cons (by decide) _
  · rwa [instanceMethod_eq_self h]

theorem feed_notMem_instanceMethod {l : Text} (hl : '\n' ∉ l) : '\n' ∉ instanceMethod l := by
  by_cases h : classMethod <+: l
  · rw [instanceMethod_eq_cons h, List.mem_cons, not_or]
    -- only the plus sign is exchanged
    exact ⟨by decide, fun hm => hl (List.mem_of_mem_tail hm)⟩
  · rwa [instanceMethod_eq_self h]

private theorem dropFinal_cons_cons (x c d : Char) (t : Text) :
    dropFinal x (c :: d :: t) = c :: dropFinal x (d :: t) := by
  unfold dropFinal
  rw [List.getLast?_cons_cons, List.dropLast_cons_cons]
  split <;> rfl

/-- It does not matter whether the end of a line is taken off before or after. -/
private theorem dropFinal_instanceMethod (l : Text) :
    dropFinal '\r' (instanceMethod l) = instanceMethod (dropFinal '\r' l) := by
  have hiff : classMethod <+: dropFinal '\r' l ↔ classMethod <+: l :=
    prefix_iff_of_trims (by decide) (trims_dropFinal l)
  by_cases h : classMethod <+: l
  · rw [instanceMethod_eq_cons h, instanceMethod_eq_cons (hiff.mpr h)]
    -- the plus sign is not the last character, so it is not what is taken off
    obtain ⟨u, rfl⟩ := h
    show dropFinal '\r' ('-' :: ' ' :: '(' :: u) =
      '-' :: (dropFinal '\r' ('+' :: ' ' :: '(' :: u)).tail
    rw [dropFinal_cons_cons _ '-', dropFinal_cons_cons _ '+', List.tail_cons]
  · rw [instanceMethod_eq_self h, instanceMethod_eq_self fun h' => h (hiff.mp h')]

/-- Inside a line nothing is changed. -/
theorem instanceMethodsFrom_false {a : Text} (ha : '\n' ∉ a) :
    instanceMethodsFrom false a = a ∧
      ∀ b, instanceMethodsFrom false (a ++ '\n' :: b) =
        a ++ '\n' :: instanceMethodsFrom true b := by
  induction a with
  | nil => simp [instanceMethodsFrom]
  | cons c a ih =>
    rw [List.mem_cons, not_or] at ha
    obtain ⟨hend, hfeed⟩ := ih ha.2
    -- a class method is looked for only behind a line feed, and `c` is none
    have hc : (c == '\n') = false := by simpa using Ne.symm ha.1
    constructor
    · simp [instanceMethodsFrom, hc, hend]
    · intro b
      simp [instanceMethodsFrom, hc, hfeed b]

private theorem instanceMethods_append_feed {a : Text} (ha : '\n' ∉ a) (b : Text) :
    instanceMethods (a ++ '\n' :: b) = instanceMethod a ++ '\n' :: instanceMethods b := by
  unfold instanceMethods
  cases a with
  | nil => simp [instanceMethodsFrom, instanceMethod, classMethod]
  | cons c a =>
    rw [List.mem_cons, not_or] at ha
    have hc : (c == '\n') = false := by simpa using Ne.symm ha.1
    have hrest := (instanceMethodsFrom_false ha.2).2 b
    -- what follows the line is too far away to make it a class method
    have hiff : "+ (".toList.isPrefixOf (c :: (a ++ '\n' :: b)) =
        classMethod.isPrefixOf (c :: a) := by
      rw [Bool.eq_iff_iff, List.isPrefixOf_iff_prefix, List.isPrefixOf_iff_prefix]
      constructor
      · exact prefix_of_prefix_append_cons (x := c :: a) feed_notMem_classMethod
      · exact fun h => h.trans (List.prefix_append (c :: a) _)
    rw [List.cons_append, instanceMethodsFrom, hiff, hc, hrest, instanceMethod]
    cases classMethod.isPrefixOf (c :: a) <;> simp

private theorem instanceMethods_of_feed_notMem {a : Text} (ha : '\n' ∉ a) :
    instanceMethods a = instanceMethod a := by
  unfold instanceMethods
  cases a with
  | nil => rfl
  | cons c a =>
    rw [List.mem_cons, not_or] at ha
    have hc : (c == '\n') = false := by simpa using Ne.symm ha.1
    rw [instanceMethodsFrom, hc, (instanceMethodsFrom_false ha.2).1, instanceMethod]
    -- the text starts a line, so its first character may change
    show (if (true && classMethod.isPrefixOf (c :: a)) = true then '-' else c) :: a = _
    cases classMethod.isPrefixOf (c :: a) <;> simp

/-- Class methods become instance methods line by line, and nothing else is changed. -/
theorem lines_instanceMethods (code : Text) :
    lines (instanceMethods code) = (lines code).map instanceMethod := by
  induction hn : code.length using Nat.strongRecOn generalizing code with
  | ind n ih =>
    by_cases hcode : '\n' ∈ code
    · -- up to the first line feed, and the rest by induction
      obtain ⟨a, b, rfl, ha⟩ := List.eq_append_cons_of_mem hcode
      have hrest := ih b.length (by simp at hn; omega) b rfl
      rw [instanceMethods_append_feed ha, lines_append_feed, lines_append_feed a,
        lines_concat_line ha, lines_concat_line (feed_notMem_instanceMethod ha),
        dropFinal_instanceMethod, hrest, List.map_append, List.map_singleton]
    · rw [instanceMethods_of_feed_notMem hcode]
      by_cases hnil : code = []
      · subst hnil
        rfl
      · -- one line on both sides, which is empty on neither
        have hne : instanceMethod code ≠ [] := by
          unfold instanceMethod
          split
          · exact List.cons_ne_nil _ _
          · exact hnil
        rw [lines_of_feed_notMem hcode hnil,
          lines_of_feed_notMem (feed_notMem_instanceMethod hcode) hne, List.map_singleton]

/-- What some line starts with, for class methods. -/
theorem startsLine_classMethod_iff {t : Text} :
    StartsLine classMethod t ↔ ∃ l ∈ lines t, classMethod <+: l :=
  startsLine_iff_exists_line feed_notMem_classMethod (by decide) classMethod_ne_nil

/-- No line starts a class method after all have been made instance methods. -/
theorem not_startsLine_instanceMethods (code : Text) :
    ¬ StartsLine classMethod (instanceMethods code) := by
  rw [startsLine_classMethod_iff, lines_instanceMethods]
  rintro ⟨l, hl, hprefix⟩
  obtain ⟨k, -, rfl⟩ := List.mem_map.mp hl
  exact not_prefix_instanceMethod k hprefix

/-! ## Recoloring -/

/-- A property read has no line feed, and starts with a letter that no class method starts with; so
an occurrence lies in a gap. -/
private theorem infix_weave_color {gap : Text} {pairs : List (PaintMatch × Text)}
    (hnames : ∀ m ∈ pairs.map Prod.fst, '\n' ∉ m.name)
    (h : '\n' :: classMethod <:+: weave PaintMatch.reference gap pairs) :
    '\n' :: classMethod <:+: weave PaintMatch.color gap pairs := by
  induction pairs generalizing gap with
  | nil => exact h
  | cons pair pairs ih =>
    obtain ⟨m, next⟩ := pair
    -- the reference starts with an `s`, so no occurrence reaches into it from the gap
    have hread : m.reference = 's' :: ("elf.".toList ++ m.name) := by
      unfold PaintMatch.reference
      simp
    have hcut : weave PaintMatch.reference gap ((m, next) :: pairs) =
        gap ++ 's' :: ("elf.".toList ++ m.name ++ weave PaintMatch.reference next pairs) := by
      simp only [weave, hread, List.cons_append, List.append_assoc]
    have hfront : '\n' ∉ "elf.".toList ++ m.name := by
      rw [List.mem_append, not_or]
      exact ⟨by decide, hnames m List.mem_cons_self⟩
    rw [hcut, infix_append_cons_iff (by decide) (List.cons_ne_nil _ _)] at h
    simp only [weave]
    rcases h with h | h
    · -- in the gap before the match
      rw [List.append_assoc]
      exact h.trans (List.prefix_append gap _).isInfix
    · -- behind the read, so in what follows it
      have hrest := ih (fun m' hm' => hnames m' (List.mem_cons_of_mem m hm'))
        (infix_of_cons_infix_append hfront h)
      exact hrest.trans (List.suffix_append (gap ++ m.color) _).isInfix

/-- Reading properties in place of colors starts no line, so it starts no class method. -/
theorem not_startsLine_recolored (implementation : Text) :
    ¬ StartsLine classMethod (recolored implementation) := by
  obtain ⟨gap, pairs, hpairs, hcode, hrecolored⟩ := exists_weave (instanceMethods implementation)
  intro h
  apply not_startsLine_instanceMethods implementation
  have hnames : ∀ m ∈ pairs.map Prod.fst, '\n' ∉ m.name := by
    intro m hm
    rw [hpairs] at hm
    exact isForeign_feed.notMem_name hm
  -- the line feed that is thought in front of the text belongs to the first gap
  have hfront : ∀ word, '\n' :: weave word gap pairs = weave word ('\n' :: gap) pairs := fun word =>
    (weave_append_gap word ['\n'] gap pairs).symm
  have hreference : '\n' :: classMethod <:+: weave PaintMatch.reference ('\n' :: gap) pairs := by
    rw [← hfront, ← hrecolored]
    exact h
  have hcolor := infix_weave_color hnames hreference
  rw [← hfront, ← hcode] at hcolor
  exact hcolor

/-! ## Insertions -/

/-- A block that goes behind a whole line has lines of its own. -/
theorem not_startsLine_insertAfter {fit : Pattern} {block code : Text}
    (hfit : ∀ before hit after, breakAt? fit code = some (before, hit, after) →
      ∃ line, hit = line ++ ['\n'])
    (hcode : ¬ StartsLine classMethod code) (hblock : ¬ StartsLine classMethod block) :
    ¬ StartsLine classMethod (insertAfter fit block code) := by
  unfold insertAfter
  split
  case h_1 before hit after hbreak =>
    obtain ⟨line, rfl⟩ := hfit before hit after hbreak
    have hcut : code = before ++ line ++ '\n' :: after := by
      rw [eq_append_of_breakAt? hbreak]
      simp
    -- the text behind the place started a line before
    have hafter : ¬ classMethod <+: after := by
      intro h
      apply hcode
      rw [hcut, startsLine_append_feed feed_notMem_classMethod]
      exact Or.inr (startsLine_iff.mpr (Or.inl h))
    -- the line feeds around the block are what starts its lines
    have hfeed : ¬ StartsLine classMethod ([] ++ '\n' :: block) := by
      rw [startsLine_append_feed feed_notMem_classMethod]
      exact not_or.mpr ⟨not_startsLine_nil classMethod_ne_nil, hblock⟩
    have hinsert := not_startsLine_insert (x := before ++ (line ++ ['\n'])) (y := after)
      feed_notMem_classMethod (by rw [← eq_append_of_breakAt? hbreak]; exact hcode) hafter hfeed
    simpa using hinsert
  case h_2 => exact hcode

/-- A block that goes before a place leaves the place at the start of a line; nothing else is new.
-/
theorem not_startsLine_insertBefore {fit : Pattern} {block code : Text}
    (hfit : ∀ before hit after, breakAt? fit code = some (before, hit, after) →
      ∃ c word, hit = c :: word ∧ c ≠ '+')
    (hcode : ¬ StartsLine classMethod code) (hblock : ¬ StartsLine classMethod block) :
    ¬ StartsLine classMethod (insertBefore fit block code) := by
  unfold insertBefore
  split
  case h_1 before hit after hbreak =>
    obtain ⟨c, word, rfl, hc⟩ := hfit before hit after hbreak
    have hcut : code = before ++ (c :: word ++ after) := by
      rw [eq_append_of_breakAt? hbreak, List.append_assoc]
    have hfeed : ¬ StartsLine classMethod (block ++ '\n' :: []) := by
      rw [startsLine_append_feed feed_notMem_classMethod]
      exact not_or.mpr ⟨hblock, not_startsLine_nil classMethod_ne_nil⟩
    have hinsert := not_startsLine_insert (x := before) (y := c :: word ++ after)
      feed_notMem_classMethod (by rw [← hcut]; exact hcode) (not_prefix_cons hc _) hfeed
    simpa using hinsert
  case h_2 => exact hcode

/-! ## Blocks -/

theorem not_startsLine_properties (code : Text) (v : Visibility) :
    ¬ StartsLine classMethod (properties (declarationsOf (colorMatches code)) v) := by
  rw [startsLine_classMethod_iff, properties_eq, ← List.append_nil (ended _),
    lines_ended fun l hl => isLine_of_mem_propertyLines hl]
  rintro ⟨l, hl, hprefix⟩
  simp only [lines, pieces, piecesAt, List.map_nil, List.append_nil] at hl
  -- each line declares a property
  obtain ⟨d, -, rfl⟩ := List.mem_map.mp hl
  exact not_prefix_cons (by decide) _ hprefix

theorem not_startsLine_classExtension (code opening : Text) :
    ¬ StartsLine classMethod
      (classExtension (declarationsOf (colorMatches code)) (classNameOf opening)) := by
  rw [classExtension_eq, startsLine_classMethod_iff, ← List.append_nil (ended _),
    lines_ended fun l hl => isLine_of_mem_extensionLines hl]
  rintro ⟨l, hl, hprefix⟩
  simp only [lines, pieces, piecesAt, List.map_nil, List.append_nil] at hl
  unfold extensionLines at hl
  simp only [List.mem_append, List.mem_cons, List.not_mem_nil, or_false] at hl
  -- the opening, the hidden properties, an empty line and the end
  rcases hl with (rfl | hl) | rfl | rfl
  · exact not_prefix_cons (by decide) _ hprefix
  · obtain ⟨d, -, rfl⟩ := List.mem_map.mp hl
    exact not_prefix_cons (by decide) _ hprefix
  · exact classMethod_ne_nil (List.prefix_nil.mp hprefix)
  · exact not_prefix_cons (by decide) _ hprefix

/-- A statement that is indented and whose start is on one line. -/
theorem not_startsLine_statement {front value : Text} (hfront : '\n' ∉ front)
    (hvalue : ¬ '\n' :: classMethod <:+: value) :
    ¬ StartsLine classMethod (' ' :: front ++ value ++ ";".toList) := by
  rw [startsLine_iff]
  rintro (h | h)
  · -- it is indented
    exact not_prefix_cons (by decide) _ h
  · have hindented : '\n' ∉ ' ' :: front := by simp [hfront]
    rw [List.append_assoc] at h
    have hend := infix_of_cons_infix_append hindented h
    rcases (infix_append_cons_iff (y := []) (by decide) (List.cons_ne_nil _ _)).mp hend with h | h
    · exact hvalue h
    · exact absurd (List.infix_nil.mp h) (List.cons_ne_nil _ _)

/-- A color is copied from the code. -/
private theorem value_infix_code {code : Text} {d : Declaration}
    (hd : d ∈ declarationsOf (colorMatches code)) : d.value <:+: code := by
  obtain ⟨m, hm, rfl, -⟩ := (firstByName_colorMatches code).first d hd
  rw [colorMatches_eq_filterMap] at hm
  obtain ⟨⟨offset, s⟩, hs, hmatch⟩ := List.mem_filterMap.mp hm
  obtain ⟨p, hp⟩ := isMatch_of_statementMatch? hmatch
  obtain ⟨before, after, hcut, -⟩ := hp.cut
  have hpiece : s <:+: (piecesAt ';' code).flatten :=
    List.infix_of_mem_flatten (mem_of_mem_statementsFrom hs)
  rw [flatten_piecesAt] at hpiece
  exact List.IsInfix.trans ⟨before, after, hcut.symm⟩ hpiece

theorem not_startsLine_settings {ds : List Declaration}
    (hds : ∀ d ∈ ds, '\n' ∉ d.name ∧ ¬ '\n' :: classMethod <:+: d.value) {t : Text}
    (ht : ¬ StartsLine classMethod t) :
    ¬ StartsLine classMethod (ds.flatMap (fun d => setting d ++ ['\n']) ++ t) := by
  induction ds with
  | nil => exact ht
  | cons d ds ih =>
    obtain ⟨hname, hvalue⟩ := hds d List.mem_cons_self
    have hsetting : ¬ StartsLine classMethod (setting d) := by
      have hfront : '\n' ∉ "       _".toList ++ d.name ++ " = ".toList := by
        simp only [List.mem_append, not_or]
        exact ⟨⟨by decide, hname⟩, by decide⟩
      exact not_startsLine_statement hfront hvalue
    -- each setting stands on lines of its own
    have hcut : (d :: ds).flatMap (fun d => setting d ++ ['\n']) ++ t =
        setting d ++ '\n' :: (ds.flatMap (fun d => setting d ++ ['\n']) ++ t) := by simp
    rw [hcut, startsLine_append_feed feed_notMem_classMethod]
    rintro (h | h)
    · exact hsetting h
    · exact ih (fun e he => hds e (List.mem_cons_of_mem d he)) h

/-- The initialiser has the background and the colors of the code, and lines that never change. -/
theorem not_startsLine_initializer {implementation background : Text}
    (hbackground : ¬ '\n' :: classMethod <:+: background) :
    ¬ StartsLine classMethod (initializer (declarations implementation) background) := by
  have hfixed : ∀ l ∈ initializerTop ++ initializerBottom, '\n' ∉ l ∧ ¬ classMethod <+: l := by
    simp [initializerTop, initializerBottom, classMethod]
  have hcode := not_startsLine_instanceMethods implementation
  have htop : ¬ StartsLine classMethod (joinLines initializerTop) :=
    not_startsLine_joinLines feed_notMem_classMethod classMethod_ne_nil
      fun l hl => hfixed l (List.mem_append_left _ hl)
  have hbottom : ¬ StartsLine classMethod (joinLines initializerBottom) :=
    not_startsLine_joinLines feed_notMem_classMethod classMethod_ne_nil
      fun l hl => hfixed l (List.mem_append_right _ hl)
  have hset : ¬ StartsLine classMethod (backgroundSetting background) := by
    have hfront : '\n' ∉ "       self.backgroundColor = ".toList := by decide
    exact not_startsLine_statement hfront hbackground
  -- a color is copied from code in which no line starts a class method
  have hdeclared : ∀ d ∈ declarations implementation,
      '\n' ∉ d.name ∧ ¬ '\n' :: classMethod <:+: d.value := by
    intro d hd
    refine ⟨isForeign_feed.notMem_declared_name hd, fun h => hcode ?_⟩
    exact startsLine_iff.mpr (Or.inr (h.trans (value_infix_code hd)))
  have hsettings := not_startsLine_settings hdeclared hbottom
  have hcut : initializer (declarations implementation) background = joinLines initializerTop ++
      '\n' :: (backgroundSetting background ++ '\n' ::
        ((declarations implementation).flatMap (fun d => setting d ++ ['\n']) ++
          joinLines initializerBottom)) := by
    rw [initializer_eq]
    simp only [List.append_assoc]
    rfl
  -- three parts with line feeds between them
  rw [hcut, startsLine_append_feed feed_notMem_classMethod,
    startsLine_append_feed feed_notMem_classMethod]
  rintro (h | h | h)
  · exact htop h
  · exact hset h
  · exact hsettings h

/-! ## The methods of a draw call -/

/-- What a draw call says is on one line. -/
structure DrawCall.OnOneLine (call : DrawCall) : Prop where
  method : '\n' ∉ call.method
  width : '\n' ∉ call.width
  height : '\n' ∉ call.height
  resizing : '\n' ∉ call.resizing

theorem notMem_of_run? {p : Char → Bool} {c : Char} (hc : p c = false) {t x y : Text}
    (h : run? p t = some (x, y)) : c ∉ x := by
  simp only [run?, Option.ite_none_left_eq_some, Option.some.injEq, Prod.mk.injEq] at h
  obtain ⟨-, rfl, -⟩ := h
  intro hm
  have htrue := List.mem_takeWhile_imp hm
  simp [hc] at htrue

private theorem exists_drawCallAt?_of_drawCall? {code : Text} {call : DrawCall}
    (h : drawCall? code = some call) : ∃ t, drawCallAt? t = some call := by
  induction code with
  | nil => simp [drawCall?] at h
  | cons c t ih =>
    simp only [drawCall?] at h
    -- here, or else further on
    split at h
    case h_1 found hfound =>
      rw [← Option.some.inj h]
      exact ⟨_, hfound⟩
    case h_2 => exact ih h

section DrawCall

variable {c : Char} (hword : isWordChar c = false) (hfigure : isFigure c = false) (hcolon : c ≠ ':')
include hword hfigure hcolon

/-- What a draw call says is made of word characters, figures and a colon. -/
theorem notMem_of_drawCall? {code : Text} {call : DrawCall} (h : drawCall? code = some call) :
    c ∉ call.method ∧ c ∉ call.width ∧ c ∉ call.height ∧ c ∉ call.resizing := by
  have hnext : ∀ {t x y : Text}, nextFigure? t = some (x, y) → c ∉ x := by
    intro t x y h
    simp only [nextFigure?, Option.bind_eq_bind, Option.bind_eq_some_iff] at h
    obtain ⟨_, -, _, -, hrun⟩ := h
    exact notMem_of_run? hfigure hrun
  obtain ⟨t, ht⟩ := exists_drawCallAt?_of_drawCall? h
  simp only [drawCallAt?, Option.bind_eq_bind, Option.bind_eq_some_iff,
    Option.ite_none_left_eq_some] at ht
  obtain ⟨_, -, _, -, _, -, ⟨method, _⟩, hmethod, -, _, -, _, -, _, -, ⟨width, _⟩, hwidth,
    ⟨height, _⟩, hheight, _, -, _, -, _, -, ⟨resizing, _⟩, hresizing, _, -, hcall⟩ := ht
  obtain rfl := Option.some.inj hcall
  refine ⟨?_, hnext hwidth, hnext hheight, notMem_of_run? hword hresizing⟩
  show c ∉ method ++ [':']
  rw [List.mem_append, not_or, List.mem_singleton]
  exact ⟨notMem_of_run? hword hmethod, hcolon⟩

end DrawCall

/-- The parts of a draw call have no line feed, since neither words nor figures have. -/
private theorem onOneLine_of_drawCall? {code : Text} {call : DrawCall}
    (h : drawCall? code = some call) : call.OnOneLine := by
  obtain ⟨hmethod, hwidth, hheight, hresizing⟩ :=
    notMem_of_drawCall? isWordChar_feed (by decide) (by decide) h
  exact ⟨hmethod, hwidth, hheight, hresizing⟩

private theorem joinLines_singleton (l : Text) : joinLines [l] = l := by simp [joinLines]

theorem drawRect_eq (call : DrawCall) :
    drawRect call = joinLines
      ["- (void)drawRect:(CGRect)rect \x7b".toList, "    [super drawRect:rect];".toList,
       "    [self ".toList ++ call.method ++ "rect resizing:".toList ++ call.resizing ++
         "];".toList,
       "\x7d".toList] := by
  have htop : "- (void)drawRect:(CGRect)rect \x7b\n    [super drawRect:rect];\n    [self ".toList =
      "- (void)drawRect:(CGRect)rect \x7b".toList ++ '\n' :: ("    [super drawRect:rect];".toList ++
        '\n' :: "    [self ".toList) := by simp
  have hbottom : "];\n\x7d".toList = "];".toList ++ '\n' :: "\x7d".toList := by simp
  unfold drawRect
  rw [htop, hbottom]
  simp only [joinLines_cons_cons, joinLines_singleton, List.append_assoc, List.cons_append]

theorem sizeThatFits_eq (call : DrawCall) :
    sizeThatFits call = joinLines
      (["- (CGSize)sizeThatFits:(CGSize)size \x7b".toList,
        "    CGSize nativeSize = CGSizeMake(".toList ++ call.width ++ ", ".toList ++ call.height ++
          ");".toList] ++
       ["    CGFloat aspect = size.width / nativeSize.width;".toList,
        "    CGFloat height = nativeSize.height * aspect;".toList, "".toList,
        "    return CGSizeMake(size.width, height);".toList, "\x7d".toList]) := by
  have htop :
      "- (CGSize)sizeThatFits:(CGSize)size \x7b\n    CGSize nativeSize = CGSizeMake(".toList =
      "- (CGSize)sizeThatFits:(CGSize)size \x7b".toList ++
        '\n' :: "    CGSize nativeSize = CGSizeMake(".toList := by simp
  have hmiddle : ");\n".toList = ");".toList ++ ['\n'] := by simp
  have haspect : "    CGFloat aspect = size.width / nativeSize.width;\n".toList =
      "    CGFloat aspect = size.width / nativeSize.width;".toList ++ ['\n'] := by simp
  have hheight : "    CGFloat height = nativeSize.height * aspect;\n\n".toList =
      "    CGFloat height = nativeSize.height * aspect;".toList ++
        '\n' :: ("".toList ++ ['\n']) := by simp
  have hbottom : "    return CGSizeMake(size.width, height);\n\x7d".toList =
      "    return CGSizeMake(size.width, height);".toList ++ '\n' :: "\x7d".toList := by simp
  unfold sizeThatFits
  rw [htop, hmiddle, haspect, hheight, hbottom]
  simp only [joinLines_cons_cons, joinLines_singleton, List.append_assoc, List.cons_append,
    List.nil_append]

theorem not_startsLine_drawRect {call : DrawCall} (h : call.OnOneLine) :
    ¬ StartsLine classMethod (drawRect call) := by
  rw [drawRect_eq]
  apply not_startsLine_joinLines feed_notMem_classMethod classMethod_ne_nil
  -- the call of the draw method is the one line with parts from the code
  simp only [List.forall_mem_cons]
  refine ⟨⟨by decide, by decide⟩, ⟨by decide, by decide⟩, ⟨?_, not_prefix_cons (by decide) _⟩,
    by decide⟩
  simp only [List.mem_append, not_or]
  exact ⟨⟨⟨⟨by decide, h.method⟩, by decide⟩, h.resizing⟩, by decide⟩

theorem not_startsLine_sizeThatFits {call : DrawCall} (h : call.OnOneLine) :
    ¬ StartsLine classMethod (sizeThatFits call) := by
  rw [sizeThatFits_eq]
  apply not_startsLine_joinLines feed_notMem_classMethod classMethod_ne_nil
  -- the first two lines, of which one has the size, and those that never change
  rw [List.forall_mem_append, List.forall_mem_cons, List.forall_mem_singleton]
  refine ⟨⟨⟨by decide, by decide⟩, ?_, not_prefix_cons (by decide) _⟩, by decide⟩
  simp only [List.mem_append, not_or]
  exact ⟨⟨⟨⟨by decide, h.width⟩, by decide⟩, h.height⟩, by decide⟩

/-! ## A converted pair -/

/-- The opening keeps its line between the class extension and the initialiser. -/
theorem not_startsLine_withInitializer {o : Options} {implementation opening code : Text}
    (hbackground : ¬ '\n' :: classMethod <:+: o.background)
    (hcode : ¬ StartsLine classMethod code) :
    ¬ StartsLine classMethod (withInitializer o (classNameOf opening)
      (declarations implementation) code) := by
  unfold withInitializer
  apply not_startsLine_insertBefore
  · -- an opening starts with an at sign
    intro before hit after h
    obtain ⟨name, ending, -, -, -, rfl⟩ :=
      (describes_implementationOpening.isFirst_of_breakAt? h).holds
    exact ⟨'@', "implementation ".toList ++ name ++ ending, rfl, by decide⟩
  · apply not_startsLine_insertAfter _ hcode (not_startsLine_initializer hbackground)
    intro before hit after h
    obtain ⟨line, -, hline⟩ := (describes_implementationOpening.isFirst_of_breakAt? h).holds.eq_concat
    exact ⟨line, hline⟩
  · exact not_startsLine_classExtension _ _

/-- The two methods come before an initialiser, which is an instance method. -/
theorem not_startsLine_withDrawing {code : Text} (hcode : ¬ StartsLine classMethod code) :
    ¬ StartsLine classMethod (withDrawing (drawCall? code) code) := by
  cases hcall : drawCall? code with
  | none => exact hcode
  | some call =>
    have honeLine := onOneLine_of_drawCall? hcall
    have hfit : ∀ code before hit after,
        breakAt? initializerOpening code = some (before, hit, after) →
          ∃ c word, hit = c :: word ∧ c ≠ '+' := by
      intro code before hit after h
      exact ⟨'-', _, eq_of_breakAt?_initializerOpening h, by decide⟩
    apply not_startsLine_insertBefore (hfit _) _ (not_startsLine_sizeThatFits honeLine)
    exact not_startsLine_insertBefore (hfit _) hcode (not_startsLine_drawRect honeLine)

theorem not_startsLine_convertHeader (o : Options) (implementation header : Text) :
    ¬ StartsLine classMethod (convertHeader o (declarations implementation) header) := by
  apply not_startsLine_insertAfter
  · intro before hit after h
    obtain ⟨ending, hend, rfl⟩ := eq_append_of_extensionOf h
    -- the declaration of the base type ends its line
    obtain ⟨e, -, rfl⟩ := hend.eq_concat
    exact ⟨": ".toList ++ o.baseType ++ e, (List.append_assoc _ _ _).symm⟩
  · exact not_startsLine_instanceMethods _
  · exact not_startsLine_properties _ _

/-- Class methods become instance methods, and no line of a converted pair starts as a class method
does, if no line of the background but its first one does. -/
theorem convertPair_no_class_methods (o : Options) (p : SourcePair) (r : PairConversion)
    (hbackground : ¬ "\n+ (".toList <:+: o.background) (h : (convertPair o p).value = some r) :
    (∀ code, lines (instanceMethods code) = (lines code).map instanceMethod) ∧
    (∀ l ∈ lines r.pair.header, ¬ "+ (".toList <+: l) ∧
    (∀ l ∈ lines r.pair.implementation, ¬ "+ (".toList <+: l) := by
  obtain ⟨before, opening, after, -, rfl⟩ := exists_opening_of_convertPair h
  refine ⟨lines_instanceMethods, fun l hl hprefix => ?_, fun l hl hprefix => ?_⟩
  · apply not_startsLine_convertHeader o p.implementation p.header
    exact startsLine_classMethod_iff.mpr ⟨l, hl, hprefix⟩
  · have hcode : ¬ StartsLine classMethod (withInitializer o (classNameOf opening)
        (declarations p.implementation) (recolored p.implementation)) :=
      not_startsLine_withInitializer hbackground (not_startsLine_recolored p.implementation)
    exact not_startsLine_withDrawing hcode (startsLine_classMethod_iff.mpr ⟨l, hl, hprefix⟩)

/-- A pair with class methods, one of which is a line of a color. -/
def methodPair : SourcePair where
  header := "@interface Dots : NSObject\n+ (void)draw;\n@end\n".toList
  implementation :=
    "@implementation Dots\n+ (void)draw\n//! Dot\n[[UIColor \n+ (red)] setFill];\n@end\n".toList

/-- The color is copied into the initialiser after its line has changed. -/
theorem convertPair_no_class_methods_dots :
    ¬ "\n+ (".toList <:+: ({ dialect := .objc } : Options).background ∧
    ∃ r, (convertPair { dialect := .objc } methodPair).value = some r ∧
      r.declarations.map Declaration.value = ["[UIColor \n- (red)]".toList] ∧
      (∀ l ∈ lines r.pair.header, ¬ "+ (".toList <+: l) ∧
      (∀ l ∈ lines r.pair.implementation, ¬ "+ (".toList <+: l) := by
  have hbackground : ¬ "\n+ (".toList <:+: ({ dialect := .objc } : Options).background := by decide
  have hrun : ∃ r, convertByStatements { dialect := .objc } methodPair = some r ∧
      r.declarations.map Declaration.value = ["[UIColor \n- (red)]".toList] := by
    decide +kernel
  obtain ⟨r, hr, hvalue⟩ := hrun
  rw [← value_convertPair] at hr
  exact ⟨hbackground, r, hr, hvalue, (convertPair_no_class_methods _ _ r hbackground hr).2⟩

end LayerView.Pair
