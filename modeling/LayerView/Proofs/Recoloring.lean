import LayerView.Pair.Paint
import LayerView.Proofs.Lines
import LayerView.Proofs.Search
import Mathlib.Data.List.Perm.Basic

/-!
# Recoloring an implementation

Fills and strokes are looked for in two scans over the same code, put in the order of their places,
and replaced from the last to the first.  The outcome is that of replacing all of them at once: every
match lies in a statement of its own, so no two matches touch, and a replacement never moves the place
of one that is still to be made.

Main statements:
- `paint_eq_of_closing`: no statement sets both a fill and a stroke
- `colorMatches_eq_filterMap`: the sorted matches are the matches of the statements in turn
- `replaceColors_weave`: replacements from the last to the first, as one substitution
- `replaceColors_simultaneous`: all of this for every code, and the way back
-/

namespace LayerView.Pair

open LayerView.Text

/-! ## Matches of one statement -/

/-- The statements of a code with their byte offsets. -/
def statements (code : Text) : List (Nat × Text) := statementsFrom 0 (piecesAt ';' code)

/-- The color that a statement sets as a fill or as a stroke. -/
def statementMatch? (code : Text) (s : Nat × Text) : Option PaintMatch :=
  (paintMatch? .fill code s.1 s.2).or (paintMatch? .stroke code s.1 s.2)

/-- A call that sets a color is the end of its statement. -/
theorem eq_append_of_paintCall? {p : Paint} {s lead call : Text}
    (h : paintCall? p s = some (lead, call)) : s = lead ++ call ∧ p.closing <:+ s := by
  cases hb : breakOn? paintOpening s with
  | none => simp [paintCall?, hb] at h
  | some parts =>
    obtain ⟨before, rest⟩ := parts
    simp only [paintCall?, hb, Option.bind_eq_bind, Option.bind_some,
      Option.ite_none_right_eq_some, Bool.and_eq_true, Option.some.injEq, Prod.mk.injEq] at h
    obtain ⟨⟨hclosing, -⟩, rfl, rfl⟩ := h
    -- the call goes from the first opening to the end of the statement
    have hs := eq_append_of_breakOn? hb
    refine ⟨by rw [hs, List.append_assoc], ?_⟩
    rw [hs]
    exact (List.isSuffixOf_iff_suffix.mp hclosing).trans (List.suffix_append _ rest)

/-- A statement cannot end both as a fill and as a stroke. -/
theorem paint_eq_of_closing {p q : Paint} {s : Text} (hp : p.closing <:+ s)
    (hq : q.closing <:+ s) : p = q := by
  rcases List.suffix_or_suffix_of_suffix hp hq with h | h <;>
    revert h <;> cases p <;> cases q <;> decide

/-- A fit is the start of what follows the text before it. -/
theorem exists_fit_of_breakAt? {fit : Pattern} {t before hit after : Text}
    (h : breakAt? fit t = some (before, hit, after)) (hnil : fit [] = none) :
    ∃ n, fit (hit ++ after) = some n ∧ hit = (hit ++ after).take n := by
  induction t generalizing before with
  | nil => simp [breakAt?, hnil] at h
  | cons c t ih =>
    simp only [breakAt?] at h
    split at h
    case h_1 n hn =>
      obtain ⟨-, rfl, rfl⟩ : [] = before ∧ (c :: t).take n = hit ∧ (c :: t).drop n = after := by
        simpa using h
      exact ⟨n, by simpa using hn, by simp⟩
    case h_2 =>
      -- the fit is further on, behind a text that is one character shorter
      cases hrec : breakAt? fit t with
      | none => simp [hrec] at h
      | some parts =>
        obtain ⟨b, m, a⟩ := parts
        obtain ⟨-, rfl, rfl⟩ : c :: b = before ∧ m = hit ∧ a = after := by simpa [hrec] using h
        exact ih hrec

/-- A color expression is not empty. -/
theorem color_ne_nil {call before color after : Text}
    (h : breakAt? colorExpression call = some (before, color, after)) : color ≠ [] := by
  have hnone : colorExpression [] = none := rfl
  obtain ⟨n, hn, hcolor⟩ := exists_fit_of_breakAt? h hnone
  -- a fit has at least its two brackets
  have hpos : 0 < n := by
    unfold colorExpression at hn
    split at hn
    · dsimp only at hn
      split at hn
      · have hlen := Option.some.inj hn
        omega
      · simp at hn
    · simp at hn
  intro e
  rw [e] at hcolor
  rcases List.take_eq_nil_iff.mp hcolor.symm with hzero | hnil
  · omega
  · rw [e, hnil, hnone] at hn
    simp at hn

/-- What a match of a statement is: a part of the statement, at its place in the code. -/
structure IsMatch (p : Paint) (offset : Nat) (s : Text) (m : PaintMatch) : Prop where
  cut : ∃ before after, s = before ++ m.color ++ after ∧ m.start = offset + size before
  color_ne_nil : m.color ≠ []
  closing : p.closing <:+ s
  name_eq : m.name = propertyName m.label p

/-- A match is cut out of its statement. -/
theorem isMatch_of_paintMatch? {p : Paint} {code s : Text} {offset : Nat} {m : PaintMatch}
    (h : paintMatch? p code offset s = some m) : IsMatch p offset s m := by
  simp only [paintMatch?, Option.bind_eq_bind, Option.bind_eq_some_iff] at h
  obtain ⟨⟨lead, call⟩, hcall, ⟨before, color, after⟩, hcolor, label, -, hm⟩ := h
  obtain rfl := Option.some.inj hm
  obtain ⟨hs, hclosing⟩ := eq_append_of_paintCall? hcall
  have hcut : call = before ++ color ++ after := eq_append_of_breakAt? hcolor
  refine ⟨⟨lead ++ before, after, ?_, ?_⟩, color_ne_nil hcolor, hclosing, rfl⟩
  · simp only [hs, hcut, List.append_assoc]
  · simp only [size_append, Nat.add_assoc]

/-- A statement has at most one match, and never both a fill and a stroke. -/
theorem match_unique {p q : Paint} {code s : Text} {offset : Nat} {m n : PaintMatch}
    (hm : paintMatch? p code offset s = some m) (hn : paintMatch? q code offset s = some n) :
    p = q ∧ m = n := by
  obtain rfl : p = q :=
    paint_eq_of_closing (isMatch_of_paintMatch? hm).closing (isMatch_of_paintMatch? hn).closing
  exact ⟨rfl, Option.some.inj (hm.symm.trans hn)⟩

theorem isMatch_of_statementMatch? {code s : Text} {offset : Nat} {m : PaintMatch}
    (h : statementMatch? code (offset, s) = some m) : ∃ p, IsMatch p offset s m := by
  rcases Option.or_eq_some_iff.mp h with h | ⟨-, h⟩
  · exact ⟨.fill, isMatch_of_paintMatch? h⟩
  · exact ⟨.stroke, isMatch_of_paintMatch? h⟩

/-! ## A text with gaps -/

/-- A text put together from gaps and what stands for each match between them. -/
def weave (word : PaintMatch → Text) (gap : Text) : List (PaintMatch × Text) → Text
  | [] => gap
  | (m, next) :: rest => gap ++ word m ++ weave word next rest

/-- Each match starts where its color does in the text woven from the colors, counted from `n`. -/
def Located (n : Nat) (gap : Text) : List (PaintMatch × Text) → Prop
  | [] => True
  | (m, next) :: rest => m.start = n + size gap ∧ Located (m.start + size m.color) next rest

theorem weave_append_gap (word : PaintMatch → Text) (s gap : Text)
    (ms : List (PaintMatch × Text)) : weave word (s ++ gap) ms = s ++ weave word gap ms := by
  cases ms <;> simp [weave]

theorem located_append_gap (n : Nat) (s gap : Text) (ms : List (PaintMatch × Text)) :
    Located n (s ++ gap) ms ↔ Located (n + size s) gap ms := by
  cases ms <;> simp [Located, Nat.add_assoc]

/-- The matches of consecutive statements lie between gaps of their text. -/
theorem exists_gaps (code : Text) (n : Nat) (ss : List Text) :
    ∃ gap ms, ms.map Prod.fst = (statementsFrom n ss).filterMap (statementMatch? code) ∧
      ss.flatten = weave PaintMatch.color gap ms ∧ Located n gap ms := by
  induction ss generalizing n with
  | nil => exact ⟨[], [], rfl, rfl, trivial⟩
  | cons s ss ih =>
    obtain ⟨gap, ms, hms, hflat, hloc⟩ := ih (n + size s)
    cases hmatch : statementMatch? code (n, s) with
    | none =>
      -- the whole statement joins the gap before the next match
      refine ⟨s ++ gap, ms, ?_, ?_, ?_⟩
      · simp [statementsFrom, hmatch, hms]
      · rw [List.flatten_cons, hflat, weave_append_gap]
      · rwa [located_append_gap]
    | some m =>
      obtain ⟨p, hm⟩ := isMatch_of_statementMatch? hmatch
      obtain ⟨before, after, hs, hstart⟩ := hm.cut
      refine ⟨before, (m, after ++ gap) :: ms, ?_, ?_, hstart, ?_⟩
      · simp [statementsFrom, hmatch, hms]
      · simp only [List.flatten_cons, hflat, weave, weave_append_gap, hs, List.append_assoc]
      · rw [located_append_gap]
        have hend : m.start + size m.color + size after = n + size s := by
          rw [hstart, hs, size_append, size_append]
          omega
        rwa [hend]

/-- The matches of a text with gaps lie one after the other. -/
theorem pairwise_of_located {n : Nat} {gap : Text} {ms : List (PaintMatch × Text)}
    (h : Located n gap ms) :
    (∀ m ∈ ms.map Prod.fst, n ≤ m.start) ∧
      (ms.map Prod.fst).Pairwise fun a b => a.start + size a.color ≤ b.start := by
  induction ms generalizing n gap with
  | nil => simp
  | cons p ms ih =>
    obtain ⟨m, next⟩ := p
    obtain ⟨hstart, hrest⟩ := h
    obtain ⟨hlater, hpair⟩ := ih hrest
    refine ⟨?_, List.pairwise_cons.mpr ⟨hlater, hpair⟩⟩
    -- the first match starts behind its gap, and the others start behind it
    intro m' hm'
    rcases List.mem_cons.mp hm' with heq | hm'
    · rw [heq]
      show n ≤ m.start
      omega
    · have := hlater m' hm'
      omega

/-! ## Two scans and a sort -/

/-- Two searches of which at most one succeeds at each place find together what either finds. -/
private theorem perm_filterMap_or {α β : Type} {f g : α → Option β} {xs : List α}
    (h : ∀ x ∈ xs, f x = none ∨ g x = none) :
    (xs.filterMap f ++ xs.filterMap g).Perm (xs.filterMap fun x => (f x).or (g x)) := by
  induction xs with
  | nil => exact List.Perm.nil
  | cons x xs ih =>
    have hrest := ih fun y hy => h y (List.mem_cons_of_mem x hy)
    cases hf : f x with
    | some a =>
      have hg : g x = none := by
        rcases h x List.mem_cons_self with hnone | hnone
        · simp [hf] at hnone
        · exact hnone
      simpa [hf, hg] using hrest.cons a
    | none =>
      cases hg : g x with
      | some b =>
        simp only [List.filterMap_cons, hf, hg, Option.none_or]
        -- what `g` finds comes behind all that `f` finds, and may be moved to the front
        exact List.perm_middle.trans (hrest.cons b)
      | none => simpa [hf, hg] using hrest

/-- A list that is in order already, and of which no two members are at the same place, is what
sorting any rearrangement of it gives. -/
theorem mergeSort_eq_of_perm {xs ms : List PaintMatch} (hperm : xs.Perm ms)
    (hms : ms.Pairwise fun a b => a.start < b.start) :
    xs.mergeSort (fun a b => a.start ≤ b.start) = ms := by
  have hsorted : (xs.mergeSort fun a b => a.start ≤ b.start).Pairwise
      fun a b => decide (a.start ≤ b.start) = true := by
    apply List.pairwise_mergeSort
    · intro a b c hab hbc
      simp only [decide_eq_true_eq] at hab hbc ⊢
      omega
    · intro a b
      simp only [Bool.or_eq_true, decide_eq_true_eq]
      omega
  -- both lists are in order and have the same members
  have hordered : ms.Pairwise fun a b => decide (a.start ≤ b.start) = true :=
    hms.imp fun hab => by simpa using Nat.le_of_lt hab
  refine List.Perm.eq_of_pairwise ?_ hsorted hordered ((List.mergeSort_perm xs _).trans hperm)
  intro a b ha hb hab hba
  -- in `ms` a place belongs to one member only
  have hplace : ∀ x ∈ ms, ∀ y ∈ ms, x.start = y.start → x = y :=
    List.Pairwise.forall_of_forall_of_flip (fun _ _ _ => rfl)
      (hms.imp fun hlt heq => absurd heq (Nat.ne_of_lt hlt))
      (hms.imp fun hlt heq => absurd heq.symm (Nat.ne_of_lt hlt))
  simp only [decide_eq_true_eq] at hab hba
  exact hplace a (hperm.mem_iff.mp (List.mem_mergeSort.mp ha)) b hb (Nat.le_antisymm hab hba)

/-- Later statements have their matches further on. -/
theorem pairwise_start_statementMatches (code : Text) :
    ((statements code).filterMap (statementMatch? code)).Pairwise fun a b => a.start < b.start := by
  obtain ⟨gap, ms, hms, -, hloc⟩ := exists_gaps code 0 (piecesAt ';' code)
  have hpair := (pairwise_of_located hloc).2
  rw [hms] at hpair
  refine hpair.imp_of_mem ?_
  intro a b ha _ hab
  -- a color has at least one byte, so a match that follows it starts further on
  obtain ⟨s, -, hs⟩ := List.mem_filterMap.mp ha
  obtain ⟨p, hm⟩ := isMatch_of_statementMatch? hs
  have hsize := size_pos hm.color_ne_nil
  omega

/-- The matches in the order of their places are those of the statements in turn. -/
theorem colorMatches_eq_filterMap (code : Text) :
    colorMatches code = (statements code).filterMap (statementMatch? code) := by
  apply mergeSort_eq_of_perm _ (pairwise_start_statementMatches code)
  apply perm_filterMap_or
  -- no statement has two matches
  rintro ⟨offset, s⟩ -
  cases hfill : paintMatch? .fill code offset s with
  | none => exact Or.inl hfill
  | some m =>
    cases hstroke : paintMatch? .stroke code offset s with
    | none => exact Or.inr hstroke
    | some n => exact absurd (match_unique hfill hstroke).1 (by decide)

/-! ## Replacing from the last to the first -/

/-- Replacements from the last to the first are one substitution, since each leaves the text before
it alone.  `front` is the text before the first gap. -/
theorem replaceColors_weave (front gap : Text) (ms : List (PaintMatch × Text))
    (h : Located (size front) gap ms) :
    replaceColors (ms.map Prod.fst) (front ++ weave PaintMatch.color gap ms) =
      front ++ weave PaintMatch.reference gap ms := by
  induction ms generalizing front gap with
  | nil => rfl
  | cons p ms ih =>
    obtain ⟨m, next⟩ := p
    obtain ⟨hstart, hrest⟩ := h
    rw [← size_append] at hstart
    rw [hstart, ← size_append] at hrest
    have hlater : replaceColors (ms.map Prod.fst)
        (front ++ gap ++ m.color ++ weave PaintMatch.color next ms) =
          front ++ gap ++ m.color ++ weave PaintMatch.reference next ms := ih _ next hrest
    have hcode : front ++ weave PaintMatch.color gap ((m, next) :: ms) =
        front ++ gap ++ m.color ++ weave PaintMatch.color next ms := by
      simp only [weave, List.append_assoc]
    calc
      _ = replaceColor m (replaceColors (ms.map Prod.fst)
            (front ++ weave PaintMatch.color gap ((m, next) :: ms))) := rfl
      _ = replaceColor m (front ++ gap ++ m.color ++ weave PaintMatch.reference next ms) := by
        rw [hcode, hlater]
      _ = front ++ gap ++ m.reference ++ weave PaintMatch.reference next ms := by
        rw [replaceColor, hstart, splice?_append, Option.getD_some]
      _ = _ := by simp only [weave, List.append_assoc]

/-- Put a color back where its property is read. -/
def restoreColor? (code : Text) (m : PaintMatch) : Option Text :=
  splice? code m.start (m.start + size m.reference) m.color

/-- Put colors back, the first one first: once those before it are back, a reference stands at the
place that its color had. -/
def restoreColors? (ms : List PaintMatch) (code : Text) : Option Text :=
  ms.foldlM restoreColor? code

/-- Putting back from the first to the last undoes the substitution, since by then all that is
before a reference is as it was. -/
theorem restoreColors?_weave (front gap : Text) (ms : List (PaintMatch × Text))
    (h : Located (size front) gap ms) :
    restoreColors? (ms.map Prod.fst) (front ++ weave PaintMatch.reference gap ms) =
      some (front ++ weave PaintMatch.color gap ms) := by
  induction ms generalizing front gap with
  | nil => rfl
  | cons p ms ih =>
    obtain ⟨m, next⟩ := p
    obtain ⟨hstart, hrest⟩ := h
    rw [← size_append] at hstart
    rw [hstart, ← size_append] at hrest
    have hcode : front ++ weave PaintMatch.reference gap ((m, next) :: ms) =
        front ++ gap ++ m.reference ++ weave PaintMatch.reference next ms := by
      simp only [weave, List.append_assoc]
    -- the first reference stands where its color was, for nothing before it has changed
    have hfirst : restoreColor? (front ++ weave PaintMatch.reference gap ((m, next) :: ms)) m =
        some (front ++ gap ++ m.color ++ weave PaintMatch.reference next ms) := by
      rw [hcode, restoreColor?, hstart, splice?_append]
    calc
      _ = (restoreColor? (front ++ weave PaintMatch.reference gap ((m, next) :: ms)) m).bind
            (restoreColors? (ms.map Prod.fst)) := by
        rw [restoreColors?, List.map_cons, List.foldlM_cons]
        rfl
      _ = some (front ++ gap ++ m.color ++ weave PaintMatch.color next ms) := by
        rw [hfirst, Option.bind_some, ih _ next hrest]
      _ = _ := by simp only [weave, List.append_assoc]

/-! ## What is looked for -/

/-- A call that sets a color: from the opening over at least one character, none of them a semicolon,
to the closing. -/
def IsPaintCall (p : Paint) (call : Text) : Prop :=
  ∃ inner, inner ≠ [] ∧ ';' ∉ inner ∧ call = paintOpening ++ inner ++ p.closing

theorem Paint.closing_eq (p : Paint) : ∃ body, ';' ∉ body ∧ p.closing = body ++ [';'] := by
  cases p with
  | fill => exact ⟨" setFill]".toList, by decide, rfl⟩
  | stroke => exact ⟨" setStroke]".toList, by decide, rfl⟩

/-- The semicolon that ends a call is its only one. -/
theorem IsPaintCall.eq_append {p : Paint} {call : Text} (h : IsPaintCall p call) :
    ∃ body, ';' ∉ body ∧ call = body ++ [';'] := by
  obtain ⟨inner, -, hinner, rfl⟩ := h
  obtain ⟨body, hbody, hclosing⟩ := p.closing_eq
  have hopening : ';' ∉ paintOpening := by decide
  refine ⟨paintOpening ++ inner ++ body, ?_, by rw [hclosing, List.append_assoc _ body]⟩
  simp only [List.mem_append, not_or]
  exact ⟨⟨hopening, hinner⟩, hbody⟩

/-- In a statement the first call that sets a color is found. -/
theorem isPaintCall_of_paintCall? {p : Paint} {s lead call : Text} (hs : ';' ∉ s.dropLast)
    (h : paintCall? p s = some (lead, call)) :
    IsPaintCall p call ∧
      ∀ lead' call', s = lead' ++ call' → IsPaintCall p call' → lead.length ≤ lead'.length := by
  obtain ⟨⟨before, rest⟩, hb, hcall⟩ := Option.bind_eq_some_iff.mp h
  simp only [Option.ite_none_right_eq_some, Bool.and_eq_true, decide_eq_true_eq,
    Option.some.injEq, Prod.mk.injEq] at hcall
  obtain ⟨⟨hsuffix, hlen⟩, rfl, rfl⟩ := hcall
  obtain ⟨inner, rfl⟩ := List.isSuffixOf_iff_suffix.mp hsuffix
  obtain ⟨body, -, hclosing⟩ := p.closing_eq
  refine ⟨⟨inner, ?_, ?_, (List.append_assoc _ _ _).symm⟩, ?_⟩
  · rintro rfl
    simp at hlen
  · -- what stands before the closing is not the end of the statement
    have hdrop : s.dropLast = before ++ paintOpening ++ inner ++ body := by
      rw [eq_append_of_breakOn? hb, hclosing, ← List.append_assoc, ← List.append_assoc,
        List.dropLast_concat]
    intro hmem
    apply hs
    rw [hdrop]
    simp [hmem]
  · rintro lead' call' hcut ⟨inner', -, -, rfl⟩
    have hopening : s = lead' ++ paintOpening ++ (inner' ++ p.closing) := by
      rw [hcut]
      simp only [List.append_assoc]
    exact length_le_of_breakOn? hb hopening

/-- A statement that ends with a call that sets a color has a match for its paint. -/
private theorem exists_paintCall?_eq_some {p : Paint} {s lead call : Text} (hs : s = lead ++ call)
    (hcall : IsPaintCall p call) : ∃ lead' call', paintCall? p s = some (lead', call') := by
  obtain ⟨inner, hinner, -, rfl⟩ := hcall
  have hcut : s = lead ++ paintOpening ++ (inner ++ p.closing) := by
    rw [hs]
    simp only [List.append_assoc]
  cases hb : breakOn? paintOpening s with
  | none => exact absurd ⟨lead, _, hcut.symm⟩ (breakOn?_eq_none_iff.mp hb)
  | some parts =>
    obtain ⟨before, rest⟩ := parts
    -- the first opening is no later than this one, so its rest ends with this rest
    have hle : before.length ≤ lead.length := length_le_of_breakOn? hb hcut
    have hfirst := eq_append_of_breakOn? hb
    have hlen : (inner ++ p.closing).length ≤ rest.length := by
      have := congrArg List.length (hfirst.symm.trans hcut)
      simp only [List.length_append] at this ⊢
      omega
    have hrest : inner ++ p.closing <:+ rest :=
      List.suffix_of_suffix_length_le ⟨_, hcut.symm⟩ ⟨_, hfirst.symm⟩ hlen
    have hpos : 0 < inner.length := List.length_pos_iff.mpr hinner
    have hsuffix : p.closing <:+ rest := (List.suffix_append inner p.closing).trans hrest
    have hlong : p.closing.length < rest.length := by
      rw [List.length_append] at hlen
      omega
    exact ⟨before, paintOpening ++ rest, by simp [paintCall?, hb, hsuffix, hlong]⟩

/-- A code is cut into statements right behind every semicolon. -/
private theorem exists_piecesAt_append {stop : Char} (u : Text) {body : Text} (hbody : stop ∉ body)
    (v : Text) :
    ∃ ps lead, piecesAt stop (u ++ body ++ stop :: v) =
        ps ++ (lead ++ body ++ [stop]) :: piecesAt stop v ∧ u = ps.flatten ++ lead := by
  induction hn : u.length using Nat.strong_induction_on generalizing u with
  | _ n ih =>
    by_cases hu : stop ∈ u
    · -- up to the first mark in `u`, and the rest by induction
      obtain ⟨a, b, rfl, ha⟩ := List.eq_append_cons_of_mem hu
      obtain ⟨ps, lead, hps, hb⟩ := ih b.length (by simp at hn; omega) b rfl
      refine ⟨(a ++ [stop]) :: ps, lead, ?_, by simp [hb]⟩
      have hassoc : a ++ stop :: b ++ body ++ stop :: v = a ++ stop :: (b ++ body ++ stop :: v) := by
        simp
      rw [hassoc, piecesAt_append_cons ha, hps, List.cons_append]
    · have hlead : stop ∉ u ++ body := by
        rw [List.mem_append, not_or]
        exact ⟨hu, hbody⟩
      exact ⟨[], u, by rw [piecesAt_append_cons hlead, List.nil_append], by simp⟩

private theorem mem_statementsFrom (n : Nat) (ps qs : List Text) (s : Text) :
    (n + size ps.flatten, s) ∈ statementsFrom n (ps ++ s :: qs) := by
  induction ps generalizing n with
  | nil => simp [statementsFrom]
  | cons p ps ih =>
    have h := ih (n + size p)
    rw [Nat.add_assoc, ← size_append] at h
    exact List.mem_cons_of_mem _ h

/-- A call that sets a color lies in one statement, at the end of it. -/
theorem exists_statement_of_isPaintCall {p : Paint} {code u call v : Text}
    (hcode : code = u ++ call ++ v) (hcall : IsPaintCall p call) :
    ∃ offset lead, (offset, lead ++ call) ∈ statements code ∧ size u = offset + size lead := by
  obtain ⟨body, hbody, rfl⟩ := hcall.eq_append
  obtain ⟨ps, lead, hps, rfl⟩ := exists_piecesAt_append u hbody v
  refine ⟨size ps.flatten, lead, ?_, size_append _ _⟩
  have hassoc : code = ps.flatten ++ lead ++ body ++ ';' :: v := by simp [hcode]
  have hmem := mem_statementsFrom 0 ps (piecesAt ';' v) (lead ++ body ++ [';'])
  rw [← hps, ← hassoc, Nat.zero_add, List.append_assoc] at hmem
  exact hmem

theorem mem_of_mem_statementsFrom {n : Nat} {ss : List Text} {s : Nat × Text}
    (h : s ∈ statementsFrom n ss) : s.2 ∈ ss := by
  induction ss generalizing n with
  | nil => simp [statementsFrom] at h
  | cons t ss ih =>
    rcases List.mem_cons.mp h with rfl | h
    · exact List.mem_cons_self
    · exact List.mem_cons_of_mem t (ih h)

/-- The search by statements finds the calls that set a color, wherever they are in a code. -/
structure FindsCalls (code : Text) : Prop where
  /-- What is found ends its statement and is the first call with its paint there. -/
  sound : ∀ s ∈ statements code, ∀ p lead call, paintCall? p s.2 = some (lead, call) →
    s.2 = lead ++ call ∧ IsPaintCall p call ∧
      ∀ lead' call', s.2 = lead' ++ call' → IsPaintCall p call' → lead.length ≤ lead'.length
  /-- A call ends the statement that it lies in, which has a call with its paint and no other. -/
  complete : ∀ p u call v, code = u ++ call ++ v → IsPaintCall p call →
    ∃ offset lead, (offset, lead ++ call) ∈ statements code ∧ size u = offset + size lead ∧
      ∀ q, (paintCall? q (lead ++ call)).isSome ↔ q = p

/-- Searching statement by statement finds all calls and nothing else. -/
theorem findsCalls (code : Text) : FindsCalls code where
  sound s hs p lead call h := by
    have hpiece := notMem_dropLast_of_mem_piecesAt (mem_of_mem_statementsFrom hs)
    exact ⟨(eq_append_of_paintCall? h).1, isPaintCall_of_paintCall? hpiece h⟩
  complete p u call v hcut hcall := by
    obtain ⟨offset, lead, hmem, hsize⟩ := exists_statement_of_isPaintCall hcut hcall
    refine ⟨offset, lead, hmem, hsize, fun q => ⟨fun hq => ?_, ?_⟩⟩
    · -- the statement ends with the closing of the call, so it has no other paint
      obtain ⟨parts, hparts⟩ := Option.isSome_iff_exists.mp hq
      obtain ⟨inner, -, -, rfl⟩ := hcall
      exact paint_eq_of_closing (eq_append_of_paintCall? hparts).2
        ⟨lead ++ (paintOpening ++ inner), by simp only [List.append_assoc]⟩
    · rintro rfl
      obtain ⟨lead', call', h⟩ :=
        exists_paintCall?_eq_some (rfl : lead ++ call = lead ++ call) hcall
      rw [h, Option.isSome_some]

/-! ## The whole substitution -/

/-- Recoloring replaces all its matches at once, and putting the colors back gives the code back. -/
theorem replaceColors_simultaneous (code : Text) :
    FindsCalls code ∧
    (∀ s ∈ statements code, ∀ p q m n, paintMatch? p code s.1 s.2 = some m →
      paintMatch? q code s.1 s.2 = some n → p = q ∧ m = n) ∧
    colorMatches code = (statements code).filterMap (statementMatch? code) ∧
    (colorMatches code).Pairwise (fun a b => a.start + size a.color ≤ b.start) ∧
    ∃ gap pairs, pairs.map Prod.fst = colorMatches code ∧ Located 0 gap pairs ∧
      code = weave PaintMatch.color gap pairs ∧
      replaceColors (colorMatches code) code = weave PaintMatch.reference gap pairs ∧
      restoreColors? (colorMatches code) (replaceColors (colorMatches code) code) = some code := by
  obtain ⟨gap, pairs, hpairs, hflat, hloc⟩ := exists_gaps code 0 (piecesAt ';' code)
  have hcode : code = weave PaintMatch.color gap pairs := by rw [← hflat, flatten_piecesAt]
  have hmatches : pairs.map Prod.fst = colorMatches code := by
    rw [hpairs, colorMatches_eq_filterMap]
    rfl
  have hreplace : replaceColors (colorMatches code) code =
      weave PaintMatch.reference gap pairs := by
    have h := replaceColors_weave [] gap pairs hloc
    rwa [List.nil_append, List.nil_append, ← hcode, hmatches] at h
  have hrestore : restoreColors? (colorMatches code) (weave PaintMatch.reference gap pairs) =
      some code := by
    have h := restoreColors?_weave [] gap pairs hloc
    rwa [List.nil_append, List.nil_append, ← hcode, hmatches] at h
  refine ⟨findsCalls code, ?_, colorMatches_eq_filterMap code, ?_, gap, pairs, hmatches, hloc,
    hcode, hreplace, ?_⟩
  · intro s _ p q m n hm hn
    exact match_unique hm hn
  · rw [← hmatches]
    exact (pairwise_of_located hloc).2
  · rw [hreplace, hrestore]

end LayerView.Pair
