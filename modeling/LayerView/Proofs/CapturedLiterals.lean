import LayerView.Proofs.FirstPlaces
import LayerView.Proofs.Slices
import Mathlib.Data.List.TakeWhile

/-!
# What the searches for a literal promise

A literal is captured between two delimiters, or as the receiver of a call.  The delimiters may be
any texts: they can be empty, overlap each other, or overlap themselves.  The promise is made in
terms of first occurrences.  What follows the first left delimiter is cut before the next one, and
the literal is this segment up to the first right delimiter, or all of it if there is none.  The
receiver of a call is what stands before the first call, trimmed.

In both cases the literal is the part of the line between its two byte offsets, and rewriting the
line at these offsets changes nothing else.

Main statements:
- `isTrimmed_trim`: what trimming does
- `Capture.standsOn_of_line_eq`: the offsets of a capture
- `Delimited.find?_eq_none_iff`, `Delimited.matches_of_find?`: literals between delimiters
- `Delimited.takes_iff`: the literals that are taken
- `CallSuffix.find?_eq_none_iff`, `CallSuffix.matches_of_find?`: receivers of a call
- `searches_keep_promises`: both searches together
-/

namespace LayerView.Text

/-! ## Trimming -/

/-- A text with the blanks on either side told apart. -/
structure IsTrimmed (t indent text trail : Text) : Prop where
  eq_append : t = indent ++ text ++ trail
  indent_blank : ∀ c ∈ indent, isBlank c = true
  trail_blank : ∀ c ∈ trail, isBlank c = true
  head_not_blank : ∀ c, text.head? = some c → isBlank c = false
  last_not_blank : ∀ c, text.getLast? = some c → isBlank c = false

theorem head?_dropWhile_isBlank {t : Text} {c : Char} (h : (t.dropWhile isBlank).head? = some c) :
    isBlank c = false := by
  have hnot := List.head?_dropWhile_not isBlank t
  rw [h] at hnot
  simpa using hnot

/-- Trimming the end takes blanks off. -/
theorem trimEnd_append_blanks (t : Text) :
    trimEnd t ++ (t.reverse.takeWhile isBlank).reverse = t := by
  rw [trimEnd, ← List.reverse_append, List.takeWhile_append_dropWhile, List.reverse_reverse]

/-- What trimming takes off are the longest runs of blanks on either side. -/
theorem isTrimmed_trim (t : Text) :
    IsTrimmed t (t.takeWhile isBlank) (trim t)
      ((trimStart t).reverse.takeWhile isBlank).reverse where
  eq_append := by
    rw [List.append_assoc, trim, trimEnd_append_blanks]
    exact List.takeWhile_append_dropWhile.symm
  indent_blank c hc := List.mem_takeWhile_imp hc
  trail_blank c hc := List.mem_takeWhile_imp (List.mem_reverse.mp hc)
  head_not_blank c hc := by
    -- a trimmed text starts as the text with its start trimmed
    have hstart : (trimStart t).head? = some c := by
      rw [← trimEnd_append_blanks (trimStart t), List.head?_append]
      simp only [trim] at hc
      rw [hc]
      rfl
    exact head?_dropWhile_isBlank hstart
  last_not_blank c hc := by
    -- read from the end, the end is trimmed as the start is
    rw [trim, trimEnd, List.getLast?_reverse] at hc
    exact head?_dropWhile_isBlank hc

/-- Nothing is left exactly of blanks. -/
private theorem trim_eq_nil_iff {t : Text} : trim t = [] ↔ ∀ c ∈ t, isBlank c = true := by
  have htrimmed := isTrimmed_trim t
  constructor
  · intro h c hc
    rw [htrimmed.eq_append, h, List.append_nil] at hc
    rcases List.mem_append.mp hc with hc | hc
    · exact htrimmed.indent_blank c hc
    · exact htrimmed.trail_blank c hc
  · intro h
    -- all of the text goes with its start
    have hstart : trimStart t = [] := List.dropWhile_eq_nil_iff.mpr h
    rw [trim, hstart]
    rfl

end LayerView.Text

namespace LayerView

open LayerView.Text

/-! ## Offsets -/

/-- A literal that is on a line where its offsets say, so that the line can be rewritten there and
nowhere else. -/
structure Capture.StandsOn (c : Capture) (line : Text) : Prop where
  slice_eq : slice? line c.start c.stop = some c.text
  rewrite_text : splice? line c.start c.stop c.text = some line
  rewrite_only : ∃ before after, slice? line 0 c.start = some before ∧
    slice? line c.stop (size line) = some after ∧
    ∀ new, splice? line c.start c.stop new = some (before ++ new ++ after)
  /-- Filling a text in is rewriting at the offsets. -/
  rewrite_eq_fill : ∀ new, splice? line c.start c.stop new = some (c.fill new)

theorem Capture.slice?_after (c : Capture) :
    slice? c.line c.stop (size c.line) = some c.after := by
  have h := slice?_tail (c.before ++ c.text) c.after
  rwa [size_append c.before c.text] at h

/-- A capture whose three parts make up a line stands on it, at the offsets of these parts. -/
theorem Capture.standsOn_of_line_eq {c : Capture} {line : Text} (h : c.line = line) :
    c.StandsOn line := by
  subst h
  have hrewrite : ∀ new, splice? c.line c.start c.stop new = some (c.fill new) :=
    fun new => splice?_append c.before c.text c.after new
  refine ⟨?_, hrewrite c.text, ⟨c.before, c.after, ?_, c.slice?_after, hrewrite⟩, hrewrite⟩
  · exact slice?_eq_some_iff.mpr ⟨c.before, c.after, rfl, rfl, rfl⟩
  · have h := slice?_head c.before (c.text ++ c.after)
    rwa [← List.append_assoc] at h

/-! ## Delimiters -/

namespace Delimited

variable {d : Delimited} {line lead text : Text} {c : Capture}

/-- How a line is cut: what stands before the first left delimiter, and the segment behind it, which
goes to the next left delimiter or to the end. -/
def Cuts (d : Delimited) (line lead segment : Text) : Prop :=
  ∃ rest, IsFirst (· = d.left) line lead d.left rest ∧ UpToFirst d.left rest segment

/-- What is promised of a literal in the segment of a line. -/
structure Matches (d : Delimited) (line lead segment : Text) (c : Capture) : Prop where
  standsOn : c.StandsOn line
  start_eq : c.start = size (lead ++ d.left)
  upTo_right : UpToFirst d.right segment c.text
  text_ne_nil : c.text ≠ []
  left_not_infix : ¬ d.left <:+: c.text
  right_not_infix : ¬ d.right <:+: c.text
  closed_iff : c.closed = true ↔ d.right <:+: segment
  /-- Where the literal is closed, the right delimiter follows it. -/
  right_follows : c.closed = true →
    ∃ tail, slice? line c.stop (size line) = some tail ∧ d.right <+: tail
  /-- Otherwise it ends where the segment does. -/
  stop_eq : c.closed = false → c.stop = size (lead ++ d.left ++ segment)

/-- The cuts of a line, by the search. -/
theorem cuts_iff {segment : Text} :
    d.Cuts line lead segment ↔
      ∃ rest, breakOn? d.left line = some (lead, rest) ∧ (cutBefore d.left rest).1 = segment := by
  unfold Cuts
  simp only [isFirst_eq_iff, upToFirst_iff]

/-- The search fails exactly where there is no left delimiter or nothing between the first one and
what ends the literal. -/
theorem find?_eq_none_iff :
    d.find? line = none ↔ ¬ d.left <:+: line ∨
      ∃ lead segment, d.Cuts line lead segment ∧ UpToFirst d.right segment [] := by
  cases h : breakOn? d.left line with
  | none => simp [find?, h, breakOn?_eq_none_iff.mp h]
  | some parts =>
    obtain ⟨lead, rest⟩ := parts
    have hleft : d.left <:+: line := ⟨lead, rest, (eq_append_of_breakOn? h).symm⟩
    -- the left delimiter is there, so only an empty literal lets the search fail
    have hempty : d.find? line = none ↔
        (cutBefore d.right (cutBefore d.left rest).1).1 = [] := by
      simp [find?, h]
    rw [hempty]
    constructor
    · intro hnil
      exact Or.inr ⟨lead, _, cuts_iff.mpr ⟨rest, h, rfl⟩, upToFirst_iff.mpr hnil⟩
    · rintro (hnone | ⟨lead', segment, hcuts, hnil⟩)
      · exact absurd hleft hnone
      · -- a line is cut in one way, so the two segments are the same
        obtain ⟨rest', hbreak, rfl⟩ := cuts_iff.mp hcuts
        obtain ⟨-, rfl⟩ := Prod.mk.inj (Option.some.inj (h.symm.trans hbreak))
        exact upToFirst_iff.mp hnil

/-- What the search finds is the literal in the segment behind the first left delimiter. -/
theorem matches_of_find? (h : d.find? line = some c) :
    ∃ lead segment, d.Cuts line lead segment ∧ d.Matches line lead segment c := by
  have hline := line_eq_of_find? h
  have hfollows := (Pass.delimiters_of_find? h).2
  cases hl : breakOn? d.left line with
  | none => simp [find?, hl] at h
  | some parts =>
    obtain ⟨lead, rest⟩ := parts
    simp only [find?, hl, Option.bind_eq_bind, Option.bind_some, Option.ite_none_left_eq_some,
      Option.some.injEq] at h
    obtain ⟨hempty, hc⟩ := h
    let segment := (cutBefore d.left rest).1
    have htext : c.text = (cutBefore d.right segment).1 := by rw [← hc]
    have hclosed : c.closed = (cutBefore d.right segment).2.2 := by rw [← hc]
    have hbefore : c.before = lead ++ d.left := by rw [← hc]
    have hsegment : UpToFirst d.left rest segment := upToFirst_iff.mpr rfl
    have hright : UpToFirst d.right segment c.text := upToFirst_iff.mpr htext.symm
    have hne : c.text ≠ [] := by simpa [htext] using hempty
    have hclosed_iff : c.closed = true ↔ d.right <:+: segment := by
      rw [hclosed]
      exact cutBefore_found_iff
    -- an empty segment would have no delimiter in it to be excluded
    have hsegment_ne : segment ≠ [] := fun hnil => hne (List.prefix_nil.mp (hnil ▸ hright.isPrefix))
    refine ⟨lead, segment, ⟨rest, isFirst_eq_iff.mpr hl, hsegment⟩, ?_⟩
    exact
      { standsOn := Capture.standsOn_of_line_eq hline
        start_eq := by rw [Capture.start, hbefore]
        upTo_right := hright
        text_ne_nil := hne
        left_not_infix := fun hleft =>
          hsegment.not_contained hsegment_ne (hleft.trans hright.isPrefix.isInfix)
        right_not_infix := hright.not_contained hne
        closed_iff := hclosed_iff
        right_follows := by
          intro htrue
          obtain ⟨tail, htail⟩ := hfollows htrue
          refine ⟨c.after, ?_, tail, htail.symm⟩
          rw [← hline]
          exact c.slice?_after
        stop_eq := by
          intro hfalse
          have hnone : ¬ d.right <:+: segment := by
            rw [← hclosed_iff, hfalse]
            exact Bool.false_ne_true
          rw [Capture.stop, hbefore, hright.eq_of_not_contained hnone, ← size_append] }

/-- A line is cut in one way only. -/
theorem Cuts.unique {segment lead' segment' : Text} (h : d.Cuts line lead segment)
    (h' : d.Cuts line lead' segment') : lead = lead' ∧ segment = segment' := by
  obtain ⟨rest, hbreak, rfl⟩ := cuts_iff.mp h
  obtain ⟨rest', hbreak', rfl⟩ := cuts_iff.mp h'
  obtain ⟨rfl, rfl⟩ := Prod.mk.inj (Option.some.inj (hbreak.symm.trans hbreak'))
  exact ⟨rfl, rfl⟩

/-- Whether a literal is closed is told by the segment of the line. -/
theorem closed_iff_of_cuts {segment : Text} (hcuts : d.Cuts line lead segment)
    (h : d.find? line = some c) : c.closed = true ↔ d.right <:+: segment := by
  obtain ⟨lead', segment', hcuts', hmatches⟩ := matches_of_find? h
  obtain ⟨-, rfl⟩ := hcuts.unique hcuts'
  exact hmatches.closed_iff

/-- A literal behind the first left delimiter of a line, up to a delimiter or the end. -/
def Takes (d : Delimited) (line text : Text) : Prop :=
  text ≠ [] ∧ ∃ lead segment, d.Cuts line lead segment ∧ UpToFirst d.right segment text

/-- Behind the first left delimiter no right one comes before the next left one. -/
def LeavesOpen (d : Delimited) (line : Text) : Prop :=
  ∃ lead segment, d.Cuts line lead segment ∧ ¬ d.right <:+: segment

/-- What is taken is what the search captures. -/
theorem takes_iff : d.Takes line text ↔ ∃ c, d.find? line = some c ∧ c.text = text := by
  constructor
  · rintro ⟨hne, lead, segment, hcuts, htext⟩
    cases hfind : d.find? line with
    | none =>
      -- the search fails only where there is nothing to take
      exfalso
      rcases find?_eq_none_iff.mp hfind with hleft | ⟨lead', segment', hcuts', hempty⟩
      · obtain ⟨rest, hfirst, -⟩ := hcuts
        exact hleft ⟨lead, rest, hfirst.eq_append.symm⟩
      · obtain ⟨-, rfl⟩ := hcuts.unique hcuts'
        exact hne ((upToFirst_iff.mp htext).symm.trans (upToFirst_iff.mp hempty))
    | some c =>
      obtain ⟨lead', segment', hcuts', hmatches⟩ := matches_of_find? hfind
      obtain ⟨-, rfl⟩ := hcuts.unique hcuts'
      have htaken := upToFirst_iff.mp hmatches.upTo_right
      exact ⟨c, rfl, htaken.symm.trans (upToFirst_iff.mp htext)⟩
  · rintro ⟨c, hfind, rfl⟩
    obtain ⟨lead, segment, hcuts, hmatches⟩ := matches_of_find? hfind
    exact ⟨hmatches.text_ne_nil, lead, segment, hcuts, hmatches.upTo_right⟩

/-- A literal that was captured is closed unless it is left open. -/
theorem closed_iff_not_leavesOpen (h : d.find? line = some c) :
    c.closed = true ↔ ¬ d.LeavesOpen line := by
  constructor
  · rintro hclosed ⟨lead, segment, hcuts, hopen⟩
    exact hopen ((closed_iff_of_cuts hcuts h).mp hclosed)
  · intro hnot
    -- the segment of the line shows that it is left open
    obtain ⟨lead, segment, hcuts, -⟩ := matches_of_find? h
    by_contra hopen
    exact hnot ⟨lead, segment, hcuts, mt (closed_iff_of_cuts hcuts h).mpr hopen⟩

end Delimited

/-! ## Receivers of a call -/

namespace CallSuffix

variable {s : CallSuffix} {line : Text} {c : Capture}

/-- What is promised of the receiver of a call, in the text before the first call. -/
structure Matches (s : CallSuffix) (line head : Text) (c : Capture) : Prop where
  standsOn : c.StandsOn line
  text_ne_nil : c.text ≠ []
  closed : c.closed = true
  trimmed : ∃ indent trail, IsTrimmed head indent c.text trail ∧ c.start = size indent

/-- The search for a receiver fails exactly where there is no call, or only blanks before the first
one. -/
theorem find?_eq_none_iff :
    s.find? line = none ↔ ¬ s.marker <:+: line ∨
      ∃ head rest, IsFirst (· = s.marker) line head s.marker rest ∧
        ∀ c ∈ head, isBlank c = true := by
  simp only [isFirst_eq_iff]
  cases h : breakOn? s.marker line with
  | none => simp [find?, h, breakOn?_eq_none_iff.mp h]
  | some parts =>
    obtain ⟨head, rest⟩ := parts
    have hmarker : s.marker <:+: line := ⟨head, rest, (eq_append_of_breakOn? h).symm⟩
    have hempty : s.find? line = none ↔ trim head = [] := by simp [find?, h]
    rw [hempty, trim_eq_nil_iff]
    constructor
    · intro hblank
      exact Or.inr ⟨head, rest, rfl, hblank⟩
    · rintro (hnone | ⟨head', rest', hsame, hblank⟩)
      · exact absurd hmarker hnone
      · obtain ⟨rfl, -⟩ := Prod.mk.inj (Option.some.inj hsame)
        exact hblank

/-- The receiver that is found is the trimmed text before the first call. -/
theorem matches_of_find? (h : s.find? line = some c) :
    ∃ head rest, IsFirst (· = s.marker) line head s.marker rest ∧ s.Matches line head c := by
  have hline := line_eq_of_find? h
  cases hm : breakOn? s.marker line with
  | none => simp [find?, hm] at h
  | some parts =>
    obtain ⟨head, rest⟩ := parts
    simp only [find?, hm, Option.bind_eq_bind, Option.bind_some, Option.ite_none_left_eq_some,
      Option.some.injEq] at h
    obtain ⟨hempty, hc⟩ := h
    -- trimmed on both sides; the offset is that of the blanks before
    have htext : c.text = trim head := by rw [← hc]
    have hbefore : c.before = head.takeWhile isBlank := by rw [← hc]
    refine ⟨head, rest, isFirst_eq_iff.mpr hm, Capture.standsOn_of_line_eq hline, ?_, ?_, ?_⟩
    · simpa [htext] using hempty
    · rw [← hc]
    · have htrimmed := isTrimmed_trim head
      rw [← htext] at htrimmed
      exact ⟨_, _, htrimmed, by rw [Capture.start, hbefore]⟩

end CallSuffix

/-- The searches for a literal return what they promise, for all delimiters and markers and on all
lines.  A search fails exactly when there is no left delimiter or no marker, or nothing to capture.
-/
theorem searches_keep_promises :
    (∀ (d : Delimited) (line : Text),
      (d.find? line = none ↔ ¬ d.left <:+: line ∨
        ∃ lead segment, d.Cuts line lead segment ∧ UpToFirst d.right segment []) ∧
      ∀ c, d.find? line = some c →
        ∃ lead segment, d.Cuts line lead segment ∧ d.Matches line lead segment c) ∧
    ∀ (s : CallSuffix) (line : Text),
      (s.find? line = none ↔ ¬ s.marker <:+: line ∨
        ∃ head rest, IsFirst (· = s.marker) line head s.marker rest ∧
          ∀ c ∈ head, isBlank c = true) ∧
      ∀ c, s.find? line = some c →
        ∃ head rest, IsFirst (· = s.marker) line head s.marker rest ∧ s.Matches line head c := by
  constructor
  · intro d line
    exact ⟨Delimited.find?_eq_none_iff, fun c => Delimited.matches_of_find?⟩
  · intro s line
    exact ⟨CallSuffix.find?_eq_none_iff, fun c => CallSuffix.matches_of_find?⟩

/-- Delimiters that overlap each other, a literal of two bytes that the next left delimiter cuts
off, and a receiver between blanks. -/
theorem searches_keep_promises_overlapping :
    let d : Delimited := ⟨"aa".toList, "ba".toList⟩
    let c : Capture := ⟨"xaa".toList, "é".toList, "aaba".toList, false⟩
    let s : CallSuffix := ⟨".setFill()".toList⟩
    let r : Capture := ⟨" ".toList, "UIColor.white".toList, " .setFill()".toList, true⟩
    d.find? "xaaéaaba".toList = some c ∧
    (∃ lead segment, d.Cuts "xaaéaaba".toList lead segment ∧
      d.Matches "xaaéaaba".toList lead segment c) ∧
    s.find? " UIColor.white .setFill()".toList = some r ∧
    ∃ head rest, IsFirst (· = s.marker) " UIColor.white .setFill()".toList head s.marker rest ∧
      s.Matches " UIColor.white .setFill()".toList head r := by
  intro d c s r
  have hc : d.find? "xaaéaaba".toList = some c := by decide
  have hr : s.find? " UIColor.white .setFill()".toList = some r := by decide
  exact ⟨hc, (searches_keep_promises.1 d _).2 c hc, hr, (searches_keep_promises.2 s _).2 r hr⟩

end LayerView
