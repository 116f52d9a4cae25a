import LayerView.Proofs.Lines
import LayerView.Proofs.OneLine
import Mathlib.Data.List.Sort

/-!
# Following lines through passes

A line of a view has a history: it was drawn or was added, then literals on it were replaced one by
one, and carriage returns at its end may have gone when a source was cut into lines.  A trace is such
a history.  A list of traces follows all lines at once; it is carried through a pass by the law of
edits, and through cutting and joining by the law of joined lines.

Main statements:
- `Traceable.edit`, `Traceable.cut`: what a pass does to histories, and what cutting does
- `Traceable.literals`, `Traceable.insertion`: the same for the two sorts of passes over a source
- `Traceable.provenance`: the history of all lines as an increasing map of line numbers
-/

namespace LayerView

open LayerView.Text

/-! ## The history of one line -/

/-- `new` is what the line `old` becomes when findings are replaced on it one after the other, and
carriage returns at its end go in between. -/
inductive Becomes (old : Text) : List Finding → Text → Prop where
  | refl : Becomes old [] old
  | trim {fs : List Finding} {t : Text} : Becomes old fs (t ++ ['\r']) → Becomes old fs t
  | replace {fs : List Finding} {t new : Text} {f : Finding} :
      Becomes old fs t → f.Replaces t new → Becomes old (fs ++ [f]) new

/-- Any number of carriage returns may go. -/
private theorem Becomes.trims {old new t : Text} {fs : List Finding} (h : Becomes old fs t)
    (ht : Trims t new) : Becomes old fs new := by
  obtain ⟨n, rfl⟩ := ht
  induction n with
  | zero => simpa using h
  -- one at a time, the last one first
  | succ n ih =>
    rw [List.replicate_succ', ← List.append_assoc] at h
    exact ih h.trim

/-- A reference is never made of carriage returns alone. -/
private theorem Finding.exists_mem_reference (f : Finding) : ∃ c ∈ f.reference, c ≠ '\r' := by
  cases f with
  | color v => exact ⟨'s', List.mem_append_left _ (by decide), by decide⟩
  | text v => exact ⟨'T', List.mem_append_right _ (by decide), by decide⟩
  | font v => exact ⟨'F', List.mem_append_right _ (by decide), by decide⟩

/-- Either nothing was replaced, or something is left that does not go with the line's ending. -/
private theorem Becomes.trims_or_exists_mem {old new : Text} {fs : List Finding}
    (h : Becomes old fs new) : (fs = [] ∧ Trims old new) ∨ ∃ c ∈ new, c ≠ '\r' := by
  induction h with
  | refl => exact Or.inl ⟨rfl, trims_refl old⟩
  | @trim fs t _ ih =>
    rcases ih with ⟨hfs, n, hold⟩ | ⟨c, hc, hne⟩
    · exact Or.inl ⟨hfs, n + 1, by rw [hold, List.replicate_succ, List.append_assoc]; rfl⟩
    · -- only a carriage return was dropped, so `c` is still there
      rcases List.mem_append.mp hc with hc | hc
      · exact Or.inr ⟨c, hc, hne⟩
      · exact absurd (List.mem_singleton.mp hc) hne
  | @replace fs t new f _ hrep _ =>
    obtain ⟨before, after, -, rfl⟩ := hrep
    -- the reference is on the line now
    obtain ⟨c, hc, hne⟩ := f.exists_mem_reference
    exact Or.inr ⟨c, List.mem_append_left _ (List.mem_append_right _ hc), hne⟩

/-- A line that became empty held only carriage returns, and nothing was replaced on it. -/
theorem Becomes.blank {old : Text} {fs : List Finding} (h : Becomes old fs []) :
    fs = [] ∧ ∀ c ∈ old, c = '\r' := by
  rcases h.trims_or_exists_mem with ⟨hfs, n, hold⟩ | ⟨c, hc, -⟩
  · refine ⟨hfs, ?_⟩
    intro c hc
    rw [hold] at hc
    simpa using List.eq_of_mem_replicate hc
  · simp at hc

/-- The history of a line: whether it was added, the line it stems from, what was replaced on it, and
the line that it is now. -/
structure Trace where
  added : Bool
  first : Text
  findings : List Finding
  last : Text

namespace Trace

/-- A line of the drawing. -/
def ofDrawn (l : Text) : Trace := ⟨false, l, [], l⟩

/-- A line that was just added. -/
def ofAdded (l : Text) : Trace := ⟨true, l, [], l⟩

/-- The history is true: an added line is one that may be, and findings were made in the order of the
passes `ks`, one at most by each. -/
structure Sound (ok : Text → Prop) (ks : List Kind) (t : Trace) : Prop where
  becomes : Becomes t.first t.findings t.last
  kinds : (t.findings.map Finding.kind).Sublist ks
  stems : t.added = true → ok t.first

variable {α : Type} {finding? : α → Option Finding} {ok : Text → Prop} {ks new : List Kind}

private theorem sound_ofDrawn (l : Text) : (ofDrawn l).Sound ok ks where
  becomes := .refl
  kinds := List.nil_sublist ks
  stems h := by simp [ofDrawn] at h

private theorem sound_ofAdded {l : Text} (h : ok l) : (ofAdded l).Sound ok ks where
  becomes := .refl
  kinds := List.nil_sublist ks
  stems _ := h

/-- The history after an edit of the line, between those of the lines added to it. -/
def edit (finding? : α → Option Finding) (t : Trace) (e : Edit α) : List Trace :=
  e.above.map ofAdded ++
    { t with findings := t.findings ++ (e.found?.bind finding?).toList, last := e.line } ::
      e.below.map ofAdded

/-- An edit that keeps the law keeps histories true. -/
theorem Sound.edit {t : Trace} {e : Edit α} (h : t.Sound ok ks)
    (he : e.Follows finding? ok t.last)
    (hnew : ∀ v, ((finding? v).toList.map Finding.kind).Sublist new) :
    ∀ u ∈ t.edit finding? e, u.Sound ok (ks ++ new) := by
  intro u hu
  -- above and below the line there are only fresh traces
  have hadded : ∀ ls : List Text, (∀ l ∈ ls, l ∈ e.above ++ e.below) →
      u ∈ ls.map ofAdded → u.Sound ok (ks ++ new) := by
    intro ls hls hu
    obtain ⟨l, hl, rfl⟩ := List.mem_map.mp hu
    exact sound_ofAdded (he.adds l (hls l hl))
  rcases List.mem_append.mp hu with hu | hu
  · exact hadded e.above (fun l hl => List.mem_append_left _ hl) hu
  rcases List.mem_cons.mp hu with rfl | hu
  · cases hfound : e.found?.bind finding? with
    | none =>
      refine ⟨?_, ?_, h.stems⟩
      · simpa [he.keeps hfound] using h.becomes
      · simpa using h.kinds.trans (List.sublist_append_left ks new)
    | some f =>
      -- the new finding comes last, and so does the kind that this pass looks for
      obtain ⟨v, -, hv⟩ := Option.bind_eq_some_iff.mp hfound
      refine ⟨h.becomes.replace (he.replaces f hfound), ?_, h.stems⟩
      have hkind : [f.kind].Sublist new := by simpa [hv] using hnew v
      simpa using h.kinds.append hkind
  · exact hadded e.below (fun l hl => List.mem_append_right _ hl) hu

end Trace

/-! ## The history of all lines -/

/-- The lines of the drawing among traced lines, as they were drawn. -/
def drawnLines (ts : List Trace) : List Text := (ts.filter (!·.added)).map Trace.first

/-- All lines `now` have a history that starts at the lines `drawing` and in which the findings `all`
were replaced, each once.  Of the drawing no line is missing but blank ones at the end. -/
structure Traced (drawing : List Text) (ok : Text → Prop) (ks : List Kind) (all : List Finding)
    (now : List Text) (ts : List Trace) : Prop where
  kept : ∃ blanks, drawing = drawnLines ts ++ blanks ∧ ∀ l ∈ blanks, ∀ c ∈ l, c = '\r'
  sound : ∀ t ∈ ts, t.Sound ok ks
  accounts : (ts.flatMap Trace.findings).Perm all
  last : ts.map Trace.last = now

/-- Lines that have a history. -/
def Traceable (drawing : List Text) (ok : Text → Prop) (ks : List Kind) (all : List Finding)
    (now : List Text) : Prop := ∃ ts, Traced drawing ok ks all now ts

theorem drawnLines_append (ts us : List Trace) :
    drawnLines (ts ++ us) = drawnLines ts ++ drawnLines us := by
  simp [drawnLines]

private theorem drawnLines_map_ofAdded (ls : List Text) :
    drawnLines (ls.map Trace.ofAdded) = [] := by
  simp [drawnLines, List.filter_map, Function.comp_def, Trace.ofAdded]

/-- Every drawing has the history in which nothing happened. -/
theorem traceable_self (drawing : List Text) (ok : Text → Prop) :
    Traceable drawing ok [] [] drawing := by
  refine ⟨drawing.map Trace.ofDrawn, ⟨[], ?_, by simp⟩, ?_, ?_, ?_⟩
  · simp [drawnLines, List.filter_map, Function.comp_def, Trace.ofDrawn]
  · intro t ht
    obtain ⟨l, -, rfl⟩ := List.mem_map.mp ht
    exact Trace.sound_ofDrawn l
  · simp [List.flatMap_map, Trace.ofDrawn]
  · simp [Function.comp_def, Trace.ofDrawn]

/-! ## A pass -/

section Pass

variable {α : Type} {finding? : α → Option Finding} {ts : List Trace} {es : List (Edit α)}

/-- The traces of all lines after a pass. -/
def editTraces (finding? : α → Option Finding) (ts : List Trace) (es : List (Edit α)) :
    List Trace :=
  (List.zipWith (Trace.edit finding?) ts es).flatten

private theorem editTraces_cons (t : Trace) (ts : List Trace) (e : Edit α) (es : List (Edit α)) :
    editTraces finding? (t :: ts) (e :: es) = t.edit finding? e ++ editTraces finding? ts es := by
  simp [editTraces]

/-- A pass takes no line of the drawing away. -/
theorem drawnLines_editTraces (h : ts.length = es.length) :
    drawnLines (editTraces finding? ts es) = drawnLines ts := by
  induction ts generalizing es with
  | nil => simp [editTraces]
  | cons t ts ih =>
    cases es with
    | nil => simp at h
    | cons e es =>
      -- of the lines at an edit only its own may be drawn
      have hedit : drawnLines (t.edit finding? e) = drawnLines [t] := by
        rw [Trace.edit, drawnLines_append, drawnLines_map_ofAdded, List.nil_append,
          ← List.singleton_append, drawnLines_append, drawnLines_map_ofAdded, List.append_nil]
        cases hadded : t.added <;> simp [drawnLines, hadded]
      rw [editTraces_cons, drawnLines_append, hedit, ih (by simpa using h), ← drawnLines_append,
        List.singleton_append]

theorem map_last_editTraces (h : ts.length = es.length) :
    (editTraces finding? ts es).map Trace.last = es.flatMap Edit.lines := by
  induction ts generalizing es with
  | nil =>
    obtain rfl : es = [] := List.length_eq_zero_iff.mp h.symm
    rfl
  | cons t ts ih =>
    cases es with
    | nil => simp at h
    | cons e es =>
      rw [editTraces_cons, List.map_append, ih (by simpa using h), List.flatMap_cons]
      simp [Trace.edit, Edit.lines, Function.comp_def, Trace.ofAdded]

/-- Of what was found nothing is lost, and what the pass finds comes to it. -/
theorem perm_findings_editTraces (h : ts.length = es.length) :
    ((editTraces finding? ts es).flatMap Trace.findings).Perm
      (ts.flatMap Trace.findings ++ es.filterMap fun e => e.found?.bind finding?) := by
  induction ts generalizing es with
  | nil =>
    obtain rfl : es = [] := List.length_eq_zero_iff.mp h.symm
    simp [editTraces]
  | cons t ts ih =>
    cases es with
    | nil => simp at h
    | cons e es =>
      have hadded : ∀ ls : List Text, (ls.map Trace.ofAdded).flatMap Trace.findings = [] := by
        intro ls
        simp [List.flatMap_map, Trace.ofAdded]
      have hedit : (t.edit finding? e).flatMap Trace.findings =
          t.findings ++ (e.found?.bind finding?).toList := by
        rw [Trace.edit, List.flatMap_append, hadded, List.nil_append, List.flatMap_cons, hadded,
          List.append_nil]
      have hfound : (e :: es).filterMap (fun e => e.found?.bind finding?) =
          (e.found?.bind finding?).toList ++ es.filterMap fun e => e.found?.bind finding? := by
        cases hf : e.found?.bind finding? <;> simp [hf]
      rw [editTraces_cons, List.flatMap_append, hedit, List.flatMap_cons, hfound,
        List.append_assoc, List.append_assoc]
      -- the finding at the head moves past the earlier findings of the other lines
      refine List.Perm.append_left _ (((ih (by simpa using h)).append_left _).trans ?_)
      rw [← List.append_assoc, ← List.append_assoc]
      exact List.perm_append_comm.append_right _

/-- A whole pass keeps histories true. -/
theorem sound_editTraces {ok : Text → Prop} {ks new : List Kind}
    (h : List.Forall₂ (fun t e => e.Follows finding? ok t.last) ts es)
    (hts : ∀ t ∈ ts, t.Sound ok ks)
    (hnew : ∀ v, ((finding? v).toList.map Finding.kind).Sublist new) :
    ∀ t ∈ editTraces finding? ts es, t.Sound ok (ks ++ new) := by
  induction h with
  | nil => simp [editTraces]
  | @cons t e ts es hte _ ih =>
    intro u hu
    rw [editTraces_cons, List.mem_append] at hu
    -- at the first edit, or at one of the others
    rcases hu with hu | hu
    · exact (hts t List.mem_cons_self).edit hte hnew u hu
    · exact ih (fun t' ht' => hts t' (List.mem_cons_of_mem t ht')) u hu

end Pass

/-- A pass that obeys the law of edits keeps the history of every line. -/
theorem Traceable.edit {α : Type} {finding? : α → Option Finding} {drawing now : List Text}
    {ok : Text → Prop} {ks new : List Kind} {all : List Finding} {es : List (Edit α)}
    (h : Traceable drawing ok ks all now)
    (hes : List.Forall₂ (fun l e => e.Follows finding? ok l) now es)
    (hnew : ∀ v, ((finding? v).toList.map Finding.kind).Sublist new) :
    Traceable drawing ok (ks ++ new) (all ++ es.filterMap fun e => e.found?.bind finding?)
      (es.flatMap Edit.lines) := by
  obtain ⟨ts, hts⟩ := h
  -- the edits are of the lines that the histories lead to
  have hfollows : List.Forall₂ (fun t e => e.Follows finding? ok t.last) ts es := by
    rw [← hts.last, List.forall₂_map_left_iff] at hes
    exact hes
  have hlength := hfollows.length_eq
  refine ⟨editTraces finding? ts es, ?_, ?_, ?_, map_last_editTraces hlength⟩
  · rw [drawnLines_editTraces hlength]
    exact hts.kept
  · exact sound_editTraces hfollows hts.sound hnew
  · exact (perm_findings_editTraces hlength).trans (hts.accounts.append_right _)

/-! ## Cutting into lines -/

/-- The traces of lines whose endings were trimmed. -/
private theorem exists_trimmed {ok : Text → Prop} {ks : List Kind} {ts : List Trace}
    {ls : List Text}
    (h : List.Forall₂ (fun t l => Trims t.last l) ts ls) (hts : ∀ t ∈ ts, t.Sound ok ks) :
    ∃ us : List Trace, drawnLines us = drawnLines ts ∧
      us.flatMap Trace.findings = ts.flatMap Trace.findings ∧ us.map Trace.last = ls ∧
      ∀ u ∈ us, u.Sound ok ks := by
  induction h with
  | nil => exact ⟨[], rfl, rfl, rfl, by simp⟩
  | @cons t l ts ls htl _ ih =>
    obtain ⟨us, hdrawn, hfindings, hlast, hsound⟩ :=
      ih fun t' ht' => hts t' (List.mem_cons_of_mem t ht')
    have ht := hts t List.mem_cons_self
    -- only the last line of each history changes
    refine ⟨{ t with last := l } :: us, ?_, by simp [hfindings], by simp [hlast], ?_⟩
    · rw [← List.singleton_append, drawnLines_append, hdrawn, ← List.singleton_append,
        drawnLines_append]
      cases hadded : t.added <;> simp [drawnLines, hadded]
    · intro u hu
      rcases List.mem_cons.mp hu with rfl | hu
      · exact ⟨ht.becomes.trims htl, ht.kinds, ht.stems⟩
      · exact hsound u hu

/-- Lines that were joined and are cut again keep their history; lines that go at the end were blank
from the start. -/
theorem Traceable.cut {drawing now : List Text} {ok : Text → Prop} {ks : List Kind}
    {all : List Finding} {ending : Text → Text} (he : TakesEnding ending)
    (h : Traceable drawing ok ks all now) (hnow : ∀ l ∈ now, '\n' ∉ l) :
    Traceable drawing ok ks all ((pieces (joinLines now)).map ending) := by
  obtain ⟨ts, ⟨blanks, hdrawing, hblanks⟩, hsound, haccounts, hlast⟩ := h
  obtain ⟨kept, gone, hsplit, hgone, hcut⟩ := map_pieces_joinLines he hnow
  rw [hsplit] at hlast
  obtain ⟨ts₁, ts₂, rfl, rfl, rfl⟩ := List.map_eq_append_iff.mp hlast
  rw [List.forall₂_map_left_iff] at hcut
  obtain ⟨us, hdrawn, hfindings, hlast', hsound'⟩ :=
    exists_trimmed hcut fun t ht => hsound t (List.mem_append_left _ ht)
  -- a line that goes is empty now, so nothing was found on it and it was blank
  have hblank : ∀ t ∈ ts₂, t.findings = [] ∧ ∀ c ∈ t.first, c = '\r' := by
    intro t ht
    have hempty : t.last = [] := hgone _ (List.mem_map_of_mem ht)
    have hbecomes := (hsound t (List.mem_append_right _ ht)).becomes
    rw [hempty] at hbecomes
    exact hbecomes.blank
  refine ⟨us, ⟨drawnLines ts₂ ++ blanks, ?_, ?_⟩, hsound', ?_, hlast'⟩
  · rw [hdrawing, hdrawn, drawnLines_append, List.append_assoc]
  · intro l hl
    rcases List.mem_append.mp hl with hl | hl
    · obtain ⟨t, ht, rfl⟩ := List.mem_map.mp hl
      exact (hblank t (List.mem_filter.mp ht).1).2
    · exact hblanks l hl
  · have hnone : ts₂.flatMap Trace.findings = [] :=
      List.flatMap_eq_nil_iff.mpr fun t ht => (hblank t ht).1
    rw [List.flatMap_append, hnone, List.append_nil] at haccounts
    rw [hfindings]
    exact haccounts

/-! ## The two sorts of passes -/

section Source

variable {α : Type} {drawing : List Text} {ok : Text → Prop} {ks : List Kind} {all : List Finding}
  {source : Text} {es : List (Edit α)} {ending ending' : Text → Text}

/-- A pass over the lines of a source, and the lines of what it leaves. -/
theorem Traceable.pass {finding? : α → Option Finding} {new : List Kind}
    (h : Traceable drawing ok ks all ((pieces source).map ending)) (he : TakesEnding ending)
    (he' : TakesEnding ending') (hok : ∀ t, ok t → '\n' ∉ t)
    (hes : List.Forall₂ (fun l e => e.Follows finding? ok l) ((pieces source).map ending) es)
    (hnew : ∀ v, ((finding? v).toList.map Finding.kind).Sublist new) :
    Traceable drawing ok (ks ++ new) (all ++ es.filterMap fun e => e.found?.bind finding?)
      ((pieces (Edit.source es)).map ending') := by
  apply (h.edit hes hnew).cut he'
  intro t ht
  obtain ⟨e, hemem, hte⟩ := List.mem_flatMap.mp ht
  obtain ⟨l, hl, hfollows⟩ := exists_line_of_mem hes hemem
  obtain ⟨p, hp, rfl⟩ := List.mem_map.mp hl
  exact hfollows.feed_notMem (he.feed_notMem hp) hok t hte

/-- A pass that turns literals of one kind into properties. -/
theorem Traceable.literals {finding : α → Finding} {k : Kind}
    (h : Traceable drawing ok ks all ((pieces source).map ending)) (he : TakesEnding ending)
    (he' : TakesEnding ending') (hok : ∀ t, ok t → '\n' ∉ t)
    (hes : List.Forall₂ (fun l e => e.Follows (some ∘ finding) ok l)
      ((pieces source).map ending) es) (hk : ∀ v, (finding v).kind = k) :
    Traceable drawing ok (ks ++ [k]) (all ++ (Edit.findings es).map finding)
      ((pieces (Edit.source es)).map ending') := by
  have hfound : (es.filterMap fun e => e.found?.bind (some ∘ finding)) =
      (Edit.findings es).map finding := by
    simp [Edit.findings, List.map_filterMap, Option.map_eq_bind]
  rw [← hfound]
  exact h.pass he he' hok hes fun v => by simp [hk]

/-- A pass that only adds lines. -/
theorem Traceable.insertion (h : Traceable drawing ok ks all ((pieces source).map ending))
    (he : TakesEnding ending) (he' : TakesEnding ending') (hok : ∀ t, ok t → '\n' ∉ t)
    (hes : List.Forall₂ (fun l e => e.Follows (fun _ => none) ok l)
      ((pieces source).map ending) es) :
    Traceable drawing ok ks all ((pieces (Edit.source es)).map ending') := by
  have hnone : ∀ v : α, ((none : Option Finding).toList.map Finding.kind).Sublist [] := by simp
  simpa using h.pass he he' hok hes hnone

end Source

/-! ## Line numbers -/

/-- How the lines `view` stem from the lines `drawing`.  The lines of the drawing, all but blank ones
at its end, have their places in the view in the same order; what is at no such place was inserted.  On
each line at most one color, then one text, then one font was replaced, and the findings on all lines
together are the findings `all`. -/
structure Provenance (inserted : Text → Prop) (all : List Finding) (drawing view : List Text) where
  {m n : Nat}
  kept : Fin m → Text
  blanks : List Text
  out : Fin n → Text
  place : Fin m ↪o Fin n
  found : Fin n → List Finding
  drawing_eq : drawing = List.ofFn kept ++ blanks
  blank : ∀ l ∈ blanks, ∀ c ∈ l, c = '\r'
  view_eq : view = List.ofFn out
  becomes : ∀ i, Becomes (kept i) (found (place i)) (out (place i))
  stems : ∀ j, j ∉ Set.range place → ∃ t, inserted t ∧ Becomes t (found j) (out j)
  once : ∀ j, ((found j).map Finding.kind).Sublist [.color, .text, .font]
  accounts : (List.ofFn found).flatten.Perm all

/-- The numbers of the drawn lines among traced lines, in order. -/
def drawnPlaces (ts : List Trace) : List (Fin ts.length) :=
  (List.finRange ts.length).filter fun j => !(ts.get j).added

private theorem strictMono_drawnPlaces (ts : List Trace) : StrictMono (drawnPlaces ts).get :=
  List.sortedLT_iff_strictMono_get.mp ((List.pairwise_lt_finRange _).filter _).sortedLT

private theorem drawnLines_eq_ofFn (ts : List Trace) :
    drawnLines ts = List.ofFn fun i => (ts.get ((drawnPlaces ts).get i)).first := by
  have hfilter : ts.filter (!·.added) = (drawnPlaces ts).map ts.get := by
    calc ts.filter (!·.added) = ((List.finRange ts.length).map ts.get).filter (!·.added) := by
          rw [List.map_get_finRange]
      _ = (drawnPlaces ts).map ts.get := List.filter_map
  calc drawnLines ts = (drawnPlaces ts).map fun j => (ts.get j).first := by
        rw [drawnLines, hfilter, List.map_map]
        rfl
    _ = (List.ofFn (drawnPlaces ts).get).map fun j => (ts.get j).first := by rw [List.ofFn_get]
    _ = List.ofFn fun i => (ts.get ((drawnPlaces ts).get i)).first := List.map_ofFn

/-- Traced lines in line numbers. -/
theorem Traceable.provenance {drawing view : List Text} {inserted : Text → Prop}
    {all : List Finding} (h : Traceable drawing inserted [.color, .text, .font] all view) :
    Nonempty (Provenance inserted all drawing view) := by
  obtain ⟨ts, ⟨blanks, hdrawing, hblanks⟩, hsound, haccounts, hlast⟩ := h
  have hmap : ∀ {β : Type} (f : Trace → β), ts.map f = List.ofFn fun j => f (ts.get j) := by
    intro β f
    exact (List.ofFn_getElem_eq_map ts f).symm
  refine ⟨{
    kept := fun i => (ts.get ((drawnPlaces ts).get i)).first
    blanks := blanks
    out := fun j => (ts.get j).last
    place := OrderEmbedding.ofStrictMono _ (strictMono_drawnPlaces ts)
    found := fun j => (ts.get j).findings
    drawing_eq := by rw [hdrawing, drawnLines_eq_ofFn]
    blank := hblanks
    view_eq := by rw [← hlast, hmap]
    becomes := fun i => (hsound _ (List.get_mem ts _)).becomes
    stems := ?_
    once := fun j => (hsound _ (List.get_mem ts j)).kinds
    accounts := by rw [← hmap, ← List.flatMap_def]; exact haccounts }⟩
  intro j hj
  refine ⟨(ts.get j).first, ?_, (hsound _ (List.get_mem ts j)).becomes⟩
  apply (hsound _ (List.get_mem ts j)).stems
  -- a line that was not added has its number among the places
  by_contra hadded
  have hmem : j ∈ drawnPlaces ts := by
    rw [drawnPlaces, List.mem_filter]
    exact ⟨List.mem_finRange j, by simpa using hadded⟩
  obtain ⟨i, hi⟩ := List.get_of_mem hmem
  exact hj ⟨i, hi⟩

end LayerView
