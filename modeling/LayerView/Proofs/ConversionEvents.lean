import LayerView.Proofs.Declaring
import LayerView.Proofs.OneLine

/-!
# What a conversion reports

The passes report each literal they find, each frame they assign and each call that draws a text.
All of this is taken from single lines of the source, so every report is one line.  None of it is
about repeated names: these are reported by the conversion itself, between the passes and the
declarations, and only on request.  Nothing else of a conversion depends on that request.

Main statements:
- `Event.IsPlain.feed_notMem_line`: reports that hold parts of lines are lines
- `LiteralKind.Yields.isPlain_of_mem_reports`, `reports_frames`, `mem_reports_textsFrom`: the reports
  of a pass
- `exists_events_run`: where the reports on repeated names stand among the others
- `repeatedNames_events_run`: the names they report
- `value_run_verbose`: what does not depend on them
-/

namespace LayerView

open LayerView.Text

namespace Event

/-- The name that an event reports as repeated. -/
def repeatedName? : Event → Option Text
  | .nameRepeated name => some name
  | _ => none

/-- An event on something else than a repeated name, with all details on one line. -/
structure IsPlain (e : Event) : Prop where
  unnamed : e.repeatedName? = none
  details_oneLine : ∀ d ∈ e.details, '\n' ∉ d.2

/-! ## Events on one line -/

/-- A character that is not a line feed is not shown as one, even if it is shown by its code. -/
private theorem feed_notMem_shown {c : Char} (hc : c ≠ '\n') : '\n' ∉ shown c := by
  -- all controls are below `0xa0`, so their codes are few
  have hcodes : ∀ n < 0xa0, '\n' ∉ Nat.toDigits 16 n := by decide +kernel
  unfold shown
  split
  · simpa using Ne.symm hc
  case isFalse hcontrol =>
    have hlt : c.toNat < 0xa0 := by
      simp only [isControl, List.mem_cons, List.not_mem_nil, or_false, Bool.not_eq_true',
        Bool.or_eq_false_iff, decide_eq_false_iff_not, not_and, Bool.and_eq_false_imp,
        decide_eq_true_eq] at hcontrol
      omega
    have hdigits := hcodes c.toNat hlt
    dsimp only
    split <;> simp [hdigits, List.mem_replicate]

private theorem feed_notMem_flatMap_shown {t : Text} (h : '\n' ∉ t) : '\n' ∉ t.flatMap shown := by
  intro hm
  obtain ⟨c, hc, hshown⟩ := List.mem_flatMap.mp hm
  exact feed_notMem_shown (fun e => h (e ▸ hc)) hshown

private theorem feed_notMem_word (l : Level) : '\n' ∉ l.word := by
  cases l <;> decide

private theorem feed_notMem_message {e : Event}
    (h : ∀ name, e.repeatedName? = some name → '\n' ∉ name) : '\n' ∉ e.message := by
  cases e
  case nameRepeated name =>
    exact List.not_mem_append (List.not_mem_append (by decide) (h name rfl)) (by decide)
  all_goals exact of_decide_eq_true rfl

private theorem feed_notMem_key {e : Event} {d : String × Text} (hd : d ∈ e.details) :
    '\n' ∉ d.1.toList := by
  -- the keys of an event do not depend on what it holds
  have hkeys : ∀ key ∈ e.details.map Prod.fst, '\n' ∉ key.toList := by
    cases e <;> simp [details]
  exact hkeys d.1 (List.mem_map_of_mem hd)

/-- An event is a line if the name it may report and its details are on one line. -/
theorem feed_notMem_line {e : Event} (hname : ∀ name, e.repeatedName? = some name → '\n' ∉ name)
    (hdetails : ∀ d ∈ e.details, '\n' ∉ d.2) : '\n' ∉ e.line := by
  have hshown := feed_notMem_flatMap_shown (feed_notMem_message hname)
  have hstart : '\n' ∉ e.level.word ++ " ".toList :=
    List.not_mem_append (feed_notMem_word _) (by decide)
  refine List.not_mem_append (List.not_mem_append hstart hshown) ?_
  intro hm
  obtain ⟨d, hd, hdetail⟩ := List.mem_flatMap.mp hm
  have hkey := feed_notMem_key hd
  have hvalue := hdetails d hd
  simp [hkey, hvalue] at hdetail

theorem IsPlain.feed_notMem_line {e : Event} (h : e.IsPlain) : '\n' ∉ e.line := by
  apply Event.feed_notMem_line
  · intro name hname
    rw [h.unnamed] at hname
    exact absurd hname.symm (Option.some_ne_none name)
  · exact h.details_oneLine

private theorem feed_notMem_count (n : Nat) : '\n' ∉ count n := PointSize.feed_notMem_digitsOf n

/-- An event with two details. -/
theorem isPlain_of_pair {e : Event} {key key' : String} {value value' : Text}
    (hname : e.repeatedName? = none) (hdetails : e.details = [(key, value), (key', value')])
    (h : '\n' ∉ value) (h' : '\n' ∉ value') : e.IsPlain := by
  refine ⟨hname, fun d hd => ?_⟩
  rw [hdetails] at hd
  rcases List.mem_cons.mp hd with rfl | hd
  · exact h
  · obtain rfl := List.mem_singleton.mp hd
    exact h'

/-- An event whose details are numbers. -/
theorem isPlain_of_counts {e : Event} (hname : e.repeatedName? = none)
    (h : ∀ d ∈ e.details, ∃ n, d.2 = count n) : e.IsPlain := by
  refine ⟨hname, fun d hd => ?_⟩
  obtain ⟨n, hn⟩ := h d hd
  rw [hn]
  exact feed_notMem_count n

end Event

/-! ## The reports of a pass -/

/-- How a finding is reported. -/
def Finding.event : Finding → Event
  | .color v => .colorFound v.name v.color
  | .text v => .textFound v.name v.text
  | .font v => .fontFound v.name v.expression

/-- A finding whose literal is on one line is reported on one line. -/
theorem Finding.isPlain_event {f : Finding} (h : '\n' ∉ f.literal) : f.event.IsPlain := by
  have hname := f.toVariable.feed_notMem_name
  cases f with
  | color v => exact Event.isPlain_of_pair rfl rfl hname h
  | text v =>
    -- the quotes of the literal are not reported
    exact Event.isPlain_of_pair rfl rfl hname fun hm =>
      h (List.mem_append_left _ (List.mem_append_right _ hm))
  | font v => exact Event.isPlain_of_pair rfl rfl hname h

/-- A pass that reports on each line what it found there reports its findings in order. -/
theorem Edit.reports_eq_map {α : Type} {event : α → Event} {es : List (Edit α)}
    (h : ∀ e ∈ es, e.events = (e.found?.map event).toList) :
    reports es = (findings es).map event := by
  induction es with
  | nil => rfl
  | cons e es ih =>
    have hrest := ih fun e' he' => h e' (List.mem_cons_of_mem e he')
    unfold reports findings at *
    rw [List.flatMap_cons, h e List.mem_cons_self, hrest]
    cases hfound : e.found? with
    | none => rw [List.filterMap_cons_none hfound, Option.map_none, Option.toList_none,
        List.nil_append]
    | some v => rw [List.filterMap_cons_some hfound, List.map_cons, Option.map_some,
        Option.toList_some, List.singleton_append]

namespace Pass

/-- A pass over literals of one kind reports each of its findings, and such a report is one line. -/
theorem LiteralKind.Yields.isPlain_of_mem_reports {α β : Type} {k : LiteralKind β α}
    {finding : α → Finding} (h : k.Yields finding) (hevent : ∀ v, (finding v).event = k.event v)
    {mark source : Text} {e : Event} (he : e ∈ Edit.reports (k.edits mark source)) : e.IsPlain := by
  have hreports : Edit.reports (k.edits mark source) =
      (Edit.findings (k.edits mark source)).map k.event := by
    apply Edit.reports_eq_map
    intro edit hedit
    obtain ⟨l, -, rfl⟩ := List.mem_map.mp hedit
    unfold editAt
    split <;> rfl
  rw [hreports] at he
  obtain ⟨v, hv, rfl⟩ := List.mem_map.mp he
  rw [← hevent]
  exact Finding.isPlain_event (feed_notMem_literal (h.forall₂_edits mark source fun _ => True) hv)

theorem reports_frames (fs : List FrameVariable) (source : Text) :
    Edit.reports (frames fs source) =
      (Edit.findings (frames fs source)).map fun f => .frameAssigned f.name := by
  apply Edit.reports_eq_map
  intro e he
  obtain ⟨l, -, rfl⟩ := List.mem_map.mp he
  unfold frameEditAt
  split <;> rfl

/-- On one line a text or a call that draws one is reported. -/
private theorem mem_events_textEditAt {mark source : Text} {w : DrawWatch} {l : Located} {e : Event}
    (h : e ∈ (textEditAt mark source w l).1.events) :
    (∃ v, (textEditAt mark source w l).1.found? = some v ∧ e = (Finding.text v).event) ∨
      e = .drawCallFound (trim l.line) := by
  unfold textEditAt at h ⊢
  split at h
  case h_1 c hc =>
    split at h
    case h_1 label hlabel => exact Or.inl ⟨_, rfl, List.mem_singleton.mp h⟩
    case h_2 => exact absurd h List.not_mem_nil
  case h_2 =>
    -- no literal on the line, so it can only be a call
    simp only [drawEdit] at h
    split at h
    · exact absurd h List.not_mem_nil
    · exact Or.inr (List.mem_singleton.mp h)

/-- Everything the pass over texts reports is a text it found or a call on a line it read. -/
theorem mem_reports_textsFrom {mark source : Text} {w : DrawWatch} {ls : List Located} {e : Event}
    (h : e ∈ Edit.reports (textsFrom mark source w ls)) :
    (∃ v ∈ Edit.findings (textsFrom mark source w ls), e = (Finding.text v).event) ∨
      ∃ l ∈ ls, e = .drawCallFound (trim l.line) := by
  induction ls generalizing w with
  | nil => exact absurd h List.not_mem_nil
  | cons l ls ih =>
    obtain ⟨edit, hedit, he⟩ := List.mem_flatMap.mp h
    -- the event is of the first line or of one below, with whatever watch is kept there
    rcases List.mem_cons.mp hedit with rfl | hedit
    · rcases mem_events_textEditAt he with ⟨v, hv, hevent⟩ | hcall
      · exact Or.inl ⟨v, List.mem_filterMap.mpr ⟨_, List.mem_cons_self, hv⟩, hevent⟩
      · exact Or.inr ⟨l, List.mem_cons_self, hcall⟩
    · rcases ih (List.mem_flatMap.mpr ⟨edit, hedit, he⟩) with ⟨v, hv, hevent⟩ | ⟨k, hk, hcall⟩
      · obtain ⟨found, hfound, hv⟩ := List.mem_filterMap.mp hv
        exact Or.inl ⟨v, List.mem_filterMap.mpr ⟨found, List.mem_cons_of_mem _ hfound, hv⟩, hevent⟩
      · exact Or.inr ⟨k, List.mem_cons_of_mem l hk, hcall⟩

/-- The pass over texts reports texts and calls, both part of a line. -/
theorem isPlain_of_mem_texts {mark source : Text} {e : Event}
    (h : e ∈ Edit.reports (texts mark source)) : e.IsPlain := by
  rcases mem_reports_textsFrom h with ⟨v, hv, rfl⟩ | ⟨l, hl, rfl⟩
  · exact Finding.isPlain_event (feed_notMem_literal (forall₂_texts mark source) hv)
  · refine ⟨rfl, fun d hd => ?_⟩
    obtain rfl := List.mem_singleton.mp hd
    -- the call is reported trimmed, and trimming adds nothing to the line
    exact fun hm => feed_notMem_of_mem_locatedLines hl (mem_of_mem_trim hm)

end Pass

namespace Conversion

/-- None of the passes reports a repeated name or a detail of several lines. -/
theorem Passes.isPlain_of_mem_events {source : Text} {p : Passes} (hp : Passes.run source = p)
    {e : Event} (h : e ∈ p.events) : e.IsPlain := by
  have hcolors := run_colors source
  have hframes := run_frames source
  have htexts := run_texts source
  have hfonts := run_fonts source
  rw [hp] at hcolors hframes htexts hfonts
  simp only [Passes.events, List.mem_append, List.mem_singleton] at h
  rcases h with (((h | h) | h) | h) | rfl
  · rw [hcolors] at h
    exact Pass.yields_colors.isPlain_of_mem_reports (fun _ => rfl) h
  · rw [hframes, Pass.reports_frames] at h
    obtain ⟨f, -, rfl⟩ := List.mem_map.mp h
    refine ⟨rfl, fun d hd => ?_⟩
    obtain rfl := List.mem_singleton.mp hd
    exact (Variable.frame f).feed_notMem_name
  · rw [htexts] at h
    exact Pass.isPlain_of_mem_texts h
  · rw [hfonts] at h
    exact Pass.yields_fonts.isPlain_of_mem_reports (fun _ => rfl) h
  · -- the last event counts what the passes found
    apply Event.isPlain_of_counts rfl
    intro d hd
    simp only [Event.details, List.mem_cons, List.not_mem_nil, or_false] at hd
    rcases hd with rfl | rfl | rfl | rfl <;> exact ⟨_, rfl⟩

end Conversion

/-! ## The reports of a conversion -/

/-- A variable declares names on one line: its own, and those of its companions. -/
private theorem Variable.feed_notMem_declared_name {v : Variable} {d : Declaration}
    (hd : d ∈ v.declarations) : '\n' ∉ d.name := by
  -- only a text has companions, which are named after its layer too
  rcases List.mem_cons.mp hd with rfl | hd
  · exact v.feed_notMem_name
  · cases v with
    | text t =>
      rcases List.mem_cons.mp hd with rfl | hd
      · exact t.layer.feed_notMem_identifier (by decide)
      · obtain rfl := List.mem_singleton.mp hd
        exact t.layer.feed_notMem_identifier (by decide)
    | color => simp [companions] at hd
    | font => simp [companions] at hd
    | frame => simp [companions] at hd

/-- Names that are reported as repeated were declared, so they are on one line. -/
private theorem ViewClass.feed_notMem_of_mem_duplicates {vs : List Variable} {name : Text}
    (h : name ∈ (grantAll .empty vs).registry.duplicates) : '\n' ∉ name := by
  rw [grantAll, (settled_grant _).duplicates_eq] at h
  obtain ⟨p, hp, rfl⟩ := List.mem_map.mp h
  have hmem := List.fst_mem_of_mem_zipIdx (List.mem_filter.mp hp).1
  obtain ⟨v, -, hd⟩ := List.mem_flatMap.mp hmem
  exact Variable.feed_notMem_declared_name hd

/-- The name of a draw function is part of a line. -/
theorem ViewClass.isPlain_drawEntryAdded {source : Text} {f : DrawFunction}
    (h : firstDrawFunction? source = some f) : (Event.drawEntryAdded f.name).IsPlain := by
  -- the function is declared on a line, and its name is a part of it
  obtain ⟨l, hl, hf⟩ := List.exists_of_findSome?_eq_some h
  simp only [drawFunction?, Option.bind_eq_bind, Option.bind_eq_some_iff] at hf
  obtain ⟨c, hc, rect, -, hf⟩ := hf
  obtain rfl := Option.some.inj hf
  have hline := Delimited.line_eq_of_find? hc
  refine ⟨rfl, fun d hd => ?_⟩
  obtain rfl := List.mem_singleton.mp hd
  intro hm
  apply feed_notMem_of_mem_lines hl
  rw [← hline]
  exact List.mem_append_left _ (List.mem_append_right _ hm)

namespace Conversion

/-- The reports on repeated names stand between others. -/
theorem exists_events_run (o : Options) (source : Text) :
    ∃ before after, (run o source).events =
        before ++ repeatEvents o.verbose (run o source).value.duplicates ++ after ∧
      ∀ e ∈ before ++ after, e.IsPlain := by
  simp only [run]
  generalize hp : Passes.run (viewSource o source) = p
  -- the events of the passes come before, the count of declarations and the entry after
  refine ⟨_, _, List.append_assoc _ _ _, ?_⟩
  intro e he
  simp only [List.mem_append, List.mem_singleton, Option.mem_toList, Option.map_eq_some_iff] at he
  rcases he with he | rfl | ⟨f, hf, rfl⟩
  · exact Passes.isPlain_of_mem_events hp he
  · apply Event.isPlain_of_counts rfl
    intro d hd
    exact ⟨_, congrArg Prod.snd (List.mem_singleton.mp hd)⟩
  · exact ViewClass.isPlain_drawEntryAdded hf

/-- On request a conversion reports each entry of its duplicates, in order; otherwise none. -/
theorem repeatedNames_events_run (o : Options) (source : Text) :
    (run o source).events.filterMap Event.repeatedName? =
      if o.verbose then (run o source).value.duplicates else [] := by
  obtain ⟨before, after, hevents, hplain⟩ := exists_events_run o source
  have hnone : ∀ es : List Event, (∀ e ∈ es, e ∈ before ++ after) →
      es.filterMap Event.repeatedName? = [] := fun es hes =>
    List.filterMap_eq_nil_iff.mpr fun e he => (hplain e (hes e he)).unnamed
  rw [hevents, List.filterMap_append, List.filterMap_append,
    hnone before fun e => List.mem_append_left _, hnone after fun e => List.mem_append_right _,
    List.nil_append, List.append_nil, repeatEvents]
  split
  · rw [List.filterMap_map]
    exact List.filterMap_some
  · rfl

/-- Every event of a conversion is one line of the log. -/
theorem feed_notMem_of_mem_events {o : Options} {source : Text} {e : Event}
    (h : e ∈ (run o source).events) : '\n' ∉ e.line := by
  obtain ⟨before, after, hevents, hplain⟩ := exists_events_run o source
  simp only [hevents, List.mem_append] at h
  rcases h with (h | h) | h
  · exact (hplain e (List.mem_append_left _ h)).feed_notMem_line
  · unfold repeatEvents at h
    split at h
    · obtain ⟨name, hname, rfl⟩ := List.mem_map.mp h
      -- a repeated name is the only part of a message that comes from the source
      apply Event.feed_notMem_line
      · intro n hn
        obtain rfl : name = n := Option.some.inj hn
        simp only [run] at hname
        exact ViewClass.feed_notMem_of_mem_duplicates hname
      · exact fun d hd => absurd hd List.not_mem_nil
    · exact absurd h List.not_mem_nil
  · exact (hplain e (List.mem_append_right _ h)).feed_notMem_line

/-- The view does not depend on whether repeated names are reported. -/
theorem value_run_verbose (o : Options) (verbose : Bool) (source : Text) :
    (run { o with verbose } source).value = (run o source).value := by
  -- only the reports look at the flag
  have hsource : viewSource { o with verbose } source = viewSource o source := rfl
  simp only [run, hsource]

end Conversion

end LayerView
