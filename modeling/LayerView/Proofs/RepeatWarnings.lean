import LayerView.Proofs.ConversionEvents
import LayerView.Proofs.LineStarts
import LayerView.Proofs.RunSteps

/-!
# Warnings on repeated names

Whether repeated names are reported is asked for on the command line or in the settings.  The answer
is used in two places that do not know of each other: the conversion makes its reports, and the log
lets warnings through to the error stream.  A run shows its warnings because the two agree, whatever
level the settings choose for the stream.

What a successful run adds to the error stream is known from its steps: the events that get through,
and a word on the clipboard.  The lines that warn of a repeated name are then those of the duplicates,
and all else that the run leaves behind is the same with and without them.

Main statements:
- `run_perform_ok`: what a successful run on a Swift drawing reads, delivers and tells
- `shownNames_eq`: the names whose reports get through to the stream
- `warningLines_streamLines`: the lines of these reports among all others
- `warnings_are_duplicates`: the warnings of a successful run
-/

namespace LayerView

open LayerView.Text LayerView.Machine

namespace Command

variable {s s' : Machine}

/-! ## Delivering a view -/

/-- A text is in the file that it was meant for, unless that is the file at a given place, or on the
clipboard if it was meant for none. -/
structure Delivered (apart? : Option Location) (output? : Option Path) (t : Text) (s : Machine) :
    Prop where
  written : ∀ path, output? = some path → apart? ≠ some (Disk.place path) →
    s.files (Disk.place path) = some (encode t)
  copied : output? = none → s.copied? = some t

/-- A machine with the scene in which a text was delivered. -/
private theorem Delivered.of_scene {place? : Option Location} {output? : Option Path} {t u : Text}
    {a : Scene} (h : s.scene.Apart place? ((delivered a output? t).tell u)) :
    Delivered place? output? t s := by
  cases output? with
  | none => exact ⟨fun _ hpath => absurd hpath nofun, fun _ => h.copied_eq⟩
  | some output =>
    refine ⟨?_, fun hnone => absurd hnone nofun⟩
    intro path hpath hplace
    obtain rfl := Option.some.inj hpath
    exact (h.files_eq _ hplace).trans (Function.update_self _ _ _)

/-- Delivering a view prints nothing. -/
@[simp] theorem output_delivered (a : Scene) (output? : Option Path) (t : Text) :
    (delivered a output? t).output = a.output := by
  cases output? with
  | none => rfl
  | some output => rfl

/-- Delivering a view tells of the clipboard, if it goes there. -/
@[simp] theorem errors_delivered (a : Scene) (output? : Option Path) (t : Text) :
    (delivered a output? t).errors = a.errors ++ copyNote output? := by
  cases output? with
  | none => rfl
  | some output => exact (List.append_nil a.errors).symm

/-! ## A successful run -/

/-- A Swift drawing is always converted. -/
theorem convert_swift {o : Options} (ho : o.dialect = .swift) (source : Text) :
    convert o source =
      ⟨some (Conversion.run o source).value, (Conversion.run o source).events⟩ := by
  unfold convert
  rw [ho]

/-- What is read from a path of a Swift drawing is a Swift drawing. -/
private theorem run_load_swift {input : Path} {drawing : Input}
    (hswift : Path.dialect? input = some .swift)
    (hrun : (Source.load Host.machine input).run s = (.ok drawing, s')) :
    ∃ source, drawing = .swift input source := by
  unfold Source.load at hrun
  rw [hswift] at hrun
  obtain ⟨r, s₁, -, h⟩ := run_bind_eq_iff.mp hrun
  split at h
  · exact absurd h run_pure_error_ne_ok
  case h_2 source =>
    obtain ⟨hdrawing, -⟩ := run_pure_eq_iff.mp h
    exact ⟨source, (Except.ok.inj hdrawing).symm⟩

/-- What a run reads: its settings, and the drawing once its log is open. -/
structure Reads (config? : Option Path) (input : Path) (s : Machine) (settings : Settings)
    (source : Text) : Prop where
  loaded : (Settings.load Host.machine config?).run s = (.ok settings, s)
  read : (Source.load Host.machine input).run (opened settings.logging s) =
    (.ok (.swift input source), opened settings.logging s)

/-- A run reads one thing only. -/
theorem Reads.unique {config? : Option Path} {input : Path} {settings settings' : Settings}
    {source source' : Text} (h : Reads config? input s settings source)
    (h' : Reads config? input s settings' source') : settings = settings' ∧ source = source' := by
  have hsettings := h.loaded.symm.trans h'.loaded
  obtain rfl := Except.ok.inj (Prod.mk.inj hsettings).1
  have hsource := h.read.symm.trans h'.read
  exact ⟨rfl, (Input.swift.inj (Except.ok.inj (Prod.mk.inj hsource).1)).2⟩

/-- Whether a run is asked to report repeated names. -/
def isVerbose (i : Invocation) (settings : Settings) : Bool :=
  i.verbose || settings.defaults.verbose

/-- The threshold of the error stream of a run, as long as the environment says nothing. -/
def thresholdOf (i : Invocation) (settings : Settings) : Threshold :=
  streamThreshold settings.logging (isVerbose i settings)

/-- The events of a run before its view is delivered. -/
def eventsOf (i : Invocation) (settings : Settings) (input : Path) (source : Text) : List Event :=
  .converting input .swift (optionsFor i settings .swift).baseType ::
    (convert (optionsFor i settings .swift) source).events

/-- The event of a run after its view was delivered. -/
def lastEvent (view : Conversion) : Event := .swiftConverted view.declarations.length

/-- The text that a run adds to the error stream. -/
def toldBy (i : Invocation) (settings : Settings) (input : Path) (source : Text)
    (view : Conversion) : Text :=
  streamLines (thresholdOf i settings) (eventsOf i settings input source) ++
    copyNote i.outputPath? ++ streamLines (thresholdOf i settings) [lastEvent view]

/-- A successful run on a Swift drawing: what it reads and makes of it, and what is then to be
seen. -/
theorem run_perform_ok {i : Invocation} {input : Path} {report : Report}
    (hinput : i.inputPath? = some input) (hswift : Path.dialect? input = some .swift)
    (hunset : lookUp s.environment levelVariable = none)
    (hrun : (perform Host.machine i).run s = (.ok report, s')) :
    ∃ settings source view, Reads i.config? input s settings source ∧
      (convert (optionsFor i settings .swift) source).value = some view ∧
      report = swiftReport input i.outputPath? view ∧
      s'.scene.Apart (loggingPlace? settings.logging) ((delivered (s.scene.tell (streamLines
        (thresholdOf i settings) (eventsOf i settings input source))) i.outputPath?
          view.source).tell (streamLines (thresholdOf i settings) [lastEvent view])) := by
  rcases run_perform hrun with
    ⟨_, settings, log, s₁, input', drawing, a, hreport, hreading, hfirst, hsucceeds⟩ | ⟨e, he, -⟩
  case inr => exact absurd he.symm nofun
  case inl =>
    obtain rfl := Except.ok.inj hreport
    obtain rfl := Option.some.inj (hreading.from_input.symm.trans hinput)
    obtain ⟨source, rfl⟩ := run_load_swift hswift hreading.read
    obtain ⟨rfl, hopened, hlog⟩ := run_start hreading.started
    obtain ⟨hplace, hstream⟩ := hlog log rfl
    -- the environment says nothing, so the stream has the threshold of the settings
    have hthreshold : log.stream = thresholdOf i settings := by
      rw [hstream, hunset]
      rfl
    cases hsucceeds with
    | swift converted apart =>
      refine ⟨settings, source, _, ⟨hreading.loaded, hreading.read⟩, converted, rfl, ?_⟩
      rw [hplace, hthreshold] at apart hfirst
      -- nothing is told before the conversion starts
      have hbefore := (hfirst.trans (hopened.tell _)).tell (streamLines (thresholdOf i settings)
        (convert (optionsFor i settings .swift) source).events)
      rw [Scene.tell_tell, ← streamLines_cons] at hbefore
      exact apart.trans ((delivered_apart hbefore _ _).tell _)

/-! ## Reports that get through -/

/-- A verbose run lets warnings through, whatever word the settings have for the level. -/
private theorem allows_warn_streamThreshold (l : Logging) :
    allows (streamThreshold l true) .warn = true := by
  unfold streamThreshold withWarnings
  dsimp only
  split
  · -- either the level lets warnings through already, or they are added
    split
    · assumption
    · rfl
  · contradiction

/-- Only one event is about a repeated name. -/
theorem eq_nameRepeated {e : Event} {name : Text} (h : e.repeatedName? = some name) :
    e = .nameRepeated name := by
  cases e
  case nameRepeated => rw [Option.some.inj h]
  all_goals contradiction

/-- A threshold that lets warnings through keeps no report on a repeated name back. -/
private theorem filterMap_repeatedName?_filter {t : Threshold} (h : allows t .warn = true)
    (es : List Event) :
    (es.filter fun e => allows t e.level).filterMap Event.repeatedName? =
      es.filterMap Event.repeatedName? := by
  rw [List.filterMap_filter]
  apply List.filterMap_congr
  intro e _
  -- an event that is no report gives nothing either way, and a report is a warning
  cases hname : e.repeatedName? with
  | none => rw [ite_self]
  | some name =>
    rw [eq_nameRepeated hname]
    exact if_pos h

/-- The names whose reports a threshold lets through. -/
def shownNames (t : Threshold) (es : List Event) : List Text :=
  (es.filter fun e => allows t e.level).filterMap Event.repeatedName?

/-- The conversion reports repeated names exactly when the run is asked to. -/
private theorem verbose_optionsFor (i : Invocation) (settings : Settings) :
    (optionsFor i settings .swift).verbose = isVerbose i settings := Bool.or_comm _ _

/-- A run that is asked to report repeated names shows a report for each of the duplicates, in order,
and no other run shows any. -/
theorem shownNames_eq {i : Invocation} {settings : Settings} {source : Text} {view : Conversion}
    (hview : (convert (optionsFor i settings .swift) source).value = some view) (input : Path) :
    shownNames (thresholdOf i settings) (eventsOf i settings input source ++ [lastEvent view]) =
      if isVerbose i settings then view.duplicates else [] := by
  rw [convert_swift rfl] at hview
  obtain rfl := Option.some.inj hview
  -- before the threshold, the reports are those that the conversion makes
  have hmade : (eventsOf i settings input source ++ [lastEvent
      (Conversion.run (optionsFor i settings .swift) source).value]).filterMap Event.repeatedName? =
      if isVerbose i settings then
        (Conversion.run (optionsFor i settings .swift) source).value.duplicates else [] := by
    rw [List.filterMap_append, eventsOf, convert_swift rfl, List.filterMap_cons_none rfl,
      Conversion.repeatedNames_events_run, verbose_optionsFor, List.filterMap_cons_none rfl,
      List.filterMap_nil, List.append_nil]
  unfold shownNames thresholdOf
  -- with verbosity the threshold lets all reports through; without it there are none
  cases hverbose : isVerbose i settings with
  | true =>
    rw [filterMap_repeatedName?_filter (allows_warn_streamThreshold _), hmade, hverbose]
  | false =>
    rw [hverbose, if_neg Bool.false_ne_true, List.filterMap_eq_nil_iff] at hmade
    rw [if_neg Bool.false_ne_true, List.filterMap_eq_nil_iff]
    exact fun e he => hmade e (List.mem_of_mem_filter he)

/-! ## Lines that warn -/

/-- How a line starts that warns of a repeated name. -/
def warningStart : Text := "WARN duplicate variable named ".toList

/-- The lines of a text that warn of a repeated name. -/
def warningLines (t : Text) : List Text := (lines t).filter fun l => warningStart.isPrefixOf l

/-- The line of a report, with the start by which it is told. -/
theorem line_nameRepeated (name : Text) :
    (Event.nameRepeated name).line = warningStart ++ (name.flatMap Event.shown ++
      ". Consider renaming your source files.".toList) := by
  -- the fixed parts of the message hold nothing that is shown in another way
  have hstart : "duplicate variable named ".toList.flatMap Event.shown =
      "duplicate variable named ".toList := by decide +kernel
  have hend : ". Consider renaming your source files.".toList.flatMap Event.shown =
      ". Consider renaming your source files.".toList := by decide +kernel
  have hword : warningStart =
      Level.word .warn ++ " ".toList ++ "duplicate variable named ".toList := by decide
  unfold Event.line Event.message Event.level Event.details
  rw [List.flatMap_append, List.flatMap_append, hstart, hend, hword, List.flatMap_nil,
    List.append_nil]
  simp only [List.append_assoc]

/-- No other event has a line that starts so. -/
private theorem not_warningStart_isPrefix_line {e : Event} (h : e.repeatedName? = none) :
    ¬ warningStart <+: e.line := by
  intro hline
  -- two starts of one line are comparable, and the messages of other events differ early
  have hcomparable := List.prefix_or_prefix_of_prefix hline
    (List.prefix_append (e.level.word ++ " ".toList ++ e.message.flatMap Event.shown) _)
  cases e
  case nameRepeated => contradiction
  all_goals exact absurd hcomparable (of_decide_eq_true rfl)

/-- A line that warns is kept, without a return at its end. -/
theorem warningLines_append_feed {line : Text} (h : '\n' ∉ line) (rest : Text) :
    warningLines (line ++ '\n' :: rest) =
      (if warningStart <+: line then [dropFinal '\r' line] else []) ++ warningLines rest := by
  have hiff := prefix_iff_of_trims (by decide : '\r' ∉ warningStart) (trims_dropFinal line)
  unfold warningLines
  rw [lines_append_feed, lines_concat_line h, List.filter_append]
  -- the return at the end of a line does not change how it starts
  by_cases hline : warningStart <+: line
  · simp [hline, hiff]
  · simp [hline, hiff]

/-- The line of an event warns exactly if the event is a report. -/
private theorem warningLines_lineOf {e : Event} (h : '\n' ∉ e.line) (rest : Text) :
    warningLines (Log.lineOf e ++ rest) =
      (e.repeatedName?.map fun name => (Event.nameRepeated name).line).toList ++
        warningLines rest := by
  have hcut : Log.lineOf e ++ rest = e.line ++ '\n' :: rest := List.append_assoc _ _ _
  rw [hcut, warningLines_append_feed h]
  cases hname : e.repeatedName? with
  | none => rw [if_neg (not_warningStart_isPrefix_line hname), Option.map_none, Option.toList_none]
  | some name =>
    obtain rfl := eq_nameRepeated hname
    -- the line ends with a full stop, so nothing is cut off
    have hlast : dropFinal '\r' (Event.nameRepeated name).line = (Event.nameRepeated name).line := by
      rw [line_nameRepeated, ← List.append_assoc]
      simp [dropFinal]
    rw [if_pos (line_nameRepeated name ▸ List.prefix_append _ _), hlast, Option.map_some,
      Option.toList_some]

/-- Among the lines of events those that warn are the reports on repeated names. -/
theorem warningLines_streamLines {t : Threshold} {es : List Event}
    (h : ∀ e ∈ es, allows t e.level = true → '\n' ∉ e.line) (rest : Text) :
    warningLines (streamLines t es ++ rest) =
      (shownNames t es).map (fun name => (Event.nameRepeated name).line) ++ warningLines rest := by
  -- line by line: an event that is kept back adds neither a line nor a name
  induction es with
  | nil => rfl
  | cons e es ih =>
    have hrest := ih fun e' he' => h e' (List.mem_cons_of_mem e he')
    rw [streamLines_cons, List.append_assoc, streamLines_singleton]
    cases hallows : allows t e.level with
    | false => simpa [shownNames, hallows] using hrest
    | true =>
      rw [if_pos rfl, warningLines_lineOf (h e List.mem_cons_self hallows), hrest]
      cases hname : e.repeatedName? <;> simp [shownNames, hallows, hname]

/-- The word on the clipboard is no warning. -/
private theorem warningLines_copyNote (output? : Option Path) (rest : Text) :
    warningLines (copyNote output? ++ rest) = warningLines rest := by
  cases output? with
  | some path => rfl
  | none =>
    have hnote : copyNote none = "Copied result to clipboard.".toList ++ ['\n'] := by decide
    rw [hnote, List.append_assoc, List.singleton_append, warningLines_append_feed (by decide),
      if_neg (by decide), List.nil_append]

/-- The warnings in the text of a run, where the event that is about its arguments is one line or is
not shown. -/
theorem warningLines_toldBy {i : Invocation} {settings : Settings} {input : Path} {source : Text}
    (view : Conversion)
    (h : allows (thresholdOf i settings) .debug = true →
      '\n' ∉ input ∧ '\n' ∉ (optionsFor i settings .swift).baseType) :
    warningLines (toldBy i settings input source view) =
      (shownNames (thresholdOf i settings)
        (eventsOf i settings input source ++ [lastEvent view])).map
          fun name => (Event.nameRepeated name).line := by
  -- the first event is about the arguments, all others are of the conversion
  have hbefore : ∀ e ∈ eventsOf i settings input source,
      allows (thresholdOf i settings) e.level = true → '\n' ∉ e.line := by
    intro e he hallows
    rcases List.mem_cons.mp he with rfl | he
    · obtain ⟨hinput, hbase⟩ := h hallows
      refine Event.feed_notMem_line nofun ?_
      intro d hd
      simp only [Event.details, List.mem_cons, List.not_mem_nil, or_false] at hd
      rcases hd with rfl | rfl | rfl
      · exact hinput
      · exact (by decide : '\n' ∉ Event.quoted (Dialect.word .swift))
      · exact hbase
    · rw [convert_swift rfl] at he
      exact Conversion.feed_notMem_of_mem_events he
  -- the last event shows a number
  have hlast : ∀ e ∈ [lastEvent view],
      allows (thresholdOf i settings) e.level = true → '\n' ∉ e.line := by
    intro e he _
    obtain rfl := List.mem_singleton.mp he
    apply Event.IsPlain.feed_notMem_line
    apply Event.isPlain_of_counts rfl
    exact fun d hd => ⟨_, congrArg Prod.snd (List.mem_singleton.mp hd)⟩
  have hend := warningLines_streamLines hlast []
  rw [List.append_nil] at hend
  unfold toldBy
  rw [List.append_assoc, warningLines_streamLines hbefore, warningLines_copyNote, hend]
  simp only [shownNames, List.filter_append, List.filterMap_append, List.map_append]
  exact congrArg _ (List.append_nil _)

/-! ## The warnings of a run -/

/-- What a run on a Swift drawing leaves for its caller: the view, and the report in which its
declarations and duplicates are. -/
structure Shows (i : Invocation) (input : Path) (settings : Settings) (view : Conversion)
    (s s' : Machine) : Prop where
  delivered : Delivered (loggingPlace? settings.logging) i.outputPath? view.source s'
  printed : s'.output = s.output ++ (swiftReport input i.outputPath? view).text i.json

/-- A command line whose run succeeds on a Swift drawing: what it reads and makes of it, what it
leaves for its caller, and what it tells. -/
theorem run_runCommand_ok {arguments : List Text} {i : Invocation} {input : Path}
    (hrequest : Request.ofArguments arguments = .ok (.convert i))
    (hinput : i.inputPath? = some input) (hswift : Path.dialect? input = some .swift)
    (hunset : lookUp s.environment levelVariable = none)
    (hrun : (runCommand Host.machine arguments).run s = (0, s')) :
    ∃ settings source view, Reads i.config? input s settings source ∧
      (convert (optionsFor i settings .swift) source).value = some view ∧
      Shows i input settings view s s' ∧
      s'.errors = s.errors ++ toldBy i settings input source view := by
  unfold runCommand at hrun
  rw [hrequest] at hrun
  rcases run_runInvocation hrun with ⟨report, s₁, hperform, -, hs⟩ |
    ⟨e, s₁, -, hends⟩ | ⟨report, s₁, cause, -, hstatus, -⟩
  case inr.inl =>
    -- a run that ends early has another status
    rcases hends with ⟨hstatus, -⟩ | ⟨hstatus, -⟩
    · exact absurd hstatus Nat.zero_ne_one
    · exact absurd hstatus (by decide)
  case inr.inr => exact absurd hstatus (by decide)
  case inl =>
    obtain ⟨settings, source, view, hreads, hview, rfl, hscene⟩ :=
      run_perform_ok hinput hswift hunset hperform
    refine ⟨settings, source, view, hreads, hview, ⟨?_, ?_⟩, ?_⟩
    · -- printing the report leaves the view where it is
      obtain ⟨hwritten, hcopied⟩ := Delivered.of_scene hscene
      have hfiles : s'.files = s₁.files := congrArg Scene.files hs
      have hclipboard : s'.copied? = s₁.copied? := congrArg Scene.copied? hs
      rw [← hfiles] at hwritten
      rw [← hclipboard] at hcopied
      exact ⟨hwritten, hcopied⟩
    · have hsaid : s'.output = s₁.output ++ _ := congrArg Scene.output hs
      have hsilent : s₁.output = s.output := hscene.output_eq.trans (output_delivered _ _ _)
      rw [hsaid, hsilent]
    · have hsame : s'.errors = s₁.errors := congrArg Scene.errors hs
      have htold : s₁.errors = (delivered _ _ _).errors ++ _ := hscene.errors_eq
      rw [hsame, htold, errors_delivered]
      unfold toldBy Scene.tell
      simp only [List.append_assoc]
      rfl

/-- A successful run on a Swift drawing, with no level in the environment, reads settings and a
drawing and converts it to a view.  The view is the same whether or not repeated names are reported,
and so is all that this run, and any other that differs only in its verbosity, leaves for its caller.
The error stream gets the events that its threshold lets through.  Among them the reports on repeated
names are those of the duplicates of the view, in order, if the command line or the settings ask for
them, and there are none otherwise.  They are also the lines of the stream that warn of a repeated
name, as long as no other event brings lines of its own. -/
theorem warnings_are_duplicates (arguments : List Text) (i : Invocation) (input : Path)
    (s s' : Machine) (hrequest : Request.ofArguments arguments = .ok (.convert i))
    (hinput : i.inputPath? = some input) (hswift : Path.dialect? input = some .swift)
    (hunset : lookUp s.environment levelVariable = none)
    (hrun : (runCommand Host.machine arguments).run s = (0, s')) :
    ∃ settings source view, Reads i.config? input s settings source ∧
      (∀ verbose, (convert { optionsFor i settings .swift with verbose } source).value =
        some view) ∧
      Shows i input settings view s s' ∧
      (∀ arguments' verbose s'', Request.ofArguments arguments' = .ok (.convert { i with verbose }) →
        (runCommand Host.machine arguments').run s = (0, s'') → Shows i input settings view s s'') ∧
      s'.errors = s.errors ++ toldBy i settings input source view ∧
      shownNames (thresholdOf i settings) (eventsOf i settings input source ++ [lastEvent view]) =
        (if i.verbose || settings.defaults.verbose then view.duplicates else []) ∧
      ((allows (thresholdOf i settings) .debug = true →
          '\n' ∉ input ∧ '\n' ∉ (optionsFor i settings .swift).baseType) →
        warningLines (toldBy i settings input source view) =
          if i.verbose || settings.defaults.verbose then
            view.duplicates.map fun name => (Event.nameRepeated name).line
          else []) := by
  obtain ⟨settings, source, view, hreads, hview, hshows, htells⟩ :=
    run_runCommand_ok hrequest hinput hswift hunset hrun
  have hsame : ∀ verbose, (convert { optionsFor i settings .swift with verbose } source).value =
      some view := by
    intro verbose
    rw [← hview, convert_swift rfl, convert_swift rfl, Conversion.value_run_verbose]
  have hnames := shownNames_eq hview input
  refine ⟨settings, source, view, hreads, hsame, hshows, ?_, htells, hnames, ?_⟩
  · intro arguments' verbose s'' hrequest' hrun'
    obtain ⟨settings', source', view', hreads', hview', hshows', -⟩ :=
      run_runCommand_ok hrequest' hinput hswift hunset hrun'
    -- both runs read the same
    obtain ⟨rfl, rfl⟩ := hreads.unique hreads'
    have hoptions : optionsFor { i with verbose } settings .swift =
        { optionsFor i settings .swift with verbose := settings.defaults.verbose || verbose } := rfl
    rw [hoptions, hsame] at hview'
    obtain rfl := Option.some.inj hview'
    exact ⟨hshows'.delivered, hshows'.printed⟩
  · intro hline
    rw [warningLines_toldBy view hline, hnames]
    unfold isVerbose
    split
    · rfl
    · rfl

/-! ## A run that is quiet but for its warnings -/

/-- A machine with a drawing of two fills of one layer, and with settings that ask for reports on
repeated names and turn the stream off. -/
def quietMachine : Machine where
  disk :=
    { files :=
        [(["Dots.swift".toList], encode "/// Dot\na.setFill()\nb.setFill()\n".toList),
         (["quiet.toml".toList], encode ("version = 1\ntranspiler.verbose = true\n" ++
            "logging.level = \"off\"\n").toList)] }

/-- What is asked for in `quietArguments`. -/
def quietInvocation : Invocation where
  paths := ["Dots.swift".toList, "view.swift".toList]
  config? := some "quiet.toml".toList

/-- The command line that converts the drawing. -/
def quietArguments : List Text :=
  ["--config".toList, "quiet.toml".toList, "Dots.swift".toList, "view.swift".toList]

/-- The two warnings of that run. -/
def quietWarnings : Text :=
  ("WARN duplicate variable named dotFillColor. Consider renaming your source files.\n" ++
    "WARN duplicate variable named dotFrame. Consider renaming your source files.\n").toList

/-- What this run comes to. -/
private theorem run_quiet :
    ((runCommand Host.machine quietArguments).run quietMachine).1 = 0 ∧
    ((runCommand Host.machine quietArguments).run quietMachine).2.errors = quietWarnings := by
  decide +kernel

/-- The settings ask for the reports and turn the stream off: the two warnings come through, and
nothing else does. -/
theorem warnings_are_duplicates_quiet :
    Request.ofArguments quietArguments = .ok (.convert quietInvocation) ∧
    quietInvocation.inputPath? = some "Dots.swift".toList ∧
    Path.dialect? "Dots.swift".toList = some .swift ∧
    lookUp quietMachine.environment levelVariable = none ∧
    ((runCommand Host.machine quietArguments).run quietMachine).1 = 0 ∧
    ∃ settings source view,
      Reads quietInvocation.config? "Dots.swift".toList quietMachine settings source ∧
      Shows quietInvocation "Dots.swift".toList settings view quietMachine
        ((runCommand Host.machine quietArguments).run quietMachine).2 ∧
      quietWarnings = toldBy quietInvocation settings "Dots.swift".toList source view ∧
      shownNames (thresholdOf quietInvocation settings)
        (eventsOf quietInvocation settings "Dots.swift".toList source ++ [lastEvent view]) =
          if settings.defaults.verbose then view.duplicates else [] := by
  have hrequest : Request.ofArguments quietArguments = .ok (.convert quietInvocation) := by
    decide +kernel
  obtain ⟨hstatus, herrors⟩ := run_quiet
  have hrun : (runCommand Host.machine quietArguments).run quietMachine =
      (0, ((runCommand Host.machine quietArguments).run quietMachine).2) := by
    rw [← hstatus]
    exact (Prod.eta _).symm
  obtain ⟨settings, source, view, hreads, -, hshows, -, htold, hnames, -⟩ :=
    warnings_are_duplicates quietArguments quietInvocation "Dots.swift".toList quietMachine _
      hrequest (by decide) (by decide) (by decide) hrun
  rw [herrors] at htold
  exact ⟨hrequest, by decide, by decide, by decide, hstatus, settings, source, view, hreads, hshows,
    htold, hnames⟩

end Command

end LayerView
